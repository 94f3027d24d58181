import ConfigLocator.Document.Yaml
import ConfigLocator.Import

/-!
# Handles

A handle names an entry of the backing store that may or may not exist: a path of the file system,
or a file inside an importable package. What it leads to is asked of a host, which is a file tree
with a working directory, an environment, and what is at hand there to import packages and to read
YAML.
-/

namespace ConfigLocator

structure Host where
  tree : FileTree
  workingDirectory : Place
  environment : List (Text × Text)
  /-- What the import of a name comes to while the tree is as it is. -/
  imports : FileTree → Text → Import := fun _ _ => .missing
  /-- The documents in a YAML file. -/
  readYaml : List UInt8 → Except Fault (List Yaml.Document) := Yaml.readDocuments

inductive Handle where
  | file (path : Text)
  | package (name path : Text)
deriving DecidableEq, Repr

namespace Host

/-- Where a dotted package name leads, none if a module is not found. No import is tried for an empty or
a relative name. -/
def packagePlace? (host : Host) (name : Text) : Except Fault (Option Place) :=
  if name = [] then .error (.store .emptyPackageName)
  else if Text.startsWith name Path.current then .error .relativePackage
  else
    match host.imports host.tree name with
    | .package place => .ok (some place)
    | .missing => .ok none
    | .failure kind detail => .error (.component kind detail)
    | .interruption kind detail => .error (.interruption kind detail)

/-- The path at which a path inside a package is looked up. -/
def insidePath (place : Place) (path : Text) : Text :=
  (place ++ (Text.split slash path).filter fun s => s != [] && s != Path.current).toPath

/-- What stands at a path inside a package; a path or a segment beyond its limit is a fault. -/
def packageEntry? (host : Host) (name path : Text) : Except Fault (Option Entry) := do
  match ← host.packagePlace? name with
  | none => .ok none
  | some place =>
    if path.contains 0 then .ok none
    else if FileTree.pathLimit < (insidePath place path).utf8Length then .error (.path .tooLong)
    else
      match host.tree.follow place (Text.split slash path) with
      | .ok found => .ok (host.tree.entry? found)
      | .error .tooLong => .error (.path .tooLong)
      | .error _ => .ok none

def lookup (host : Host) (path : Text) : Except PathFault Entry :=
  host.tree.lookup host.workingDirectory path

/-- The absolute path of a path, by the text alone. -/
def absolutePath (host : Host) (path : Text) : Text :=
  Path.absolute host.workingDirectory.toPath path

end Host

namespace Handle

/-- Outer slashes of a path inside a package do not count. -/
def ofPackage (name path : Text) : Handle := package name (Text.trim (· == slash) path)

def entry? (host : Host) : Handle → Except Fault (Option Entry)
  | file path => .ok (host.lookup path).toOption
  | package name path => host.packageEntry? name path

def exists? (h : Handle) (host : Host) : Except Fault Bool := do
  return (← h.entry? host).isSome

def isDirectory? (h : Handle) (host : Host) : Except Fault Bool := do
  return (← h.entry? host).any Entry.isDirectory

/-- A package has no bytes of its own, nor has a directory in it. -/
def read (h : Handle) (host : Host) : Except Fault (List UInt8) :=
  match h with
  | file path =>
    match host.tree.read host.workingDirectory path with
    | .ok content => .ok content
    | .error fault => .error (.path fault)
  | package name path => do
    match ← host.packageEntry? name path with
    | some (.file content) => .ok content
    | _ => .error (.path .missing)

def fileName : Handle → Text
  | file path => Path.fileName path
  | package name path => if path = [] then name else Text.afterLast slash path

def display (host : Host) : Handle → Text
  | file path =>
    let kind : Text := if (host.lookup path).toOption.any Entry.isDirectory then "directory" else "file"
    kind ++ " [" ++ host.absolutePath path ++ "]"
  | package name path => "package resource [" ++ name ++ "/" ++ path ++ "]"

/-- The quoted form inside a listing. -/
def literal : Handle → Text
  | file path => "FileSystemResource(" ++ path.quoted ++ ")"
  | package name path => "PackageResource(" ++ name.quoted ++ ", " ++ path.quoted ++ ")"

/-- The handle that stands for all with the same absolute path. -/
def canonical (host : Host) : Handle → Handle
  | file path => file (host.absolutePath path)
  | h => h

/-- Both lead to one entry, by the text alone. -/
def same (host : Host) (a b : Handle) : Bool := a.canonical host == b.canonical host

end Handle

end ConfigLocator

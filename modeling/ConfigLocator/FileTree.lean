import ConfigLocator.Fault
import ConfigLocator.Path

/-!
# File trees

A file tree maps the places that exist to what stands there, a regular file or a directory. There are
no symbolic links, devices or pipes, and everything can be read. A place is the list of segments from
the root; the root itself is always a directory. Paths are followed as they are written: every
segment passed on the way, and the one before a trailing slash, has to be a directory
(`FileTree.follow`).
-/

namespace ConfigLocator

inductive Entry where
  | file (content : List UInt8)
  | directory
deriving DecidableEq, Repr

namespace Entry

def isDirectory : Entry → Bool
  | directory => true
  | file _ => false

def isFile : Entry → Bool
  | directory => false
  | file _ => true

end Entry

/-- Segments from the root. -/
abbrev Place := List Text

structure FileTree where
  entries : List (Place × Entry)
deriving Repr

namespace FileTree

def empty : FileTree := ⟨[]⟩

def entry? (tree : FileTree) : Place → Option Entry
  | [] => some .directory
  | place => tree.entries.lookup place

/-- Puts an entry at a place, instead of the one that is there. -/
def put (tree : FileTree) (place : Place) (entry : Entry) : FileTree :=
  ⟨(tree.entries.filter (·.1 != place)) ++ [(place, entry)]⟩

/-- Makes a directory unless something is there. -/
def ensureDirectory (tree : FileTree) (place : Place) : FileTree :=
  if (tree.entry? place).isSome then tree else tree.put place .directory

/-- Makes the directories on the way to a place, and one there. -/
def addDirectory (tree : FileTree) (place : Place) : FileTree :=
  (List.range (place.length + 1)).foldl (fun t n => t.ensureDirectory (place.take n)) tree

def addFile (tree : FileTree) (place : Place) (content : List UInt8) : FileTree :=
  (tree.addDirectory place.dropLast).put place (.file content)

/-- Removes a place with all that is below it. -/
def remove (tree : FileTree) (place : Place) : FileTree :=
  ⟨tree.entries.filter fun (p, _) => !place.isPrefixOf p⟩

/-- Names of the entries directly inside a place. -/
def children (tree : FileTree) (place : Place) : List Text :=
  tree.entries.filterMap fun (p, _) =>
    if p.dropLast = place ∧ p ≠ [] then p.getLast? else none

/-! ## Following a path -/

/-- Greatest length of a segment and of a path, in bytes. -/
def nameLimit : Nat := 255
def pathLimit : Nat := 4095

/-- Follows segments from a place that is known to exist. -/
def follow (tree : FileTree) : Place → List Text → Except PathFault Place
  | place, [] => .ok place
  | place, segment :: rest =>
    if (tree.entry? place).any Entry.isDirectory then
      if segment = [] ∨ segment = Path.current then tree.follow place rest
      else if segment = Path.parent then tree.follow place.dropLast rest
      else if nameLimit < segment.utf8Length then .error .tooLong
      else if (tree.entry? (place ++ [segment])).isSome then tree.follow (place ++ [segment]) rest
      else .error .missing
    else if (tree.entry? place).isSome then .error .notDirectory
    else .error .missing

/-- Where a path leads from a working directory. -/
def locate (tree : FileTree) (workingDirectory : Place) (path : Text) : Except PathFault Place :=
  if path.contains 0 then .error .nulCharacter
  else if path = [] then .error .missing
  else if pathLimit < path.utf8Length then .error .tooLong
  else tree.follow (if Path.isAbsolute path then [] else workingDirectory) (Text.split slash path)

/-- What stands at the end of a path. -/
def lookup (tree : FileTree) (workingDirectory : Place) (path : Text) : Except PathFault Entry := do
  let place ← tree.locate workingDirectory path
  match tree.entry? place with
  | some entry => .ok entry
  | none => .error .missing

/-- The bytes of the file at the end of a path. -/
def read (tree : FileTree) (workingDirectory : Place) (path : Text) :
    Except PathFault (List UInt8) := do
  match ← tree.lookup workingDirectory path with
  | .file content => .ok content
  | .directory => .error .isDirectory

end FileTree

/-- The segments of an absolute path, by the text alone. -/
def Place.ofPath (path : Text) : Place := Path.normalSegments true (Text.split slash path)

/-- The absolute path of a place. -/
def Place.toPath (place : Place) : Text := slash :: Text.join [slash] place

end ConfigLocator

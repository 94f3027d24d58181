import ConfigLocator.FileTree

/-!
# Imports

A package is found by importing its dotted name, which runs code that is not part of this library. So
a host is given what an import comes to (`Import`), and any function of the tree and the name may stand
for it. The code of a package is taken not to raise the faults of this library.

`ModuleDirectory` is one such function, for modules that lie in a directory of a file tree. A
directory with an initial source is a package; without one a source of its name is a module, and only
then does the bare directory hold modules. So a source can hide a directory of its name.
-/

namespace ConfigLocator

/-- What importing a dotted name comes to. -/
inductive Import where
  /-- A package whose files lie in a directory. -/
  | package (place : Place)
  /-- A module is not found: this one, or one that it needs. -/
  | missing
  /-- The import fails, or what is imported is no package; the kind is the failure's own name. -/
  | failure (kind : Text) (detail : Option Text)
  /-- What is imported asks to leave the program, which is no failure. -/
  | interruption (kind : Text) (detail : Option Text)
deriving DecidableEq, Repr

/-- A directory in which modules are looked for. -/
structure ModuleDirectory where
  place : Place
  /-- Packages that live elsewhere. -/
  installed : List (Text × Place) := []
  /-- How an import ends while a source is run, none if the source runs to its end. -/
  endsIn : List UInt8 → Option Import := fun _ => none

namespace ModuleDirectory

/-- The initial source of a package. -/
def initialSource : Text := "__init__.py"

def sourceEnding : Text := ".py"

/-- The kind of failure where a module is no package. -/
def notPackage : Text := "TypeError"

/-- What one segment of a name stands for. -/
inductive Module where
  | package (place : Place) (source : List UInt8)
  | source (content : List UInt8)
  /-- A directory without an initial source. -/
  | portion (place : Place)

/-- The source that stands at a place. -/
def source? (tree : FileTree) (place : Place) : Option (List UInt8) :=
  match tree.entry? place with
  | some (.file content) => some content
  | _ => none

/-- The module of a name among those in a directory. -/
def find? (tree : FileTree) (place : Place) (segment : Text) : Option Module :=
  match source? tree (place ++ [segment, initialSource]) with
  | some content => some (.package (place ++ [segment]) content)
  | none =>
    match source? tree (place ++ [segment ++ sourceEnding]) with
    | some content => some (.source content)
    | none =>
      if (tree.entry? (place ++ [segment])).any Entry.isDirectory then
        some (.portion (place ++ [segment]))
      else none

/-- Imports segment after segment, each in the directory of the one before it. -/
def importFrom (d : ModuleDirectory) (tree : FileTree) : Place → List Text → Import
  | place, [] => .package place
  | place, segment :: rest =>
    match find? tree place segment with
    | none => .missing
    | some (.portion inner) => d.importFrom tree inner rest
    | some (.package inner source) => (d.endsIn source).getD (d.importFrom tree inner rest)
    | some (.source content) =>
      (d.endsIn content).getD (if rest = [] then .failure notPackage none else .missing)

def imports (d : ModuleDirectory) (tree : FileTree) (name : Text) : Import :=
  match d.installed.lookup name with
  | some place => .package place
  | none => d.importFrom tree d.place (Text.split Path.dot name)

end ModuleDirectory

end ConfigLocator

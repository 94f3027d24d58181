import ConfigLocator.Handle

/-!
# The backing store

Resource locations name entries of the store: a path, possibly behind `file:`, or a path inside a
package behind `package:`. A location with one `*` is a pattern, which stands for the immediate
subdirectories of a directory or for the files of one name in them (`Store.expand`).
-/

namespace ConfigLocator

/-- Relative paths start at the base directory, or at the working directory if there is none. -/
structure Store where
  baseDirectory : Option Text := none

/-- A letter, then letters, digits and wildcards up to a colon, and no line feed behind that except
at the very end. -/
def hasScheme : Text → Bool
  | [] => false
  | first :: rest =>
    Text.isAsciiLetter first &&
      match rest.dropWhile fun c => Text.isAsciiLetter c || Text.isAsciiDigit c || c == wildcard with
      | [] => false
      | c :: body => c == ':' && (body.dropWhile (· != lineFeed)).length ≤ 1

/-- A drive letter looks like a scheme of one letter. -/
def hasDrive : Text → Bool
  | first :: second :: _ => Text.isAsciiLetter first && second == ':'
  | _ => false

def isPattern (location : Text) : Bool := location.contains wildcard

/-- Schemes other than `file:` and `package:` lie beyond the store. -/
def isSupported (location : Text) : Bool :=
  Text.startsWith location fileScheme || Text.startsWith location packageScheme ||
    !hasScheme location || hasDrive location

/-- What a pattern stands for. -/
inductive PatternKind where
  | files
  | directories
deriving DecidableEq, Repr

/-- Two slashes directly behind the scheme belong to it. -/
def withoutFileScheme (location : Text) : Text :=
  match Text.dropLeading? fileScheme location with
  | some path => Text.dropLeading path [slash, slash]
  | none => location

namespace Store

/-- Anchors a relative path. -/
def anchor (store : Store) (path : Text) : Text :=
  match store.baseDirectory with
  | some base => if Path.isAbsolute path then path else Path.append base path
  | none => path

/-- The package is the first segment, the rest is the path inside it. -/
def packageHandle (path : Text) : Except StoreFault Handle :=
  let path := Path.clean (Text.trimStart (· == slash) path)
  let name := path.takeWhile (· != slash)
  if name = [] || name = Path.current then .error (.unnamedPackage path)
  else .ok (Handle.ofPackage name (path.drop (name.length + 1)))

/-- The entry that a location names. -/
def handle (store : Store) (location : Text) : Except StoreFault Handle :=
  if isPattern location then .error (.wildcardInEntry location)
  else if !isSupported location then .error (.scheme location)
  else
    match Text.dropLeading? packageScheme location with
    | some path => packageHandle path
    | none => .ok (.file (store.anchor (Path.clean (withoutFileScheme location))))

/-! ## Patterns -/

/-- What stands between a directory and its subdirectories. -/
def wildcardSegment : Text := [wildcard, slash]

/-- The part of a pattern up to its last segment, for files, or all of it. -/
def patternDirectory (kind : PatternKind) (location : Text) : Text :=
  match kind with
  | .directories => location
  | .files => Text.throughLast slash location

def checkPattern (kind : PatternKind) (location : Text) : Except StoreFault Unit :=
  if !isPattern location then .error (.noWildcard location)
  else if Text.startsWith location packageScheme then .error (.wildcardInPackage location)
  else if location.count wildcard != 1 then .error (.manyWildcards location)
  else if !Text.endsWith (patternDirectory kind location) wildcardSegment then
    .error (.wildcardPlace location)
  else .ok ()

/-- A name in its place among sorted ones. -/
def insertName (name : Text) : List Text → List Text
  | [] => [name]
  | other :: rest =>
    if Text.le name other then name :: other :: rest else other :: insertName name rest

def sortNames (names : List Text) : List Text := names.foldr insertName []

/-- Names of the visible subdirectories of a place, in order. -/
def subdirectoryNames (host : Host) (place : Place) : List Text :=
  sortNames ((host.tree.children place).filter fun name =>
    !Text.startsWith name Path.parent &&
      (host.tree.entry? (place ++ [name])).any Entry.isDirectory)

/-- Paths of the subdirectories that a checked pattern stands for. -/
def subdirectories (store : Store) (host : Host) (pattern : Text) : Except Fault (List Text) := do
  let directory := pattern.takeWhile (· != wildcard)
  let directory : Text := if directory = [] then "./" else directory
  match store.handle directory with
  | .error fault => throw (.store fault)
  | .ok h =>
    if ← h.isDirectory? host then
      match h with
      | .file path =>
        let root := host.absolutePath path
        return (subdirectoryNames host (Place.ofPath root)).map (Path.append root)
      | .package .. => throw .packageListing
    else return []

/-- Existing entries that a pattern stands for, sorted by path. -/
def expand (store : Store) (host : Host) (location : Text) (kind : PatternKind) :
    Except Fault (List Handle) := do
  match checkPattern kind location with
  | .error fault => throw (.store fault)
  | .ok () =>
    let pattern := Text.dropLeading location fileScheme
    let directories ← store.subdirectories host pattern
    match kind with
    | .directories => return directories.map fun path => .file (path ++ [slash])
    | .files =>
      let paths := directories.map (Path.append · (Text.afterLast slash pattern))
      return (paths.filter fun path => (host.lookup path).toOption.any Entry.isFile).map .file

end Store

end ConfigLocator

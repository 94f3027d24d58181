import ConfigLocator.OrderedSet
import ConfigLocator.Probe
import ConfigLocator.Store
import ConfigLocator.Text.Case
import ConfigLocator.Text.Word

/-!
# The standard resolver

The standard resolver takes any location. It first lists the references of every target, which is a
physical location with an optional profile, and then asks the store for each reference in turn.

* A directory (a trailing slash) is scanned: every name is combined with every extension of every
  loader, the loader registered last and its last extension first. If none of the files is there but
  the directory is, a placeholder stands for it.
* Anything else is a file, whose extension has to be known to a loader. A hint `[.ext]` behind the
  name picks the loader and is no part of the file name.
* A location with a wildcard is expanded by the store.
-/

namespace ConfigLocator

structure StandardResolver where
  /-- Base names looked for in directories. -/
  names : List Text
  loaders : List Loader
  store : Store

/-- A physical location, in the default pass or for one profile. -/
structure Target where
  location : Location
  profile : Option Text

abbrev References := OrderedSet Reference Reference.same

/-! ## Extension hints -/

/-- The text without one line feed at its very end. -/
def dropFinalLineFeed (t : Text) : Text :=
  match t.getLast? with
  | some c => if c = lineFeed then t.dropLast else t
  | none => t

/-- The base and the extension (with its dot) of `base[.ext]`, where `ext` is made of word
characters and the base has no line feed. -/
def splitHint? (file : Text) : Option (Text × Text) :=
  match (dropFinalLineFeed file).reverse with
  | [] => none
  | last :: before =>
    let word := before.takeWhile isWord
    match before.drop word.length with
    | point :: bracket :: base =>
      if last = ']' ∧ word ≠ [] ∧ point = Path.dot ∧ bracket = '[' ∧ !base.contains lineFeed then
        some (base.reverse, Path.dot :: word.reverse)
      else none
    | _ => none

/-- The last `n` code points; all of them for `n = 0`. -/
def lastPart (n : Nat) (t : Text) : Text := if n = 0 then t else t.drop (t.length - n)

namespace StandardResolver

/-! ## Listing references -/

/-- A location that starts at the root or with a scheme stands for itself; any other is relative to
the directory of the resource that declared it. -/
def resourceLocation (parent : Option Reference) (location : Location) : Text :=
  let text := location.withoutLead resourceMark
  if Path.isAbsolute text || hasScheme text then text
  else
    match parent with
    | some r => Text.throughLast slash r.resourceLocation ++ text
    | none => text

/-- Candidates for one name in a directory. -/
def nameReferences (r : StandardResolver) (location : Location) (directory : Text)
    (profile : Option Text) (name : Text) : Except Fault References := do
  let pairs ← Loader.candidates r.loaders
  return .reversedPrecedence <| pairs.map fun (loader, extension) =>
    ⟨location, some directory, directory ++ name, profile, some extension, loader⟩

def directoryReferences (r : StandardResolver) (location : Location) (directory : Text)
    (profile : Option Text) : Except Fault References :=
  r.names.foldlM
    (fun found name => do
      return found.insertMany (← r.nameReferences location directory profile name).items)
    .empty

/-- The reference of a named file: its extension is compared without regard to case and kept as it
is written, and the root is what stands before it and the dot. -/
def fileReference (r : StandardResolver) (location : Location) (file : Text)
    (profile : Option Text) : Except Fault Reference := do
  let hint := splitHint? file
  let file :=
    match hint with
    | some (base, extension) => base ++ extension
    | none => file
  let ends := fun extension : Text => Text.endsWith file.lower (Path.dot :: extension.lower)
  match ← Loader.findExtension? ends r.loaders with
  | some (loader, extension) =>
    let written := lastPart extension.length file
    let root := file.take (file.length - (written.length + 1))
    return ⟨location, none, root, profile, if hint.isSome then none else some written, loader⟩
  | none => throw (.unknownExtension (some location) file)

def references (r : StandardResolver) (parent : Option Reference) (target : Target) :
    Except Fault References :=
  wrapFaults target.location do
    let text := resourceLocation parent target.location
    if Path.isDirectoryText text then
      r.directoryReferences target.location text target.profile
    else
      return .ofList [← r.fileReference target.location text target.profile]

/-- The references of each target that no target before it has. -/
def referenceGroups (r : StandardResolver) (parent : Option Reference) (seen : References) :
    List Target → Except Fault (List (List Reference))
  | [] => .ok []
  | target :: rest => do
    let found ← r.references parent target
    let fresh := found.items.filter fun x => !seen.contains x
    return fresh :: (← r.referenceGroups parent (seen.insertMany found.items) rest)

/-! ## Asking the store -/

def storeFault (e : Except StoreFault Handle) : Except Fault Handle :=
  match e with
  | .ok h => .ok h
  | .error fault => .error (.store fault)

/-- An optional location beyond the store counts as missing. -/
def isBeyondStore (reference : Reference) : Bool :=
  reference.location.isOptional && !isSupported reference.resourceLocation

/-- A missing entry is passed over if that is allowed, and otherwise handed out as it is. -/
def probeEntry (r : StandardResolver) (host : Host) (reference : Reference) :
    Probe (List Resource) := do
  let handle ← .ofExcept (storeFault (r.store.handle reference.resourceLocation))
  if !(← .ofExcept (handle.exists? host)) && reference.isSkippable then .skip reference
  else return [⟨reference, handle, false⟩]

def probePattern (r : StandardResolver) (host : Host) (reference : Reference) :
    Probe (List Resource) := do
  let handles ← .ofExcept (r.store.expand host reference.resourceLocation .files)
  if handles.isEmpty && !reference.isSkippable then
    .fail (.locationNotFound (some reference.location)
      (some ("Config data location '" ++ reference.location.toText ++
        "' contains no files matching '" ++ reference.resourceLocation ++ "'")))
  else return handles.map (⟨reference, ·, false⟩)

def probe (r : StandardResolver) (host : Host) (reference : Reference) : Probe (List Resource) :=
  .wrap reference.location <|
    if isBeyondStore reference then .skip reference
    else if isPattern reference.resourceLocation then r.probePattern host reference
    else r.probeEntry host reference

/-! ## Empty directories -/

/-- The placeholder of a scanned directory that exists; packages have none. -/
def entryPlaceholder (r : StandardResolver) (host : Host) (reference : Reference)
    (directory : Text) : Except Fault (List Resource) := do
  let handle ← storeFault (r.store.handle directory)
  match handle with
  | .package .. => return []
  | .file _ => return if ← handle.isDirectory? host then [⟨reference, handle, true⟩] else []

/-- One placeholder for each subdirectory that a pattern stands for. -/
def patternPlaceholders (r : StandardResolver) (host : Host) (reference : Reference)
    (directory : Text) : Except Fault (List Resource) := do
  let handles ← r.store.expand host directory .directories
  if !reference.location.isOptional && handles.isEmpty then
    throw (.locationNotFound (some reference.location)
      (some ("Config data location '" ++ reference.location.toText ++
        "' contains no subdirectories")))
  let existing ← handles.filterM (Handle.exists? · host)
  return existing.map (⟨reference, ·, true⟩)

/-- The placeholders for the directory that a reference was guessed in. -/
def placeholders (r : StandardResolver) (host : Host) (reference : Reference) :
    Except Fault (List Resource) :=
  match reference.directory with
  | none => .ok []
  | some directory =>
    wrapFaults reference.location <|
      if !isSupported directory then .ok []
      else if isPattern reference.resourceLocation then
        r.patternPlaceholders host reference directory
      else r.entryPlaceholder host reference directory

/-- The placeholders of a group, one for each directory. -/
def groupPlaceholders (r : StandardResolver) (host : Host) (group : List Reference) :
    Except Fault (OrderedSet Resource (Resource.same host)) :=
  group.foldlM (fun found reference => do return found.insertMany (← r.placeholders host reference))
    .empty

/-! ## Resolution -/

/-- The resources of each group. One that finds nothing falls back on placeholders, except those
that a group before it has used. -/
def resolveGroups (r : StandardResolver) (host : Host)
    (used : OrderedSet Resource (Resource.same host)) :
    List (List Reference) → Probe (List Resource)
  | [] => pure []
  | group :: rest => do
    let found ← .collect (r.probe host) group
    if found.isEmpty then
      let empty ← .ofExcept (r.groupPlaceholders host group)
      let fresh := empty.items.filter fun x => !used.contains x
      return fresh ++ (← r.resolveGroups host (used.insertMany empty.items) rest)
    else
      return found ++ (← r.resolveGroups host used rest)

def resolveTargets (r : StandardResolver) (host : Host) (parent : Option Reference)
    (targets : List Target) : Probe (List Resource) := do
  let groups ← .ofExcept (r.referenceGroups parent .empty targets)
  r.resolveGroups host .empty groups

/-- The default pass. -/
def resolve (r : StandardResolver) (host : Host) (parent : Option Reference)
    (location : Location) : Probe (List Resource) :=
  r.resolveTargets host parent (location.parts.map (⟨·, none⟩))

/-- The pass for profiles: every part of the location for the first profile, then for the next. -/
def resolveProfiles (r : StandardResolver) (host : Host) (parent : Option Reference)
    (location : Location) (profiles : List Text) : Probe (List Resource) :=
  r.resolveTargets host parent
    (profiles.flatMap fun profile => location.parts.map (⟨·, some profile⟩))

end StandardResolver

end ConfigLocator

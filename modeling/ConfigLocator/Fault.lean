import ConfigLocator.Calendar
import ConfigLocator.Location
import ConfigLocator.Text.Quoted

/-!
# Faults

Everything that can go wrong, by cause. The faults of resolution proper (`Fault.isResolution`) name
a location or resource; the others come from a store, a document, a setting or a component that was
supplied from outside, and reach the user wrapped in `unresolvable` when they arise during
resolution (`Fault.wrap`). Only an interruption is no failure and passes as it is.
`Fault.message?` is the one place where the wording stands.
-/

namespace ConfigLocator

/-- Why a resource location names no entry of the store. -/
inductive StoreFault where
  | wildcardInEntry (location : Text)
  | scheme (location : Text)
  | noWildcard (location : Text)
  | wildcardInPackage (location : Text)
  | manyWildcards (location : Text)
  | wildcardPlace (location : Text)
  | unnamedPackage (path : Text)
  | emptyPackageName
deriving DecidableEq, Repr

/-- Why a path cannot be read. -/
inductive PathFault where
  | nulCharacter
  | missing
  | notDirectory
  | isDirectory
  | tooLong
deriving DecidableEq, Repr

/-- Why a scalar of a document has no value. -/
inductive ScalarFault where
  | numeral (base : Nat) (literal : Text)
  | longNumeral (digits : Nat)
  | decimal (literal : Text)
  | emptyNumeral
  | codePointRange
  | calendar (fault : CalendarFault)
  | notTimestamp
  /-- A date or time that is only the default value of a mapping. -/
  | defaultTimestamp
  | notBoolean
  | outOfRange
deriving DecidableEq, Repr

/-- Why a block does not describe an object. -/
inductive BlueprintFault where
  | unnamed
  | unknownName (name : Text) (available : List Text)
  | ambiguous (key : Text)
  /-- The arguments do not fit the parameters. -/
  | arguments
  /-- An argument is not of a usable kind. -/
  | unsuitable
deriving DecidableEq, Repr

inductive Fault where
  | general (detail : Text)
  | notFound (detail : Text)
  | locationNotFound (location : Option Location) (detail : Option Text)
  | resourceNotFound (resource : Text) (location : Option Location)
  | unsupportedLocation (location : Option Location)
  | unknownExtension (location : Option Location) (file : Text)
  | invalidProperty (key detail : Text)
  | unresolvable (location : Option Location) (cause : Option Fault)
  | store (fault : StoreFault)
  | path (fault : PathFault)
  /-- A package name that starts with a dot is relative to nothing. -/
  | relativePackage
  /-- The subdirectories of a package cannot be listed. -/
  | packageListing
  | scalar (fault : ScalarFault)
  | yaml
  | markup
  | unknownEncoding
  /-- An encoding whose characters are not single bytes. -/
  | multiByteEncoding
  | undecodable
  /-- A value that contains itself. -/
  | endlessValue
  | notMapping (index : Nat) (resource kind : Text)
  | rootElement (tag : Text)
  | entryWithoutKey
  | blueprint (fault : BlueprintFault)
  | pairExpected (index length : Nat)
  /-- A value that has no items. -/
  | notIterable
  /-- A value that cannot be a key. -/
  | unfitKey
  | emptyDelimiter
  | unknownLevel (name : Text)
  /-- A member that every kind of component has to define for itself. -/
  | undefinedMember
  /-- Raised by a component from outside; the kind is its own name for the failure. -/
  | component (kind : Text) (detail : Option Text)
  /-- Raised from outside to leave the program, such as a request to exit. -/
  | interruption (kind : Text) (detail : Option Text)
deriving Repr

namespace StoreFault

def message : StoreFault → Text
  | wildcardInEntry l => "Location '" ++ l ++ "' must not be a pattern"
  | scheme l =>
    "Location '" ++ l ++ "' uses an unsupported scheme, only 'file:' and 'package:' are supported"
  | noWildcard l => "Location '" ++ l ++ "' must be a pattern"
  | wildcardInPackage l => "Location '" ++ l ++ "' cannot use package wildcards"
  | manyWildcards l => "Location '" ++ l ++ "' cannot contain multiple wildcards"
  | wildcardPlace l => "Location '" ++ l ++ "' must end with '*/'"
  | unnamedPackage path => "Package location 'package:" ++ path ++ "' must name a package"
  | emptyPackageName => "Empty module name"

end StoreFault

namespace ScalarFault

def message? : ScalarFault → Option Text
  | numeral base literal =>
    some ("invalid literal for int() with base " ++ Text.ofNat base ++ ": " ++ literal.quoted.take 200)
  | longNumeral digits =>
    some ("Exceeds the limit (4300 digits) for integer string conversion: value has " ++
      Text.ofNat digits ++ " digits; use sys.set_int_max_str_digits() to increase the limit")
  | decimal literal => some ("could not convert string to float: " ++ literal.quoted)
  | codePointRange => some "chr() arg not in range(0x110000)"
  | calendar fault => some fault.message
  | emptyNumeral | notTimestamp | defaultTimestamp | notBoolean | outOfRange => none

end ScalarFault

namespace BlueprintFault

def message? : BlueprintFault → Option Text
  | unnamed => some "Could not find the name of the class under `name`"
  | unknownName name available =>
    some ("Could not find '" ++ name ++ "' in the dictionary which maps names to classes. " ++
      "Available names: [" ++ Text.join ", " (available.map Text.quoted) ++ "]")
  | ambiguous key =>
    some ("The keyword argument " ++ key ++
      " is provided at the top level and under `kwargs`. Ambiguous.")
  | arguments | unsuitable => none

end BlueprintFault

namespace Fault

def message? : Fault → Option Text
  | general detail | notFound detail => some detail
  | locationNotFound location none =>
    some ("Config data location '" ++ Location.textOrNone location ++ "' cannot be found")
  | locationNotFound _ (some detail) => some detail
  | resourceNotFound resource none => some ("Config data resource '" ++ resource ++ "' cannot be found")
  | resourceNotFound resource (some location) =>
    some ("Config data resource '" ++ resource ++ "' via location '" ++ location.toText ++
      "' cannot be found")
  | unsupportedLocation location =>
    some ("Unsupported config data location '" ++ Location.textOrNone location ++ "'")
  | unknownExtension location file =>
    some ("File extension of '" ++ file ++ "' (from location '" ++ Location.textOrNone location ++
      "') is not known to any format loader. If the location is meant to reference a directory, " ++
      "it must end in '/' or the OS separator")
  | invalidProperty key detail => some ("Property '" ++ key ++ "' is invalid: " ++ detail)
  | unresolvable location _ =>
    some ("Unable to load config data from '" ++ Location.textOrNone location ++ "'")
  | store fault => some fault.message
  | path .nulCharacter => some "embedded null byte"
  | scalar fault => fault.message?
  | notMapping index resource kind =>
    some ("YAML document #" ++ Text.ofNat index ++ " of " ++ resource ++
      " must be a mapping, got " ++ kind)
  | rootElement tag => some ("Expected a <properties> root element, got <" ++ tag ++ ">")
  | entryWithoutKey => some "Every <entry> element must have a `key` attribute"
  | blueprint fault => fault.message?
  | pairExpected index length =>
    some ("dictionary update sequence element #" ++ Text.ofNat index ++ " has length " ++
      Text.ofNat length ++ "; 2 is required")
  | multiByteEncoding => some "multi-byte encodings are not supported"
  | emptyDelimiter => some "empty separator"
  | unknownLevel name => some ("Unknown level: " ++ name.quoted)
  | component _ detail | interruption _ detail => detail
  | path _ | relativePackage | packageListing | yaml | markup | unknownEncoding | undecodable | endlessValue
  | notIterable | unfitKey | undefinedMember => none

/-- A fault of resolution itself, which is reported as it is. -/
def isResolution : Fault → Bool
  | general _ | notFound _ | locationNotFound .. | resourceNotFound .. | unsupportedLocation _
  | unknownExtension .. | invalidProperty .. | unresolvable .. => true
  | _ => false

/-- Not a failure, so whatever handles failures lets it pass. -/
def isInterruption : Fault → Bool
  | interruption .. => true
  | _ => false

/-- Any other failure becomes the cause of a fault that names the location. -/
def wrap (location : Location) (fault : Fault) : Fault :=
  if fault.isResolution || fault.isInterruption then fault
  else unresolvable (some location) (some fault)

theorem wrap_of_isResolution {fault : Fault} (h : fault.isResolution = true) (location : Location) :
    fault.wrap location = fault := if_pos (by simp [h])

theorem wrap_of_isInterruption {fault : Fault} (h : fault.isInterruption = true)
    (location : Location) : fault.wrap location = fault := if_pos (by simp [h])

theorem wrap_of_not_isInterruption {fault : Fault} (h : fault.isResolution = false)
    (h' : fault.isInterruption = false) (location : Location) :
    fault.wrap location = unresolvable (some location) (some fault) := if_neg (by simp [h, h'])

/-- The location that a fault of resolution carries. -/
def location? : Fault → Option Location
  | locationNotFound location _ | resourceNotFound _ location | unsupportedLocation location
  | unknownExtension location _ | unresolvable location _ => location
  | _ => none

end Fault

/-- Runs a step of resolution for a location. -/
def wrapFaults {α : Type} (location : Location) : Except Fault α → Except Fault α
  | .ok a => .ok a
  | .error fault => .error (fault.wrap location)

end ConfigLocator

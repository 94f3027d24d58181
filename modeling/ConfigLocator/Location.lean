import ConfigLocator.Text.Blank

/-!
# Locations

A location is the text with which a user names a place to look for configuration. A leading
`optional:` marks missing data there as no error; it is read once (`Location.of?`) and printed back
(`Location.toText`). Several physical locations can be packed into one, with `;` between them
(`Location.parts`).
-/

namespace ConfigLocator

/-- Version of the grammar of locations. -/
def apiVersion : Text := "1.0"

def optionalMark : Text := "optional:"
def resourceMark : Text := "resource:"
def fileScheme : Text := "file:"
def packageScheme : Text := "package:"
def locationDelimiter : Text := ";"
def wildcard : Nat := '*'
def slash : Nat := '/'

/-- Looked at when the user names no location. -/
def defaultSearchLocations : Text :=
  "optional:package:configdata/;optional:file:./;optional:file:./config/;optional:file:./config/*/"

/-- Where a location was declared does not tell it from another one: see `Location.same`. -/
structure Location where
  /-- The text without its optional mark. -/
  value : Text
  isOptional : Bool := false
  origin : Option Text := none
deriving DecidableEq, Repr

namespace Location

/-- A blank text is no location. -/
def of? (t : Text) (origin : Option Text) : Option Location :=
  match Text.dropLeading? optionalMark t with
  | some value => if value.isBlankText then none else some ⟨value, true, origin⟩
  | none => if t.isBlankText then none else some ⟨t, false, origin⟩

def toText (l : Location) : Text := (if l.isOptional then optionalMark else []) ++ l.value

/-- The text of a location that may be absent. -/
def textOrNone : Option Location → Text
  | some l => l.toText
  | none => "None"

/-- Equality up to the origin. -/
def same (a b : Location) : Bool := a.value == b.value && a.isOptional == b.isOptional

def hasLead (l : Location) (lead : Text) : Bool := Text.startsWith l.value lead

/-- The value without a leading piece, if it has that. -/
def withoutLead (l : Location) (lead : Text) : Text := Text.dropLeading l.value lead

/-- The physical locations, each read on its own, in order; blank pieces are dropped. -/
def partsOn (delimiter : Text) (l : Location) : List Location :=
  (Text.splitOn delimiter l.toText).filterMap (of? · l.origin)

def parts (l : Location) : List Location := l.partsOn locationDelimiter

/-- Nothing can be split at an empty delimiter. -/
def split? (delimiter : Text) (l : Location) : Option (List Location) :=
  if delimiter.isEmpty then none else some (l.partsOn delimiter)

theorem toText_of? {t : Text} {origin : Option Text} {l : Location} (h : of? t origin = some l) :
    l.toText = t := by
  unfold of? at h
  split at h
  · next value hv =>
    split at h
    · cases h
    · cases h; exact (Text.eq_append_of_dropLeading? hv).symm
  · split at h
    · cases h
    · cases h; rfl

end Location

end ConfigLocator

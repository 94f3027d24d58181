import ConfigLocator.Document.Markup.Name
import ConfigLocator.Number.Numeral

/-!
# References

Characters that markup may hold, and references to characters by number or name. Where entities may
be used, their texts take the place of their names: `Entities.expand` gives the value of an attribute
that is written with references. What it reads may not hold `<`, and its blanks become spaces.
-/

namespace ConfigLocator

namespace Markup

/-! ## Characters -/

def isAllowed (c : Nat) : Bool :=
  c == 0x09 || c == 0x0A || c == 0x0D || (0x20 ≤ c && c ≤ 0xD7FF) || (0xE000 ≤ c && c ≤ 0xFFFD) ||
    (0x10000 ≤ c && c ≤ 0x10FFFF)

def isBlankChar (c : Nat) : Bool := c == 0x20 || c == 0x09 || c == 0x0A || c == 0x0D

def skipBlanks (t : Text) : Text := Text.trimStart isBlankChar t

/-- A carriage return, alone or with a line feed, becomes a line feed. -/
def withLineFeeds : Text → Text
  | [] => []
  | c :: rest =>
    if c = '\r' ∧ rest.head? = some 0x0A then withLineFeeds rest
    else (if c = '\r' then 0x0A else c) :: withLineFeeds rest

def ampersand : Nat := '&'
def semicolon : Nat := ';'
def lessThan : Nat := '<'
def percent : Nat := '%'

/-! ## References -/

inductive Reference where
  | character (c : Nat)
  | entity (name : Text)

/-- The number of an allowed character, in digits of a base up to a semicolon. -/
def characterNumber? (base : Nat) (t : Text) : Option (Nat × Text) :=
  let digits := t.takeWhile (· != semicolon)
  match digits.mapM Numeral.digitValue?, t.drop digits.length with
  | some values, _ :: rest =>
    let n := values.foldl (fun n d => n * base + d) 0
    if values.isEmpty || values.any (base ≤ ·) || !isAllowed n then none else some (n, rest)
  | _, _ => none

/-- The reference behind an ampersand, and what follows it. -/
def Reference.read? (t : Text) : Option (Reference × Text) :=
  match Text.dropLeading? "#x" t, Text.dropLeading? "#" t with
  | some number, _ => (characterNumber? 16 number).map fun (c, rest) => (character c, rest)
  | none, some number => (characterNumber? 10 number).map fun (c, rest) => (character c, rest)
  | none, none => do
    let (name, rest) ← name? t
    some (entity name, ← Text.dropLeading? ";" rest)

/-- The characters that have names without a declaration. -/
def predefined : List (Text × Nat) :=
  [("lt", '<'), ("gt", '>'), ("amp", '&'), ("quot", '"'), ("apos", '\'')]

/-! ## Entities -/

/-- The declared entities: each with its text, or with none if it lies outside of the document. -/
structure Entities where
  declared : List (Text × Option Text)
  /-- There may be further declarations outside of the document. -/
  areOpen : Bool

namespace Entities

/-- Text with the references in it replaced, where `entity` gives the text for the name of one. -/
def replace (entity : Text → Option Text) : (fuel : Nat) → Text → Option Text
  | _, [] => some []
  | 0, _ => none
  | fuel + 1, c :: rest =>
    if c = lessThan then none
    else if c = ampersand then do
      let (reference, rest) ← Reference.read? rest
      let expansion ←
        match reference with
        | .character c => some [c]
        | .entity name =>
          match predefined.lookup name with
          | some c => some [c]
          | none => entity name
      some (expansion ++ (← replace entity fuel rest))
    else (replace entity fuel rest).map ((if isBlankChar c then 0x20 else c) :: ·)

/-- As `expand`, inside of the entities `within`, which may not be referred to again. -/
def expandWithin (entities : Entities) : (depth : Nat) → (within : List Text) → Text → Option Text
  | 0, _, _ => none
  | depth + 1, within, t =>
    replace
      (fun name =>
        match entities.declared.lookup name with
        | some (some text) =>
          if within.contains name then none else expandWithin entities depth (name :: within) text
        | some none => none
        | none => if entities.areOpen then some [] else none)
      t.length t

/-- The value that a text in quotes stands for. An entity that may be declared elsewhere has none. -/
def expand (entities : Entities) (t : Text) : Option Text :=
  expandWithin entities (entities.declared.length + 1) [] t

end Entities

end Markup

end ConfigLocator

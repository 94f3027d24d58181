import ConfigLocator.Document.Markup.Lexeme

/-!
# Document types

The declarations at the head of a markup document, as far as they bear on what the document says:
entities with their texts, and types and initial values of attributes. Declarations of elements and
notations have to be well formed and say nothing else.

Nothing is read from outside of the document. Where a document refers to declarations elsewhere,
entities can be declared there (`DocumentType.entities`), and a reference to such declarations among
the others puts those behind it out of force, unless the document claims to stand alone.
-/

namespace ConfigLocator

namespace Markup

/-- What is declared of an attribute of the elements with a name. -/
structure AttributeRule where
  element : Text
  name : QualifiedName
  /-- The value is a list of tokens. -/
  isTokenized : Bool
  initial : Option Text

structure DocumentType where
  standsAlone : Bool
  declared : List (Text × Option Text)
  rules : List AttributeRule
  /-- There are declarations elsewhere. -/
  isPartial : Bool
  /-- Declarations are no longer in force. -/
  isSuspended : Bool

namespace DocumentType

/-- A document without declarations. -/
def bare (standsAlone : Bool) : DocumentType := ⟨standsAlone, [], [], false, false⟩

def entities (d : DocumentType) : Entities := ⟨d.declared, d.isPartial && !d.standsAlone⟩

/-- The first declaration of an entity counts. -/
def declare (name : Text) (text : Option Text) (d : DocumentType) : DocumentType :=
  if d.isSuspended || (predefined.lookup name).isSome || (d.declared.lookup name).isSome then d
  else { d with declared := d.declared ++ [(name, text)] }

/-- The first declaration of an attribute counts. -/
def rule? (element : Text) (name : QualifiedName) (d : DocumentType) : Option AttributeRule :=
  d.rules.find? fun rule => rule.element == element && rule.name == name

def addRule (rule : AttributeRule) (d : DocumentType) : DocumentType :=
  if d.isSuspended || (d.rule? rule.element rule.name).isSome then d
  else { d with rules := d.rules ++ [rule] }

def referElsewhere (d : DocumentType) : DocumentType :=
  { d with isPartial := true, isSuspended := d.isSuspended || !d.standsAlone }

end DocumentType

/-- The tokens of a list with one space between them. -/
def withSingleSpaces (t : Text) : Text :=
  Text.join " " ((Text.split 0x20 t).filter (!·.isEmpty))

/-! ## Parts of declarations -/

def endsName (c : Nat) : Bool := isBlankChar c || (">),|[%" : Text).contains c

def endsLiteral (c : Nat) : Bool := isBlankChar c || (">%[" : Text).contains c

def endsGroup (c : Nat) : Bool := isBlankChar c || (">,|)" : Text).contains c

/-- A piece has to be followed by a character of a class. -/
def endedBy {α : Type} (ends : Nat → Bool) : Option (α × Text) → Option (α × Text)
  | some (a, rest) => if rest.head?.any ends then some (a, rest) else none
  | none => none

def declaredName? (t : Text) : Option (Text × Text) := endedBy endsName (name? t)

def declaredQualifiedName? (t : Text) : Option (QualifiedName × Text) :=
  endedBy endsName (QualifiedName.read? t)

/-- A name or any other run of its characters. -/
def nameToken? (t : Text) : Option (Text × Text) :=
  let token := t.takeWhile fun c => isNameChar c || c == colon
  if token.isEmpty then none else endedBy endsName (some (token, t.drop token.length))

def declaredLiteral? (t : Text) : Option (Text × Text) := endedBy endsLiteral (literal? t)

/-- The end of a declaration, with blanks before it. -/
def closing? (t : Text) : Option Text := Text.dropLeading? ">" (skipBlanks t)

def isPublicIdChar (c : Nat) : Bool :=
  Text.isAsciiDigit c || Text.isAsciiLetter c || (" \r\n-'()+,./:=?;!*#@$_%" : Text).contains c

def publicId? (t : Text) : Option Text := do
  let (id, rest) ← declaredLiteral? t
  if id.all isPublicIdChar then some rest else none

/-- The identification of something outside of the document; a system literal may follow a public one,
and has to where `needsSystem`. -/
def externalId? (needsSystem : Bool) (t : Text) : Option Text := do
  let (keyword, rest) ← declaredName? t
  if keyword = ("SYSTEM" : Text) then
    let (_, rest) ← declaredLiteral? (skipBlanks rest)
    some rest
  else if keyword = ("PUBLIC" : Text) then
    let rest ← publicId? (skipBlanks rest)
    match declaredLiteral? (skipBlanks rest) with
    | some (_, rest) => some rest
    | none => if needsSystem then none else some rest
  else none

/-! ## Entities -/

/-- The text of an entity: characters that are given by number are filled in, and entities are left
for later. Parameters may not be referred to. -/
def entityText : (fuel : Nat) → Text → Option Text
  | _, [] => some []
  | 0, _ => none
  | fuel + 1, c :: rest =>
    if c = percent then none
    else if c = ampersand then do
      let (reference, behind) ← Reference.read? rest
      let text :=
        match reference with
        | .character c => [c]
        | .entity name => ampersand :: name ++ [semicolon]
      some (text ++ (← entityText fuel behind))
    else (entityText fuel rest).map (c :: ·)

/-- The text in quotes where it is in force; it is not looked at where it is not. -/
def entityLiteral? (d : DocumentType) (t : Text) : Option (Text × Text) := do
  let (literal, rest) ← declaredLiteral? t
  let text ← if d.isSuspended then some [] else entityText literal.length literal
  some (text, rest)

/-- What follows the external identification of an entity: its notation, if it is not parsed. -/
def behindNotation? (t : Text) : Option Text :=
  match declaredName? (skipBlanks t) with
  | some (keyword, rest) => do
    if keyword = ("NDATA" : Text) then
      let (_, rest) ← declaredName? (skipBlanks rest)
      some rest
    else none
  | none => some t

def startsLiteral (t : Text) : Bool := t.head?.any fun c : Nat => c == '"' || c == '\''

/-- An entity that can be used in declarations only. -/
def parameterEntity? (d : DocumentType) (t : Text) : Option (DocumentType × Text) := do
  let (_, rest) ← declaredName? (skipBlanks t)
  let rest := skipBlanks rest
  let rest ←
    if startsLiteral rest then (entityLiteral? d rest).map (·.2) else externalId? true rest
  some (d, ← closing? rest)

def entityDeclaration? (d : DocumentType) (t : Text) : Option (DocumentType × Text) :=
  match t with
  | [] => none
  | c :: rest =>
    if c = percent then
      if rest.head?.any isBlankChar then parameterEntity? d rest else none
    else do
      let (name, rest) ← declaredName? t
      let rest := skipBlanks rest
      if startsLiteral rest then
        let (text, rest) ← entityLiteral? d rest
        some (d.declare name (some text), ← closing? rest)
      else
        let rest ← behindNotation? (← externalId? true rest)
        some (d.declare name none, ← closing? rest)

/-! ## Sizes

Entities that refer to others can stand for far more text than the document has. One that goes beyond
a limit is not used.
-/

/-- The names of the entities that a text refers to. -/
def referredNames : (fuel : Nat) → Text → List Text
  | 0, _ => []
  | fuel + 1, t =>
    match t.dropWhile (· != ampersand) with
    | [] => []
    | _ :: rest =>
      match Reference.read? rest with
      | some (.entity name, rest) => name :: referredNames fuel rest
      | some (.character _, rest) => referredNames fuel rest
      | none => []

/-- The length of what each entity stands for, up to a limit, where entities are replaced on so many
levels. -/
def expandedSizes (limit : Nat) (declared : List (Text × Text)) : (levels : Nat) → List (Text × Nat)
  | 0 => []
  | levels + 1 =>
    let inner := expandedSizes limit declared levels
    declared.map fun (name, text) =>
      let size := (referredNames text.length text).foldl
        (fun size n => size + (inner.lookup n).getD 0) text.length
      (name, min limit size)

/-- Text of this length is never too much. -/
def harmlessSize : Nat := 8388608

/-- How many times as long as the document the text of an entity may be. -/
def greatestGrowth : Nat := 100

/-- The entities of a document of some length, without those that are too long. -/
def DocumentType.withinLimits (length : Nat) (d : DocumentType) : DocumentType :=
  let limit := max harmlessSize (greatestGrowth * length)
  let texts := d.declared.filterMap fun (name, text) => text.map (name, ·)
  let sizes := expandedSizes limit texts (texts.countP fun (_, text) => text.contains ampersand)
  let isTooLong := fun name => (sizes.lookup name).any (limit ≤ ·)
  { d with
    declared := d.declared.map fun (name, text) => (name, if isTooLong name then none else text) }

/-! ## Attributes -/

/-- Alternatives up to a closing bracket. -/
def alternatives? (item : Text → Option (Text × Text)) : (fuel : Nat) → Text → Option Text
  | 0, _ => none
  | fuel + 1, t => do
    let (_, rest) ← item (skipBlanks t)
    match skipBlanks rest with
    | [] => none
    | c :: rest =>
      if c = '|' then alternatives? item fuel rest
      else if c = ')' ∧ rest.head?.any endsGroup then some rest
      else none

def tokenTypes : List Text :=
  ["ID", "IDREF", "IDREFS", "ENTITY", "ENTITIES", "NMTOKEN", "NMTOKENS"]

/-- Whether the values of an attribute type are tokens. -/
def attributeType? (t : Text) : Option (Bool × Text) :=
  match Text.dropLeading? "(" t with
  | some rest => (alternatives? nameToken? rest.length rest).map (true, ·)
  | none => do
    let (keyword, rest) ← declaredName? t
    if keyword = ("CDATA" : Text) then some (false, rest)
    else if tokenTypes.contains keyword then some (true, rest)
    else if keyword = ("NOTATION" : Text) then
      let rest ← Text.dropLeading? "(" (skipBlanks rest)
      (alternatives? declaredName? rest.length rest).map (true, ·)
    else none

/-- The value of an attribute, by its type. -/
def attributeValue? (d : DocumentType) (isTokenized : Bool) (literal : Text) : Option Text :=
  (d.entities.expand literal).map fun value => if isTokenized then withSingleSpaces value else value

/-- The initial value of an attribute; it is not looked at where declarations are not in force. -/
def initialLiteral? (d : DocumentType) (isTokenized : Bool) (t : Text) :
    Option (Option Text × Text) := do
  let (literal, rest) ← declaredLiteral? t
  if d.isSuspended then some (none, rest)
  else some (some (← attributeValue? d isTokenized literal), rest)

def initialValue? (d : DocumentType) (isTokenized : Bool) (t : Text) :
    Option (Option Text × Text) :=
  match Text.dropLeading? "#" t with
  | none => initialLiteral? d isTokenized t
  | some t => do
    let (keyword, rest) ← declaredName? t
    if keyword = ("IMPLIED" : Text) ∨ keyword = ("REQUIRED" : Text) then some (none, rest)
    else if keyword = ("FIXED" : Text) then initialLiteral? d isTokenized (skipBlanks rest)
    else none

def attributeRules? (element : Text) : (fuel : Nat) → DocumentType → Text →
    Option (DocumentType × Text)
  | 0, _, _ => none
  | fuel + 1, d, t =>
    match closing? t with
    | some rest => some (d, rest)
    | none => do
      let (name, rest) ← declaredQualifiedName? (skipBlanks t)
      let (isTokenized, rest) ← attributeType? (skipBlanks rest)
      let (initial, rest) ← initialValue? d isTokenized (skipBlanks rest)
      attributeRules? element fuel (d.addRule ⟨element, name, isTokenized, initial⟩) rest

def attributeDeclaration? (d : DocumentType) (t : Text) : Option (DocumentType × Text) := do
  let (element, rest) ← declaredQualifiedName? t
  attributeRules? element.toText rest.length d rest

/-! ## Elements and notations -/

/-- How often something may occur is said by a mark behind it. -/
def behindOccurrence? (ends : Nat → Bool) : Text → Option Text
  | [] => none
  | c :: rest =>
    if ("?*+" : Text).contains c then some rest else if ends c then some (c :: rest) else none

/-- A model of the children of an element, from a place where an item has to come (`wantsItem`) or may
not. Every open bracket has the sign between its items, which is one and the same for all. -/
def childModel? : (fuel : Nat) → (brackets : List (Option Nat)) → (wantsItem : Bool) → Text →
    Option Text
  | 0, _, _, _ => none
  | fuel + 1, brackets, true, t => do
    let t := skipBlanks t
    match Text.dropLeading? "(" t with
    | some rest => childModel? fuel (none :: brackets) true rest
    | none =>
      let (_, rest) ← QualifiedName.read? t
      childModel? fuel brackets false (← behindOccurrence? endsName rest)
  | fuel + 1, brackets, false, t =>
    match skipBlanks t, brackets with
    | c :: rest, sign :: outer =>
      if c = ')' then do
        let rest ← behindOccurrence? endsGroup rest
        if outer.isEmpty then some rest else childModel? fuel outer false rest
      else if (c = ',' ∨ c = '|') ∧ (sign = none ∨ sign = some c) then
        childModel? fuel (some c :: outer) true rest
      else none
    | _, _ => none

/-- A model of text mixed with children, behind the sign for text. -/
def mixedModel? : (fuel : Nat) → (isFirst : Bool) → Text → Option Text
  | 0, _, _ => none
  | fuel + 1, isFirst, t =>
    let t := skipBlanks t
    match Text.dropLeading? ")*" t, Text.dropLeading? "|" t with
    | some rest, _ => some rest
    | none, some rest => do
      let (_, rest) ← declaredQualifiedName? (skipBlanks rest)
      mixedModel? fuel false rest
    | none, none =>
      match Text.dropLeading? ")" t with
      | some rest => if isFirst && rest.head?.any endsGroup then some rest else none
      | none => none

def textSign : Text := "#PCDATA"

def contentModel? (t : Text) : Option Text := do
  match Text.dropLeading? "(" t with
  | none =>
    let (keyword, rest) ← declaredName? t
    if keyword = ("EMPTY" : Text) ∨ keyword = ("ANY" : Text) then some rest else none
  | some rest =>
    match Text.dropLeading? textSign (skipBlanks rest) with
    | some behind =>
      if behind.head?.any fun c => isBlankChar c || c == ')' || c == '|' then
        mixedModel? behind.length true behind
      else none
    | none => childModel? (2 * rest.length) [none] true rest

def elementDeclaration? (t : Text) : Option Text := do
  let (_, rest) ← declaredQualifiedName? t
  closing? (← contentModel? (skipBlanks rest))

def notationDeclaration? (t : Text) : Option Text := do
  let (_, rest) ← declaredName? t
  closing? (← externalId? false (skipBlanks rest))

/-! ## Document types -/

/-- A declaration behind its opening. -/
def declaration? (d : DocumentType) (t : Text) : Option (DocumentType × Text) :=
  let keyword := t.takeWhile Text.isAsciiLetter
  let rest := t.drop keyword.length
  if !rest.head?.any isBlankChar then none
  else
    let rest := skipBlanks rest
    if keyword = ("ENTITY" : Text) then entityDeclaration? d rest
    else if keyword = ("ATTLIST" : Text) then attributeDeclaration? d rest
    else if keyword = ("ELEMENT" : Text) then (elementDeclaration? rest).map (d, ·)
    else if keyword = ("NOTATION" : Text) then (notationDeclaration? rest).map (d, ·)
    else none

/-- Declarations up to the closing bracket. -/
def declarations? : (fuel : Nat) → DocumentType → Text → Option (DocumentType × Text)
  | 0, _, _ => none
  | fuel + 1, d, t => do
    let t ← skipMisc t.length t
    match Text.dropLeading? "]" t, Text.dropLeading? "%" t, Text.dropLeading? "<!" t with
    | some rest, _, _ => some (d, rest)
    | none, some parameter, _ =>
      let (_, rest) ← name? parameter
      declarations? fuel d.referElsewhere (← Text.dropLeading? ";" rest)
    | none, none, some declaration =>
      let (d, rest) ← declaration? d declaration
      declarations? fuel d rest
    | none, none, none => none

/-- The document type behind its opening. -/
def documentType? (standsAlone : Bool) (t : Text) : Option (DocumentType × Text) := do
  if !t.head?.any isBlankChar then none
  else
    let (_, rest) ← declaredQualifiedName? (skipBlanks t)
    let rest := skipBlanks rest
    let (isPartial, rest) ←
      if rest.head?.any isNameStart then (externalId? true rest).map (true, ·)
      else some (false, rest)
    let d := { DocumentType.bare standsAlone with isPartial := isPartial }
    match Text.dropLeading? "[" (skipBlanks rest) with
    | some rest =>
      let (d, rest) ← declarations? rest.length d rest
      some (d, ← closing? rest)
    | none => some (d, ← closing? rest)

end Markup

end ConfigLocator

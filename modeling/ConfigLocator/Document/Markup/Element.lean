import ConfigLocator.Document.Markup.DocumentType

/-!
# Elements

A markup document as a tree of elements. `document?` reads the tree with names as they are
written, and `Content.expanded?` puts the namespaces that are declared in it in the place of
qualifiers: a name in a namespace is written with the name of the namespace in braces in front.
-/

namespace ConfigLocator

namespace Markup

inductive Content (Name : Type) where
  | text (t : Text)
  | element (name : Name) (attributes : List (Name × Text)) (content : List (Content Name))

/-! ## Tags -/

/-- An attribute with its value in quotes as it is written. -/
def attribute? (t : Text) : Option ((QualifiedName × Text) × Text) := do
  let (name, rest) ← QualifiedName.read? t
  let rest ← Text.dropLeading? "=" (skipBlanks rest)
  let (literal, rest) ← literal? (skipBlanks rest)
  some ((name, literal), rest)

structure StartTag where
  attributes : List (QualifiedName × Text)
  isEmpty : Bool

/-- The attributes of a start tag up to its end, each behind a blank. -/
def attributes? : (fuel : Nat) → Text → Option (StartTag × Text)
  | 0, _ => none
  | fuel + 1, t =>
    let rest := skipBlanks t
    match Text.dropLeading? "/>" rest, Text.dropLeading? ">" rest with
    | some behind, _ => some (⟨[], true⟩, behind)
    | none, some behind => some (⟨[], false⟩, behind)
    | none, none => do
      if rest.length = t.length then none
      else
        let (first, behind) ← attribute? rest
        let (tag, behind) ← attributes? fuel behind
        some ({ tag with attributes := first :: tag.attributes }, behind)

/-- No name occurs twice. -/
def areDistinct {α : Type} [BEq α] : List α → Bool
  | [] => true
  | a :: rest => !rest.contains a && areDistinct rest

/-- The attributes of an element with their values, those that have initial values included. -/
def attributeValues? (d : DocumentType) (element : Text) (written : List (QualifiedName × Text)) :
    Option (List (QualifiedName × Text)) := do
  let values ← written.mapM fun (name, literal) => do
    let isTokenized := (d.rule? element name).any (·.isTokenized)
    some (name, ← attributeValue? d isTokenized literal)
  let initial := d.rules.filterMap fun rule =>
    if rule.element == element && !(written.map (·.1)).contains rule.name then
      rule.initial.map (rule.name, ·)
    else none
  if areDistinct (written.map (·.1)) then some (values ++ initial) else none

/-! ## Content -/

/-- Character data up to the next markup. The end of a section may not occur in it. -/
def characters? (t : Text) : Option (Text × Text) :=
  let run := t.takeWhile fun c => c != lessThan && c != ampersand
  if (cutAt? "]]>" run).isSome then none else some (run, t.drop run.length)

/-- Content up to an end tag or the end of the text, where `entity` gives what a name stands for. -/
def content? (d : DocumentType) (entity : Text → Option (List (Content QualifiedName))) :
    (fuel : Nat) → Text → Option (List (Content QualifiedName) × Text)
  | 0, _ => none
  | _, [] => some ([], [])
  | fuel + 1, c :: t => do
    let withMore := fun (items : List (Content QualifiedName)) (rest : Text) => do
      let (more, rest) ← content? d entity fuel rest
      some (items ++ more, rest)
    if c = ampersand then
      let (reference, rest) ← Reference.read? t
      match reference with
      | .character c => withMore [.text [c]] rest
      | .entity name =>
        match predefined.lookup name with
        | some c => withMore [.text [c]] rest
        | none => withMore (← entity name) rest
    else if c = lessThan then
      if t.head? = some ('/' : Nat) then some ([], c :: t)
      else
        match Text.dropLeading? "!--" t, Text.dropLeading? "![CDATA[" t, Text.dropLeading? "?" t with
        | some comment, _, _ => withMore [] (← behindComment? comment)
        | none, some behind, _ =>
          let (characters, rest) ← cutAt? "]]>" behind
          withMore [.text characters] rest
        | none, none, some instruction => withMore [] (← behindInstruction? instruction)
        | none, none, none =>
          let (name, rest) ← QualifiedName.read? t
          let (tag, rest) ← attributes? rest.length rest
          let attributes ← attributeValues? d name.toText tag.attributes
          if tag.isEmpty then withMore [.element name attributes []] rest
          else
            let (inner, rest) ← content? d entity fuel rest
            let rest ← Text.dropLeading? "</" rest
            let rest ← Text.dropLeading? name.toText rest
            withMore [.element name attributes inner] (← Text.dropLeading? ">" (skipBlanks rest))
    else
      let (characters, rest) ← characters? (c :: t)
      withMore [.text characters] rest

/-- What an entity stands for, inside of the entities `within`: its text has to be content that is
complete. -/
def entityContent? (d : DocumentType) : (depth : Nat) → (within : List Text) → (name : Text) →
    Option (List (Content QualifiedName))
  | 0, _, _ => none
  | depth + 1, within, name =>
    match d.declared.lookup name with
    | some (some text) =>
      if within.contains name then none
      else
        match content? d (entityContent? d depth (name :: within)) (text.length + 1) text with
        | some (items, []) => some items
        | _ => none
    | _ => none

/-- The root element of a document. -/
def document? (standsAlone : Bool) (t : Text) : Option (Content QualifiedName) := do
  let t ← skipMisc t.length t
  let (d, t) ←
    match Text.dropLeading? "<!DOCTYPE" t with
    | some rest => do
      let (d, behind) ← documentType? standsAlone rest
      some (d.withinLimits rest.length, ← skipMisc behind.length behind)
    | none => some (DocumentType.bare standsAlone, t)
  let (name, rest) ← QualifiedName.read? (← Text.dropLeading? "<" t)
  let (tag, rest) ← attributes? rest.length rest
  let attributes ← attributeValues? d name.toText tag.attributes
  let entity := entityContent? d (d.declared.length + 1) []
  let (inner, rest) ←
    if tag.isEmpty then some ([], rest)
    else do
      let (inner, rest) ← content? d entity (rest.length + 1) rest
      let rest ← Text.dropLeading? name.toText (← Text.dropLeading? "</" rest)
      some (inner, ← Text.dropLeading? ">" (skipBlanks rest))
  if (← skipMisc rest.length rest).isEmpty then some (.element name attributes inner) else none

/-! ## Namespaces -/

/-- What the namespaces with a fixed qualifier start with. -/
def reservedNamespace : Text := "http:" ++ "//www.w3.org/"

def xmlNamespace : Text := reservedNamespace ++ "XML/1998/namespace"

/-- The namespace of the declarations of namespaces themselves. -/
def xmlnsNamespace : Text := reservedNamespace ++ "2000/xmlns/"

/-- The qualifiers in scope with their namespaces, the innermost first; the default namespace has
none. An empty name takes a default back. -/
abbrev Scope := List (Option Text × Text)

def rootScope : Scope := [(some "xml", xmlNamespace)]

def closingBrace : Nat := '\x7d'

/-- The qualifier that an attribute declares, if it does. -/
def declaredQualifier? (name : QualifiedName) : Option (Option Text) :=
  match name.qualifier with
  | none => if name.localPart = ("xmlns" : Text) then some none else none
  | some qualifier => if qualifier = ("xmlns" : Text) then some (some name.localPart) else none

/-- The namespaces of `xml` and `xmlns` belong to these qualifiers alone. -/
def isSoundBinding (qualifier : Option Text) (space : Text) : Bool :=
  let isXml := qualifier == some ("xml" : Text)
  qualifier != some ("xmlns" : Text) && !(space.isEmpty && qualifier.isSome) &&
    !space.contains closingBrace && isXml == (space == xmlNamespace) && space != xmlnsNamespace

/-- The scope inside of an element with these attributes. -/
def bindAll? (scope : Scope) (attributes : List (QualifiedName × Text)) : Option Scope := do
  let bindings := attributes.filterMap fun (name, value) =>
    (declaredQualifier? name).map fun qualifier => (qualifier, value)
  if bindings.all fun (qualifier, space) => isSoundBinding qualifier space then
    some (bindings ++ scope)
  else none

def inNamespace (space name : Text) : Text :=
  if space.isEmpty then name else ('\x7b' : Nat) :: space ++ closingBrace :: name

/-- A qualifier has to be declared. -/
def expandedName? (scope : Scope) (usesDefault : Bool) (name : QualifiedName) : Option Text :=
  match name.qualifier with
  | some _ => (scope.lookup name.qualifier).map fun space => inNamespace space name.localPart
  | none =>
    if usesDefault then some (inNamespace ((scope.lookup none).getD []) name.localPart)
    else some name.localPart

/-- The attributes that declare no namespace. Expanded names may not coincide either. -/
def expandedAttributes? (scope : Scope) (attributes : List (QualifiedName × Text)) :
    Option (List (Text × Text)) := do
  let others := attributes.filter fun (name, _) => (declaredQualifier? name).isNone
  let expanded ← others.mapM fun (name, value) => do some (← expandedName? scope false name, value)
  if areDistinct (expanded.map (·.1)) then some expanded else none

mutual

def Content.expanded? (scope : Scope) : Content QualifiedName → Option (Content Text)
  | .text t => some (.text t)
  | .element name attributes content => do
    let scope ← bindAll? scope attributes
    some (.element (← expandedName? scope true name) (← expandedAttributes? scope attributes)
      (← allExpanded? scope content))

def allExpanded? (scope : Scope) : List (Content QualifiedName) → Option (List (Content Text))
  | [] => some []
  | item :: rest => do
    let item ← Content.expanded? scope item
    some (item :: (← allExpanded? scope rest))

end

end Markup

end ConfigLocator

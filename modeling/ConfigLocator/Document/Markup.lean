import ConfigLocator.Document.Markup.Element
import ConfigLocator.Document.Markup.Encoding
import ConfigLocator.PropertyMap

/-!
# Properties in markup

A markup document of properties has a root element `properties`, and its elements `entry`, on any
level, bind the key in their attribute `key` to the text before their first inner element.
-/

namespace ConfigLocator

namespace Markup

/-! ## Entries -/

/-- An `entry` element: its key, if it has one, and its text. -/
structure Entry where
  key : Option Text
  text : Text

def entryName : Text := "entry"
def rootName : Text := "properties"
def keyName : Text := "key"

/-- The text before the first element. -/
def leadingText : List (Content Text) → Text
  | .text t :: rest => t ++ leadingText rest
  | _ => []

mutual

/-- The entries in an element, in the order of their start tags. -/
def Content.entries : Content Text → List Entry
  | .text _ => []
  | .element name attributes content =>
    (if name = entryName then [⟨attributes.lookup keyName, leadingText content⟩] else []) ++
      allEntries content

def allEntries : List (Content Text) → List Entry
  | [] => []
  | item :: rest => item.entries ++ allEntries rest

end

/-- A later entry takes the place of an earlier one with the same key. -/
def bindEntries : PropertyMap → List Entry → Except Fault PropertyMap
  | bound, [] => .ok bound
  | bound, entry :: rest =>
    match entry.key with
    | some key => bindEntries (bound.bind key (.text entry.text)) rest
    | none => .error .entryWithoutKey

/-! ## Documents -/

def Content.properties : Content Text → Except Fault PropertyMap
  | .text _ => .error .markup
  | .element name attributes content =>
    if name = rootName then bindEntries [] (Content.element name attributes content).entries
    else .error (.rootElement name)

def readProperties (content : List UInt8) : Except Fault PropertyMap := do
  let source ← Source.ofBytes content
  match (document? source.standsAlone source.text).bind (Content.expanded? rootScope) with
  | some root => root.properties
  | none => .error .markup

end Markup

end ConfigLocator

import ConfigLocator.Binder
import ConfigLocator.Blueprint

/-!
# Catalogs

A catalog lists recipes under every name by which a block may ask for them: the name under which a
module exports the recipe, the short name it was given, and aliases, whose use is deprecated.
-/

namespace ConfigLocator

namespace Text

/-- A text occurs somewhere in another. -/
def occursIn (part : Text) : Text → Bool
  | [] => part.isEmpty
  | c :: rest => part.isPrefixOf (c :: rest) || occursIn part rest

end Text

/-- A type that a module exports. -/
structure ExportedType (ρ : Type) where
  typeName : Text
  /-- Empty for a type without a short name. -/
  name : Text := []
  aliases : List Text := []
  /-- Defined in the module itself, and not only mentioned there. -/
  isOwn : Bool := true
  recipe : ρ

/-- A name that a module exports, with the type behind it if it is one. -/
structure Export (ρ : Type) where
  name : Text
  type : Option (ExportedType ρ)

namespace Catalog

variable {ρ : Type}

/-- A name that is listed keeps its place and takes the new entry. -/
def enter (name : Text) (entry : ρ) : List (Text × ρ) → List (Text × ρ)
  | [] => [(name, entry)]
  | (n, e) :: rest => if n = name then (n, entry) :: rest else (n, e) :: enter name entry rest

def enterMany (names : List Text) (entry : ρ) (listed : List (Text × ρ)) : List (Text × ρ) :=
  names.foldl (fun listed name => enter name entry listed) listed

def update (base later : List (Text × ρ)) : List (Text × ρ) :=
  later.foldl (fun listed (name, entry) => enter name entry listed) base

/-- Types that are exported under a public name, fit the pattern and belong to the module. -/
def visibleType? (pattern : Option Text) (e : Export ρ) : Option (ExportedType ρ) :=
  if e.name.head? = some underscore then none
  else
    e.type.filter fun t =>
      t.isOwn && (match pattern with
        | some p => Text.occursIn p t.typeName
        | none => true)

/-- All names of a visible type: exported name, short name, aliases. -/
def namesOf (exported : Text) (t : ExportedType ρ) : List Text :=
  exported :: (if t.name = [] then [] else [t.name]) ++ t.aliases

def ofExports (pattern : Option Text) (exports : List (Export ρ)) : List (Text × ExportedType ρ) :=
  exports.foldl
    (fun listed e =>
      match visibleType? pattern e with
      | some t => enterMany (namesOf e.name t) t listed
      | none => listed)
    []

def deprecation (used : Text) (t : ExportedType ρ) : Text :=
  "This name (" ++ used ++ ") is deprecated. Use " ++ t.name ++ " instead."

/-- A warning for every alias that is the requested name. -/
def warnings (requested pattern : Option Text) (exports : List (Export ρ)) : List Text :=
  (exports.filterMap (visibleType? pattern)).flatMap fun t =>
    (t.aliases.filter fun used => requested == some used).map (deprecation · t)

/-- The recipes that a module exports. -/
def recipes (exports : List (Export ρ)) : List (Text × ρ) :=
  (ofExports none exports).map fun (name, t) => (name, t.recipe)

end Catalog

end ConfigLocator

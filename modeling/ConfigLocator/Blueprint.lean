import ConfigLocator.Value.Items

/-!
# Blueprints

A blueprint is a block of settings that describes an object: the name of a recipe, under `name`, and
the arguments for it, under `args`, under `kwargs` and at the top level. `Blueprint.plan` matches a
block with a catalog of recipes and adds what is offered from outside wherever the recipe asks for it
and the block does not set it under a keyword; `Plan.run` puts the arguments in their places and
builds the object.
-/

namespace ConfigLocator

/-- An argument comes from the block, or is offered from outside. -/
inductive Argument (κ : Type) where
  | setting (value : Value)
  | offered (collaborator : κ)

/-- How a parameter gets its argument. -/
inductive ParameterKind where
  /-- By position alone. -/
  | positional
  /-- By position or under its name. -/
  | plain
  /-- From all that is given by position beyond the other parameters. -/
  | gathering
  /-- Under its name alone. -/
  | keyword
deriving DecidableEq, Repr

structure Parameter where
  name : Text
  kind : ParameterKind := .plain
  isRequired : Bool := false
deriving DecidableEq, Repr

/-- By its name alone a parameter is a plain one with a default. -/
instance : Coe Text Parameter := ⟨fun name => { name }⟩

/-- Parameters in order, and whether keywords beyond them are taken. -/
structure Parameters where
  declared : List Parameter
  takesRest : Bool := false

/-- Arguments in the places where they are expected. -/
structure Call (α : Type) where
  /-- The parameters that are filled by position, then those that are filled under their name. -/
  bound : List (Text × α)
  /-- What is given by position beyond the parameters. -/
  more : List α
  /-- What is given under keywords beyond the parameters. -/
  rest : List (Text × α)

namespace Parameters

/-- The implicit parameter of every recipe, which no argument may name. -/
def receiver : Text := "self"

def names (p : Parameters) : List Text := p.declared.map (·.name)

/-- The parameters that arguments by position go to, in order. -/
def slots (p : Parameters) : List Text :=
  (p.declared.filter fun x => x.kind = .positional || x.kind = .plain).map (·.name)

/-- The parameters that an argument can name. -/
def nameable (p : Parameters) : List Text :=
  (p.declared.filter fun x => x.kind = .plain || x.kind = .keyword).map (·.name)

/-- The parameters without a default. -/
def required (p : Parameters) : List Text := (p.declared.filter (·.isRequired)).map (·.name)

/-- Whether so many arguments can be given by position. -/
def admitsCount (p : Parameters) (positional : Nat) : Bool :=
  positional ≤ p.slots.length || p.declared.any (·.kind = .gathering)

/-- A keyword that fits next to the parameters given by position. -/
def admits (p : Parameters) (positional : Nat) (keyword : Text) : Bool :=
  keyword != receiver &&
    if p.nameable.contains keyword then !(p.slots.take positional).contains keyword else p.takesRest

def keywordText : Value → Except Fault Text
  | .text t => .ok t
  | _ => .error (.blueprint .arguments)

/-- The places of arguments that fit. -/
def place {α : Type} (p : Parameters) (positional : List α) (named : List (Text × α)) : Call α where
  bound := p.slots.zip positional ++ named.filter fun (key, _) => p.nameable.contains key
  more := positional.drop p.slots.length
  rest := named.filter fun (key, _) => !p.nameable.contains key

/-- Puts arguments in their places: those given by position, and those under keywords. -/
def assign {α : Type} (p : Parameters) (positional : List α) (keywords : List (Value × α)) :
    Except Fault (Call α) := do
  let named ← keywords.mapM fun (key, a) => return (← keywordText key, a)
  let call := p.place positional named
  if p.admitsCount positional.length && named.all (fun (key, _) => p.admits positional.length key) &&
      p.required.all (fun name => call.bound.any fun (key, _) => key == name) then
    return call
  else throw (.blueprint .arguments)

end Parameters

structure Recipe (κ : Type) (β : Type) where
  typeName : Text
  parameters : Parameters
  /-- Whether everything on offer is passed, and not only what is declared. -/
  takesOffers : Bool := parameters.takesRest
  build : Call (Argument κ) → Except Fault β

abbrev Catalog (κ : Type) (β : Type) := List (Text × Recipe κ β)

namespace Recipe

variable {κ : Type} {β : Type}

/-- Stands for the recipe itself while offers are looked through; nothing can be offered under it. -/
def ownName : Text := "cls"

/-- Whether the recipe asks for something under a name. -/
def asksFor (r : Recipe κ β) (key : Text) : Bool :=
  r.takesOffers || (Parameters.receiver :: r.parameters.names).contains key

/-- The part of an offer that the recipe asks for. -/
def accepted {α : Type} (r : Recipe κ β) (offers : List (Text × α)) :
    Except Fault (List (Text × α)) :=
  if offers.any fun (key, _) => key == ownName then .error (.blueprint .arguments)
  else .ok (offers.filter fun (key, _) => r.asksFor key)

end Recipe

/-- A recipe with the arguments for it. -/
structure Plan (κ : Type) (β : Type) where
  recipe : Recipe κ β
  positional : Value
  keywords : List (Value × Argument κ)

namespace Plan

variable {κ : Type} {β : Type}

/-- The arguments in their places, if they fit the recipe. -/
def call (p : Plan κ β) : Except Fault (Call (Argument κ)) :=
  match p.positional.items? with
  | none => .error (.blueprint .arguments)
  | some items => p.recipe.parameters.assign (items.map .setting) p.keywords

def run (p : Plan κ β) : Except Fault β := do
  p.recipe.build (← p.call)

/-- What is logged when the plan fails. -/
def report (p : Plan κ β) : Text :=
  "Failed to instantiate " ++ p.recipe.typeName ++ " with these arguments:\n  - args: " ++
    p.positional.toText ++ "\n  - kwargs: " ++ (Value.list (p.keywords.map (·.1))).literal

end Plan

namespace Blueprint

variable {κ : Type} {β : Type}

def nameKey : Text := "name"
def positionalKey : Text := "args"
def keywordKey : Text := "kwargs"

/-- Names of what a plan is made from; nothing can be offered under them. -/
def ownNames : List Text := ["module_dict", "cfg", "alt_name"]

/-- A bare text is the name of a recipe without arguments. -/
def ofValue : Value → Value
  | .text t => .map [(.text nameKey, .text t)]
  | block => block

/-- Whether a key stands in a block, which has to be a collection. -/
def hasKey (block : Value) (key : Text) : Except Fault Bool :=
  match block with
  | .map entries => .ok (entries.any fun (k, _) => k.same (.text key))
  | .list items | .tuple items | .set items => .ok (items.any (·.same (.text key)))
  | _ => .error (.blueprint .arguments)

/-- The key under which the name of the recipe stands. -/
def findNameKey (block : Value) (alternative : Option Text) : Except Fault Text := do
  if let some key := alternative then
    if ← hasKey block key then return key
  if ← hasKey block nameKey then return nameKey
  throw (.blueprint .unnamed)

/-- Only a map lets its keys be taken out. -/
def blockEntries : Value → Except Fault (List (Value × Value))
  | .map entries => .ok entries
  | .tuple _ => .error (.blueprint .unsuitable)
  | _ => .error (.blueprint .arguments)

def findRecipe (catalog : Catalog κ β) (name : Value) : Except Fault (Recipe κ β) :=
  let unknown := .error (.blueprint (.unknownName name.toText (catalog.map (·.1))))
  match name with
  | .text t =>
    match catalog.lookup t with
    | some recipe => .ok recipe
    | none => unknown
  | name => if name.isKey then unknown else .error .unfitKey

/-- Adds the top-level settings to the keywords; none may be given twice. -/
def addSettings (keywords : List (Value × Argument κ)) :
    List (Value × Value) → Except Fault (List (Value × Argument κ))
  | [] => .ok keywords
  | (key, value) :: rest =>
    if keywords.any fun (k, _) => k.same key then .error (.blueprint (.ambiguous key.toText))
    else addSettings (keywords ++ [(key, .setting value)]) rest

/-- Adds what is offered under keywords that are still free. -/
def addOffers (keywords : List (Value × Argument κ)) (offers : List (Text × Argument κ)) :
    List (Value × Argument κ) :=
  offers.foldl
    (fun bound (key, a) =>
      if bound.any fun (k, _) => k.same (.text key) then bound else bound ++ [(.text key, a)])
    keywords

/-- The plan of a block by itself. -/
def ownPlan (catalog : Catalog κ β) (block : Value) (alternative : Option Text) :
    Except Fault (Plan κ β) := do
  let block := ofValue block
  let key ← findNameKey block alternative
  let entries ← blockEntries block
  let recipe ← findRecipe catalog ((Value.find? key entries).getD .null)
  let entries := Value.without key entries
  let positional := (Value.find? positionalKey entries).getD (.list [])
  let entries := Value.without positionalKey entries
  let keywords ← ((Value.find? keywordKey entries).getD (.map [])).entries
  let settings := keywords.map fun (k, v) => (k, Argument.setting v)
  return ⟨recipe, positional, ← addSettings settings (Value.without keywordKey entries)⟩

/-- The plan of a block with what is offered next to it. -/
def plan (catalog : Catalog κ β) (block : Value) (alternative : Option Text)
    (offers : List (Text × Argument κ)) : Except Fault (Plan κ β) :=
  if offers.any fun (key, _) => ownNames.contains key then .error (.blueprint .arguments)
  else do
    let own ← ownPlan catalog block alternative
    return { own with keywords := addOffers own.keywords (← own.recipe.accepted offers) }

/-- The object that a block describes. -/
def instantiate (catalog : Catalog κ β) (block : Value) (alternative : Option Text)
    (offers : List (Text × Argument κ)) : Except Fault β := do
  (← plan catalog block alternative offers).run

end Blueprint

end ConfigLocator

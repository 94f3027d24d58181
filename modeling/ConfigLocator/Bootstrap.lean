import ConfigLocator.Document.Loaders
import ConfigLocator.Registry

/-!
# Bootstrap

Resolvers are built from an ordered list of names or blocks before any location is resolved. What
they have to work with, which is a binder, format loaders and a store, is offered to every recipe.
-/

namespace ConfigLocator

/-- Something that resolvers share. -/
inductive Collaborator where
  | binder (b : Binder)
  | loaders (loaders : List Loader)
  | store (s : Store)

abbrev ResolverCatalog := Catalog Collaborator Resolver

def StandardResolver.ofBinder (host : Host) (binder : Binder) (loaders : List Loader)
    (store : Store) : Except Fault StandardResolver := do
  return ⟨← binder.configNames host, loaders, store⟩

namespace Bootstrap

def binderKey : Text := "binder"
def loadersKey : Text := "format_loaders"
def storeKey : Text := "resource_loader"

abbrev Arguments := List (Text × Argument Collaborator)

/-! ## Arguments of the standard resolver -/

/-- A setting that is empty stands for a binder without properties. -/
def binderOf (arguments : Arguments) : Except Fault Binder :=
  match arguments.lookup binderKey with
  | none => .ok .empty
  | some (.offered (.binder b)) => .ok b
  | some (.setting v) => if v.isTruthy then .error (.blueprint .unsuitable) else .ok .empty
  | some (.offered _) => .error (.blueprint .unsuitable)

/-- Loaders cannot be written as settings: anything but an empty collection is found to be none once
the names are known. -/
def loadersOf (arguments : Arguments) : Except Fault (List Loader × Bool) :=
  match arguments.lookup loadersKey with
  | none | some (.setting .null) => .ok (defaultLoaders, true)
  | some (.offered (.loaders loaders)) => .ok (loaders, true)
  | some (.setting v) =>
    match v.items? with
    | some items => .ok ([], items.isEmpty)
    | none => .error .notIterable
  | some (.offered _) => .ok ([], false)

def storeOf (arguments : Arguments) : Except Fault Store :=
  match arguments.lookup storeKey with
  | none => .ok ⟨none⟩
  | some (.offered (.store s)) => .ok s
  | some (.setting v) => if v.isTruthy then .error (.blueprint .unsuitable) else .ok ⟨none⟩
  | some (.offered _) => .error (.blueprint .unsuitable)

def buildStandard (host : Host) (arguments : Arguments) : Except Fault Resolver := do
  let (loaders, areLoaders) ← loadersOf arguments
  let binder ← binderOf arguments
  let names ← binder.configNames host
  let store ← storeOf arguments
  if areLoaders then return .standard ⟨names, loaders, store⟩
  else throw (.blueprint .unsuitable)

/-! ## Catalog and registry -/

def standardTypeName : Text := "StandardConfigDataLocationResolver"

def standardName : Text := "standard"

def standardRecipe (host : Host) : Recipe Collaborator Resolver where
  typeName := standardTypeName
  parameters := ⟨[binderKey, loadersKey, storeKey], false⟩
  build := fun call => buildStandard host call.bound

def resolverCatalog (host : Host) : ResolverCatalog :=
  Catalog.recipes
    [⟨standardTypeName, some ⟨standardTypeName, standardName, [], true, standardRecipe host⟩⟩]

/-- The names of the resolvers that are built when none are given. -/
def defaultResolverNames : List Value := [.text standardName]

/-- One resolver, to which only what is given is offered. -/
def resolver (host : Host) (block : Value) (offers : List (Text × Collaborator)) :
    Except Fault Resolver :=
  Blueprint.instantiate (resolverCatalog host) block none
    (offers.map fun (key, c) => (key, .offered c))

/-- All that is offered to each resolver; what is not given has a default. -/
def offers (binder : Option Binder) (loaders : Option (List Loader)) (store : Option Store) :
    Arguments :=
  [(binderKey, .offered (.binder (binder.getD .empty))),
    (loadersKey, .offered (.loaders (loaders.getD defaultLoaders))),
    (storeKey, .offered (.store (store.getD ⟨none⟩)))]

/-- The registry of the resolvers that the blocks describe, from the catalog and additions to it. -/
def registry (host : Host) (blocks : List Value) (binder : Option Binder)
    (loaders : Option (List Loader)) (store : Option Store) (additions : ResolverCatalog) :
    Except Fault Registry := do
  let catalog := Catalog.update (resolverCatalog host) additions
  return .ofList (← blocks.mapM fun block =>
    Blueprint.instantiate catalog block none (offers binder loaders store))

end Bootstrap

end ConfigLocator

import ConfigLocator.Loader
import ConfigLocator.Reference
import ConfigLocator.Text.Case
import ConfigLocator.Value.Items

/-!
# Binders

A binder holds the settings that steer resolution: flat properties with an environment behind them.
A key that is not bound is gathered from `key[0]`, `key[1]`, …, and then looked up in the environment
under its `environmentName`. The base names that directories are scanned for come from the property
`config.name` (`Binder.configNames`).
-/

namespace ConfigLocator

def environmentLead : Text := "CONFIGDATA_"

def underscore : Nat := '_'

def nameProperty : Text := "config.name"

def defaultConfigNames : List Text := ["application"]

/-- The variable that can provide a property: dots and hyphens become underscores, letters capitals. -/
def environmentName (key : Text) : Text :=
  environmentLead ++
    Text.upper (key.map fun c => if c = Path.dot ∨ c = Reference.profileMark then underscore else c)

/-- Without an environment of its own a binder uses that of the host. -/
structure Binder where
  properties : PropertyMap
  environment : Option (List (Text × Text)) := none

namespace Binder

def empty : Binder := ⟨[], none⟩

/-- Flattens the entries of a value; a value that is empty has none. -/
def ofValue (properties : Value) (environment : Option (List (Text × Text))) :
    Except Fault Binder := do
  if properties.isTruthy then
    return ⟨flatten [] (.map (← properties.entries)), environment⟩
  else return ⟨[], environment⟩

/-! ## Reading -/

def environmentIn (b : Binder) (host : Host) : List (Text × Text) :=
  b.environment.getD host.environment

/-- The values of `key[0]`, `key[1]`, … up to the first that is not bound. -/
def indexed (b : Binder) (key : Text) : List Value :=
  (((List.range b.properties.length).map fun i => b.properties.find? (itemKey key i)).takeWhile
    Option.isSome).filterMap id

def get (b : Binder) (host : Host) (key : Text) (default : Value) : Value :=
  match b.properties.find? key with
  | some value => value
  | none =>
    match b.indexed key with
    | [] =>
      match (b.environmentIn host).reverse.lookup (environmentName key) with
      | some t => .text t
      | none => default
    | items => .list items

/-- Stripped texts, without the blank ones. -/
def stripAll (texts : List Text) : List Text := (texts.map Text.strip).filter (!·.isEmpty)

/-- A property as a list of texts; a single text holds them with commas between. -/
def bindList (b : Binder) (host : Host) (key : Text) : Option (List Text) :=
  match b.get host key .null with
  | .null => none
  | .text t => some (stripAll (Text.split ',' t))
  | .list items | .tuple items => some (stripAll (items.map Value.toText))
  | value => some (stripAll [value.toText])

/-- The base names looked for in directories. -/
def configNames (b : Binder) (host : Host) : Except Fault (List Text) :=
  let names := (b.bindList host nameProperty).getD defaultConfigNames
  match names.find? (·.contains wildcard) with
  | some name =>
    .error (.invalidProperty nameProperty
      ("Config name '" ++ name ++ "' cannot contain '" ++ [wildcard] ++ "'"))
  | none => .ok names

/-! ## Reading a file -/

/-- The properties of all sources, later ones over earlier ones. -/
def mergeSources (sources : List Source) : PropertyMap :=
  sources.foldl (fun bound source => bound.merge source.properties) []

/-- Reads the settings from a file, whose extension selects the loader. -/
def ofFile (host : Host) (path : Text) (loaders : List Loader)
    (environment : Option (List (Text × Text))) : Except Fault Binder := do
  let extension := (Path.extension path).lower
  match ← Loader.findExtension? (· == extension) loaders with
  | none => throw (.unknownExtension (Location.of? path none) path)
  | some (loader, _) =>
    let handle := Handle.file path
    if !(← handle.exists? host) then throw (.resourceNotFound (handle.display host) none)
    let properties := mergeSources (← loader.load host path handle)
    return ⟨flatten [] (.map (properties.map fun (k, v) => (.text k, v))), environment⟩

end Binder

end ConfigLocator

import ConfigLocator.Catalog
import ConfigLocator.Document.Markup
import ConfigLocator.Document.Properties
import ConfigLocator.Document.Yaml
import ConfigLocator.Loader
import ConfigLocator.Text.Case
import ConfigLocator.Text.Encoding

/-!
# The format loaders

The loader for properties, in plain text or markup, and the one for YAML. A YAML file can hold
several documents, each of which becomes a source of its own unless it is empty.
-/

namespace ConfigLocator

/-! ## Properties -/

/-- What a markup document starts with. -/
def markupOpening : Text := "<?xml"

/-- A file whose name ends in `.xml`, or whose first characters other than blanks declare markup. -/
def isMarkup (handle : Handle) (content : Text) : Bool :=
  Text.endsWith handle.fileName.lower ".xml" ||
    Text.startsWith (Text.trimStart isAsciiBlank content) markupOpening

/-- Plain text is read as Latin-1; a file without properties has no source. -/
def loadProperties (host : Host) (name : Text) (handle : Handle) : Except Fault (List Source) := do
  let content ← handle.read host
  let text := Text.ofLatin1 content
  let properties ←
    if isMarkup handle text then Markup.readProperties content else Properties.read text
  return if properties.isEmpty then [] else [⟨name, properties⟩]

def propertiesLoader (id : Nat) : Loader :=
  ⟨id, "properties", .ok ["properties", "xml"], loadProperties⟩

/-! ## YAML -/

/-- The sources of documents, each with its index among those that are not empty; the index is part
of the name when there are several. -/
def documentSources (host : Host) (name : Text) (handle : Handle) (several : Bool) (index : Nat) :
    List Yaml.Document → Except Fault (List Source)
  | [] => .ok []
  | document :: rest =>
    match document.value with
    | .map entries => do
      if document.isEndless then throw .endlessValue
      let own := if several then name ++ " (document #" ++ Text.ofNat index ++ ")" else name
      return ⟨own, flatten [] (.map entries)⟩ ::
        (← documentSources host name handle several (index + 1) rest)
    | value => .error (.notMapping index (handle.display host) value.kindName)

def loadYaml (host : Host) (name : Text) (handle : Handle) : Except Fault (List Source) := do
  let content ← handle.read host
  let documents := (← host.readYaml content).filter (·.value.isTruthy)
  documentSources host name handle (documents.length != 1) 0 documents

def yamlLoader (id : Nat) : Loader := ⟨id, "yaml", .ok ["yml", "yaml"], loadYaml⟩

/-! ## Catalog -/

/-- In order of registration: YAML takes precedence. -/
def defaultLoaders : List Loader := [propertiesLoader 0, yamlLoader 1]

/-- A loader has no settings, though everything on offer is passed to it. -/
def loaderRecipe (typeName : Text) (loader : Loader) : Recipe Empty (Text × Loader) where
  typeName := typeName
  parameters := ⟨[], false⟩
  takesOffers := true
  build := fun _ => .ok (typeName, loader)

def loaderExport (typeName name : Text) (loader : Loader) :
    Export (Recipe Empty (Text × Loader)) :=
  ⟨typeName, some ⟨typeName, name, [], true, loaderRecipe typeName loader⟩⟩

/-- Recipes for loaders with a given identity, each of which comes with the name of its type. -/
def loaderCatalog (id : Nat) : Catalog Empty (Text × Loader) :=
  Catalog.recipes
    [loaderExport "PropertiesFormatLoader" "properties" (propertiesLoader id),
      loaderExport "YamlFormatLoader" "yaml" (yamlLoader id)]

/-- The loader that a block describes. -/
def loaderOf (id : Nat) (block : Value) : Except Fault (Text × Loader) :=
  Blueprint.instantiate (loaderCatalog id) block none []

end ConfigLocator

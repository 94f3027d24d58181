import ConfigLocator.CommandLine
import ConfigLocator.Proofs.Flattening
import ConfigLocator.Proofs.Outcome

/-!
# Names given on the command line

Names on the command line are bound to `config.name` over the settings of the file, as one list. The
settings of the file are flat by then, and so a list of names in the file stands under
`config.name[0]`, `config.name[1]`, … and is not replaced by a binding of `config.name`; it meets the
given names when everything is flattened again. `CommandLine.namesInEffect` is what comes of the two
lists: the given names, and behind them the items of the file that have a greater index.

`CommandLine.registryFor_eq_names_in_effect` is the exact outcome, and says when it is the one for
the given names alone.
-/

namespace ConfigLocator

/-! ## Checking names -/

namespace Binder

/-- The names, unless one of them has a wildcard. -/
def checkNames (names : List Text) : Except Fault (List Text) :=
  match names.find? (·.contains wildcard) with
  | some name =>
    .error (.invalidProperty nameProperty
      ("Config name '" ++ name ++ "' cannot contain '" ++ [wildcard] ++ "'"))
  | none => .ok names

theorem configNames_eq (b : Binder) (host : Host) :
    b.configNames host = checkNames ((b.bindList host nameProperty).getD defaultConfigNames) := rfl

/-- The check tells lists apart by their first name with a wildcard, or else by all of their names. -/
theorem checkNames_eq_iff {names others : List Text} :
    checkNames names = checkNames others ↔
      names.find? (·.contains wildcard) = others.find? (·.contains wildcard)
        ∧ ((∀ name ∈ others, name.contains wildcard = false) → names = others) := by
  have hplain : others.find? (·.contains wildcard) = none ↔
      ∀ name ∈ others, name.contains wildcard = false := by
    rw [List.find?_eq_none]
    simp only [Bool.not_eq_true]
  rw [← hplain, checkNames, checkNames]
  cases names.find? (·.contains wildcard) with
  | none =>
      cases others.find? (·.contains wildcard) with
      | none => simp
      | some other => simp
  | some name =>
      cases others.find? (·.contains wildcard) with
      | none => simp
      | some other => simp

theorem stripAll_append (texts more : List Text) :
    stripAll (texts ++ more) = stripAll texts ++ stripAll more := by
  simp [stripAll]

theorem stripAll_eq_nil_iff {texts : List Text} :
    stripAll texts = [] ↔ ∀ t ∈ texts, t.strip = [] := by
  simp [stripAll, List.filter_eq_nil_iff]

end Binder

/-! ## The registry of the command -/

/-- A standard resolver alone, with loaders and store as they are when nothing is said of them. -/
def standardRegistry (names : List Text) : Registry :=
  ⟨[.standard ⟨names, defaultLoaders, ⟨none⟩⟩]⟩

theorem map_standardRegistry_inj {names others : Except Fault (List Text)} :
    names.map standardRegistry = others.map standardRegistry ↔ names = others := by
  cases names <;> cases others <;> simp [Except.map, standardRegistry]

namespace Bootstrap

theorem plan_default (host : Host) (b : Binder) :
    Blueprint.plan (resolverCatalog host) (.text standardName) none (offers (some b) none none) =
      .ok ⟨standardRecipe host, .list [],
        (offers (some b) none none).map fun (key, a) => (.text key, a)⟩ := rfl

theorem buildStandard_default (host : Host) (b : Binder) :
    buildStandard host (offers (some b) none none) =
      (b.configNames host).map fun names => .standard ⟨names, defaultLoaders, ⟨none⟩⟩ := by
  show (b.configNames host >>= fun names =>
    pure (Resolver.standard ⟨names, defaultLoaders, ⟨none⟩⟩)) = _
  cases b.configNames host <;> rfl

/-- By default the registry has the standard resolver with the names of the binder. -/
theorem registry_default (host : Host) (b : Binder) :
    registry host defaultResolverNames (some b) none none [] =
      (b.configNames host).map standardRegistry := by
  have hcatalog : Catalog.update (resolverCatalog host) [] = resolverCatalog host := rfl
  have hresolver : Blueprint.instantiate (resolverCatalog host) (.text standardName) none
      (offers (some b) none none) = buildStandard host (offers (some b) none none) := by
    rw [Blueprint.instantiate, plan_default]
    rfl
  rw [registry, hcatalog, defaultResolverNames, List.mapM_cons, List.mapM_nil, hresolver,
    buildStandard_default]
  cases b.configNames host <;> rfl

end Bootstrap

namespace CommandLine

variable {host : Host} {o : Options} {b : Binder}

/-- The settings of the file, none without one. -/
def fileSettings (host : Host) (o : Options) : Except Fault Binder :=
  if o.properties = [] then .ok .empty else Binder.ofFile host o.properties defaultLoaders none

/-- The resolvers that a command builds. -/
def registryFor (host : Host) (o : Options) : Except Fault Registry := do
  registryOf host (← binderFor host o)

theorem isFlat_fileSettings (h : fileSettings host o = .ok b) : b.properties.IsFlat := by
  unfold fileSettings at h
  split at h
  · cases h
    exact PropertyMap.isFlat_nil
  · simp only [Binder.ofFile, bind_eq_ok_iff] at h
    obtain ⟨found, -, h⟩ := h
    cases found with
    | none => cases h
    | some pair =>
        obtain ⟨isThere, -, h⟩ := bind_eq_ok_iff.mp h
        cases isThere with
        | false => cases h
        | true =>
            obtain ⟨sources, -, h⟩ := bind_eq_ok_iff.mp h
            cases h
            exact isFlat_flatten [] _

/-! ## The names in effect -/

/-- What names come to over the settings of a file. A name gives way to an item of its index that
the file binds behind `config.name` itself, and items of a greater index follow the names. -/
def namesInEffect (bound : PropertyMap) (names : List Text) : List Value :=
  (names.mapIdx fun index name =>
    ((bound.after nameProperty).find? (itemKey nameProperty index)).getD (.text name))
  ++ bound.indexedFrom nameProperty names.length

/-- Settings with names bound over them, flattened again. -/
def withNames (b : Binder) (names : List Text) : Binder :=
  ⟨flattenEntries [] (b.properties.bind nameProperty (.list (names.map .text))).entries,
    b.environment⟩

theorem binderFor_eq (ho : o.names ≠ []) (hb : fileSettings host o = .ok b) :
    binderFor host o = .ok (withNames b o.names) := by
  unfold fileSettings at hb
  rw [binderFor]
  split at hb
  · rename_i hproperties
    cases hb
    rw [if_pos hproperties]
    show (if o.names = [] then _ else _) = _
    rw [if_neg ho, withNames, ← flatten_entries]
    rfl
  · rename_i hproperties
    rw [if_neg hproperties, hb]
    show (if o.names = [] then _ else _) = _
    rw [if_neg ho, withNames, ← flatten_entries]
    rfl

theorem isLeaf_names (names : List Text) : ∀ v ∈ names.map Value.text, v.isLeaf = true := by
  simp [Value.isLeaf]

section Bound

variable {names : List Text} (hb : b.properties.IsFlat) (hnames : names ≠ [])

include hb hnames

theorem find?_withNames (other : Text) :
    (withNames b names).properties.find? other =
      ((b.properties.after nameProperty).find? other).or
        (((flattenItems nameProperty 0 (names.map .text)).find? other).or
          ((b.properties.before nameProperty).find? other)) :=
  find?_flatten_bind hb nameProperty other (by simpa using hnames)

/-- The list of names leaves no binding of `config.name` itself. -/
theorem find?_withNames_self : (withNames b names).properties.find? nameProperty = none := by
  rw [find?_withNames hb hnames, PropertyMap.find?_after_self hb.nodup,
    find?_flattenItems_of_ne (isLeaf_names names) fun index _ => itemKey_ne nameProperty index,
    PropertyMap.find?_before_self]
  rfl

theorem find?_withNames_of_lt (index : Nat) (h : index < names.length) :
    (withNames b names).properties.find? (itemKey nameProperty index) =
      some (((b.properties.after nameProperty).find? (itemKey nameProperty index)).getD
        (.text names[index])) := by
  have hitem := find?_flattenItems nameProperty 0 index (isLeaf_names names)
  rw [Nat.zero_add, List.getElem?_map, List.getElem?_eq_getElem h] at hitem
  rw [find?_withNames hb hnames, hitem]
  cases (b.properties.after nameProperty).find? (itemKey nameProperty index) <;> rfl

theorem find?_withNames_of_ge (index : Nat) (h : names.length ≤ index) :
    (withNames b names).properties.find? (itemKey nameProperty index) =
      b.properties.find? (itemKey nameProperty index) := by
  have hitem := find?_flattenItems nameProperty 0 index (isLeaf_names names)
  rw [Nat.zero_add, List.getElem?_map, List.getElem?_eq_none h] at hitem
  rw [find?_withNames hb hnames, hitem, Option.map_none, Option.none_or,
    PropertyMap.find?_before_or_after hb.nodup (itemKey_ne nameProperty index)]

theorem indexed_withNames :
    (withNames b names).indexed nameProperty = namesInEffect b.properties names := by
  let items := names.mapIdx fun index name =>
    ((b.properties.after nameProperty).find? (itemKey nameProperty index)).getD (.text name)
  have hlength : items.length = names.length := List.length_mapIdx
  have hitems : ∀ index (h : index < items.length),
      (withNames b names).properties.find? (itemKey nameProperty index) = some items[index] := by
    intro index h
    rw [List.getElem_mapIdx]
    exact find?_withNames_of_lt hb hnames index (hlength ▸ h)
  have hlater : ∀ index, items.length ≤ index →
      (withNames b names).properties.find? (itemKey nameProperty index) =
        b.properties.find? (itemKey nameProperty index) := fun index h =>
    find?_withNames_of_ge hb hnames index (hlength ▸ h)
  rw [Binder.indexed_eq_append hitems hlater, hlength]
  rfl

theorem bindList_withNames : (withNames b names).bindList host nameProperty =
    some (Binder.stripAll ((namesInEffect b.properties names).map Value.toText)) := by
  obtain ⟨first, rest, hitems⟩ : ∃ first rest, namesInEffect b.properties names = first :: rest := by
    refine List.exists_cons_of_ne_nil ?_
    simp [namesInEffect, hnames]
  rw [Binder.bindList, Binder.get, find?_withNames_self hb hnames, indexed_withNames hb hnames,
    hitems]

end Bound

/-- What names come to when the file binds no item of their indices behind `config.name`. -/
theorem namesInEffect_eq_append {bound : PropertyMap} {names : List Text}
    (h : ∀ index < names.length,
      (bound.after nameProperty).find? (itemKey nameProperty index) = none) :
    namesInEffect bound names =
      names.map .text ++ bound.indexedFrom nameProperty names.length := by
  rw [namesInEffect]
  congr 1
  refine List.ext_getElem (by simp) fun index hindex _ => ?_
  rw [List.getElem_mapIdx, List.getElem_map, h index (by simpa using hindex)]
  rfl

/-- With names on the command line the resolver has the names in effect. They are the given ones
exactly when both lists have the same first name with a wildcard, or else the same names. If the
file binds no item of their indices behind `config.name`, that is when a given name has a wildcard,
or every item of the file that follows them is blank. -/
theorem registryFor_eq_names_in_effect (ho : o.names ≠ []) (hb : fileSettings host o = .ok b) :
    let given := Binder.stripAll o.names
    let inEffect := Binder.stripAll ((namesInEffect b.properties o.names).map Value.toText)
    registryFor host o = (Binder.checkNames inEffect).map standardRegistry
    ∧ (registryFor host o = (Binder.checkNames given).map standardRegistry ↔
        inEffect.find? (·.contains wildcard) = given.find? (·.contains wildcard)
          ∧ ((∀ name ∈ given, name.contains wildcard = false) → inEffect = given))
    ∧ ((∀ index < o.names.length,
          (b.properties.after nameProperty).find? (itemKey nameProperty index) = none) →
        (registryFor host o = (Binder.checkNames given).map standardRegistry ↔
          (∃ name ∈ given, name.contains wildcard = true)
            ∨ ∀ v ∈ b.properties.indexedFrom nameProperty o.names.length, v.toText.strip = [])) := by
  intro given inEffect
  have hflat : b.properties.IsFlat := isFlat_fileSettings hb
  have hregistry : registryFor host o = (Binder.checkNames inEffect).map standardRegistry := by
    rw [registryFor, binderFor_eq ho hb]
    show Bootstrap.registry host _ (some (withNames b o.names)) none none [] = _
    rw [Bootstrap.registry_default, Binder.configNames_eq, bindList_withNames hflat ho]
    rfl
  have hiff : registryFor host o = (Binder.checkNames given).map standardRegistry ↔
      inEffect.find? (·.contains wildcard) = given.find? (·.contains wildcard)
        ∧ ((∀ name ∈ given, name.contains wildcard = false) → inEffect = given) := by
    rw [hregistry, map_standardRegistry_inj, Binder.checkNames_eq_iff]
  refine ⟨hregistry, hiff, fun hfree => ?_⟩
  let more := Binder.stripAll
    ((b.properties.indexedFrom nameProperty o.names.length).map Value.toText)
  have hnames : (o.names.map Value.text).map Value.toText = o.names := by
    rw [List.map_map]
    exact List.map_id' o.names
  have happend : inEffect = given ++ more := by
    show Binder.stripAll _ = _
    rw [namesInEffect_eq_append hfree, List.map_append, Binder.stripAll_append, hnames]
  have hmore : more = [] ↔
      ∀ v ∈ b.properties.indexedFrom nameProperty o.names.length, v.toText.strip = [] := by
    rw [Binder.stripAll_eq_nil_iff, List.forall_mem_map]
  rw [hiff, happend, ← hmore, List.find?_append]
  cases hfirst : given.find? (·.contains wildcard) with
  | some name =>
      have hwild : ∃ name ∈ given, name.contains wildcard = true :=
        ⟨name, List.mem_of_find?_eq_some hfirst, by simpa using List.find?_some hfirst⟩
      refine iff_of_true ⟨rfl, fun hplain => ?_⟩ (Or.inl hwild)
      obtain ⟨name, hname, hstar⟩ := hwild
      rw [hplain name hname] at hstar
      cases hstar
  | none =>
      have hplain : ∀ name ∈ given, name.contains wildcard = false := by
        simpa only [Bool.not_eq_true] using List.find?_eq_none.mp hfirst
      constructor
      · rintro ⟨-, hsame⟩
        exact Or.inr (List.append_right_eq_self.mp (hsame hplain))
      · rintro (⟨name, hname, hstar⟩ | hmore)
        · rw [hplain name hname] at hstar
          cases hstar
        · rw [hmore]
          exact ⟨rfl, fun _ => List.append_nil given⟩

/-! ## A list of names in the file -/

/-- The directory of a file with two names. -/
def namesHost : Host where
  tree := ⟨[(["ws"], .directory), (["ws", "c.properties"],
    .file (("config.name[0]=a\nconfig.name[1]=b\n" : Text).map Nat.toUInt8))]⟩
  workingDirectory := ["ws"]
  environment := []

def namesOptions : Options := ⟨"config/", none, ["x"], "c.properties", false⟩

/-- The names of the standard resolvers. -/
def namesOf (registry : Registry) : List (List Text) :=
  registry.resolvers.filterMap fun
    | .standard r => some r.names
    | .custom _ => none

/-- The second name of the file is still in effect. -/
theorem registryFor_second_name :
    ∃ b, fileSettings namesHost namesOptions = .ok b
      ∧ registryFor namesHost namesOptions =
        (Binder.checkNames (Binder.stripAll
          ((namesInEffect b.properties namesOptions.names).map Value.toText))).map standardRegistry
      ∧ (registryFor namesHost namesOptions).toOption.map namesOf =
        some [[("x" : Text), ("b" : Text)]] := by
  have hread : (fileSettings namesHost namesOptions).isOk = true := by decide +kernel
  obtain ⟨b, hb⟩ : ∃ b, fileSettings namesHost namesOptions = .ok b := by
    cases h : fileSettings namesHost namesOptions with
    | ok b => exact ⟨b, rfl⟩
    | error fault =>
        rw [h] at hread
        cases hread
  refine ⟨b, hb, (registryFor_eq_names_in_effect (by decide) hb).1, by decide +kernel⟩

end CommandLine

end ConfigLocator

import ConfigLocator.Proofs.Parts

/-!
# Gathering lists back

A list in a map is flattened to a key for each of its items, and a binder gathers the items again
(`Binder.indexed`). It finds exactly the list, wherever in the map that stands, if nothing beside the
list is flattened to its key or to a key of an item (`Binder.gathers_list`). An empty list leaves an
empty text under its key, which is read as a list without texts. Under the empty key it leaves
nothing at all, and then the environment is asked.
-/

namespace ConfigLocator

/-! ## The keys of a list -/

/-- The key itself, or the key of an item. -/
def IsIndexed (key other : Text) : Prop := other = key ∨ ∃ index, other = itemKey key index

namespace IsIndexed

theorem self (key : Text) : IsIndexed key key := .inl rfl

theorem item (key : Text) (index : Nat) : IsIndexed key (itemKey key index) := .inr ⟨index, rfl⟩

theorem isPrefix {key other : Text} (h : IsIndexed key other) : key <+: other := by
  rcases h with rfl | ⟨index, rfl⟩
  · exact List.prefix_rfl
  · rw [itemKey, List.append_assoc, List.append_assoc]
    exact List.prefix_append key _

end IsIndexed

/-! ## What a list is flattened to -/

section Items

variable {key : Text} {xs : List Value}

theorem flatten_list (hxs : xs ≠ []) : flatten key (.list xs) = flattenItems key 0 xs := by
  obtain ⟨x, rest, rfl⟩ := List.exists_cons_of_ne_nil hxs
  rfl

theorem find?_flatten_list_item (hleaves : ∀ x ∈ xs, x.isLeaf = true) (hxs : xs ≠ [])
    (index : Nat) : (flatten key (.list xs)).find? (itemKey key index) = xs[index]? := by
  rw [flatten_list hxs]
  simpa only [Nat.zero_add] using find?_flattenItems key 0 index hleaves

theorem find?_flatten_list_self (hleaves : ∀ x ∈ xs, x.isLeaf = true) (hxs : xs ≠ []) :
    (flatten key (.list xs)).find? key = none := by
  rw [flatten_list hxs]
  exact find?_flattenItems_of_ne hleaves fun index _ => itemKey_ne key index

end Items

/-! ## What a binder makes of it -/

namespace Binder

variable {b : Binder} {host : Host} {key : Text}

theorem ofValue_map (entries : List (Value × Value)) (environment : Option (List (Text × Text))) :
    ofValue (.map entries) environment = .ok ⟨flatten [] (.map entries), environment⟩ := by
  cases entries <;> rfl

/-- A binder gathers what it binds to the keys of the items, up to the first that is missing. -/
theorem indexed_eq_of_getElem? {xs : List Value}
    (h : ∀ index, b.properties.find? (itemKey key index) = xs[index]?) : b.indexed key = xs := by
  have hitems : ∀ index (hindex : index < xs.length),
      b.properties.find? (itemKey key index) = some xs[index] := fun index hindex => by
    rw [h, List.getElem?_eq_getElem hindex]
  have hlater : ∀ index, xs.length ≤ index →
      b.properties.find? (itemKey key index) = PropertyMap.find? (itemKey key index) [] :=
    fun index hindex => by
      rw [h, List.getElem?_eq_none hindex]
      rfl
  rw [indexed_eq_append hitems hlater]
  exact List.append_nil xs

theorem get_of_find? {value : Value} (h : b.properties.find? key = some value) (default : Value) :
    b.get host key default = value := by
  rw [get, h]

theorem get_of_items {xs : List Value} (hkey : b.properties.find? key = none)
    (hitems : ∀ index, b.properties.find? (itemKey key index) = xs[index]?) (hxs : xs ≠ [])
    (default : Value) : b.get host key default = .list xs := by
  obtain ⟨x, rest, rfl⟩ := List.exists_cons_of_ne_nil hxs
  rw [get, hkey, indexed_eq_of_getElem? hitems]

/-- What is not bound is up to the environment. -/
theorem get_of_unbound (hkey : b.properties.find? key = none)
    (hitems : ∀ index, b.properties.find? (itemKey key index) = none) (default : Value) :
    b.get host key default =
      (((b.environmentIn host).reverse.lookup (environmentName key)).map .text).getD default := by
  have hindexed : b.indexed key = [] := indexed_eq_of_getElem? hitems
  rw [get, hkey, hindexed]
  cases (b.environmentIn host).reverse.lookup (environmentName key) <;> rfl

/-- A list that stands somewhere in a map, with nothing beside it that is flattened to its key or to
a key of an item, is gathered back, and read as a list of the texts of its items. So is an empty
list, unless its key is empty. -/
theorem gathers_list {entries : List (Value × Value)} {path : List Nat} {xs : List Value}
    (hpart : Value.part? [] (.map entries) path = some (key, .list xs))
    (hleaves : ∀ x ∈ xs, x.isLeaf = true)
    (halone : ∀ other, IsIndexed key other → (Value.map entries).Avoids [] other (path <+: ·))
    (environment : Option (List (Text × Text))) :
    ∃ b, ofValue (.map entries) environment = .ok b
      ∧ (xs ≠ [] → ∀ default, b.get host key default = .list xs)
      ∧ (xs ≠ [] ∨ key ≠ [] → b.bindList host key =
          some ((xs.map fun x => x.toText.strip).filter fun t => !t.isEmpty))
      ∧ (xs = [] → key = [] → b.bindList host key =
          ((b.environmentIn host).reverse.lookup (environmentName key)).map fun t =>
            stripAll (Text.split ',' t)) := by
  let b : Binder := ⟨flatten [] (.map entries), environment⟩
  have hfind : ∀ other, IsIndexed key other →
      b.properties.find? other = (flatten key (.list xs)).find? other := fun other hother =>
    find?_flatten_of_part? hpart (halone other hother)
  have hself := hfind key (.self key)
  have hitem := fun index => hfind (itemKey key index) (.item key index)
  refine ⟨b, ofValue_map entries environment, ?_⟩
  by_cases hxs : xs = []
  · subst hxs
    have hempty : flatten key (.list []) = emptyAt key := flatten_of_isEnd rfl rfl key
    refine ⟨fun h => absurd rfl h, fun h => ?_, fun _ hkey => ?_⟩
    · have hkey : key ≠ [] := h.resolve_left fun h => h rfl
      rw [hempty, emptyAt, if_neg hkey, PropertyMap.find?_cons, if_pos rfl] at hself
      rw [bindList, get_of_find? hself]
      rfl
    · subst hkey
      rw [hempty] at hself
      simp only [hempty] at hitem
      rw [bindList, get_of_unbound hself hitem]
      cases (b.environmentIn host).reverse.lookup (environmentName []) <;> rfl
  · rw [find?_flatten_list_self hleaves hxs] at hself
    simp only [find?_flatten_list_item hleaves hxs] at hitem
    refine ⟨fun _ => get_of_items hself hitem hxs, fun _ => ?_, fun h => absurd h hxs⟩
    rw [bindList, get_of_items hself hitem hxs]
    show some (stripAll (xs.map Value.toText)) = _
    rw [stripAll, List.map_map]
    rfl

/-- A list of names, and a setting beside it. -/
def nameSettings : List (Value × Value) :=
  [(.text "config", .map [(.text "name", .list [.text "app", .text " shared ", .text ""]),
    (.text "port", .int 80)])]

/-- Has other names in its environment. -/
def nameHost : Host where
  tree := ⟨[]⟩
  workingDirectory := []
  environment := [("CONFIGDATA_CONFIG_NAME", "other")]

theorem nameSettings_avoids {other : Text} (h : IsIndexed nameProperty other) :
    (Value.map nameSettings).Avoids [] other ([0, 0] <+: ·) := by
  have hport : ("config.port" : Text) ≠ other := by
    rintro rfl
    exact absurd h.isPrefix (by decide)
  refine .of_parts rfl fun position k x hx => ?_
  match position with
  | 0 =>
      obtain ⟨rfl, rfl⟩ := Prod.mk.inj (Option.some.inj hx)
      refine .of_parts rfl fun position k x hx => ?_
      match position with
      | 0 => exact .of_apart fun path => List.prefix_append [0, 0] path
      | 1 =>
          obtain ⟨rfl, rfl⟩ := Prod.mk.inj (Option.some.inj hx)
          refine .of_find?_eq_none ?_
          show PropertyMap.find? other [("config.port", .int 80)] = none
          rw [PropertyMap.find?_cons, if_neg hport]
          rfl
      | position + 2 => simp [Value.parts] at hx
  | position + 1 => simp [nameSettings, Value.parts] at hx

/-- The names of the list are found, and not those of the environment. -/
theorem gathers_list_of_names :
    ∃ b, ofValue (.map nameSettings) none = .ok b
      ∧ (∀ default, b.get nameHost nameProperty default =
          .list [.text "app", .text " shared ", .text ""])
      ∧ b.bindList nameHost nameProperty = some [("app" : Text), ("shared" : Text)] := by
  have hpart : Value.part? [] (.map nameSettings) [0, 0] =
      some (nameProperty, .list [.text "app", .text " shared ", .text ""]) := rfl
  obtain ⟨b, hb, hget, hlist, -⟩ := @gathers_list nameHost _ _ _ _ hpart (by simp [Value.isLeaf])
    (fun _ h => nameSettings_avoids h) none
  exact ⟨b, hb, hget (by simp), hlist (by simp)⟩

/-- An empty list at the empty key, with nothing beside it, is read as no list at all. -/
theorem empty_list_unbound_at_empty_key :
    Value.part? [] (.map [(.text [], .list [])]) [0] = some ([], .list [])
    ∧ (∀ other, IsIndexed [] other →
        (Value.map [(.text [], .list [])]).Avoids [] other ([0] <+: ·))
    ∧ ∃ b, ofValue (.map [(.text [], .list [])]) (some []) = .ok b
      ∧ b.bindList nameHost [] = none :=
  ⟨rfl, fun _ _ => .of_find?_eq_none rfl, ⟨[], some []⟩, rfl, rfl⟩

end Binder

end ConfigLocator

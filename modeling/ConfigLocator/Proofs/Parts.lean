import ConfigLocator.Proofs.Flattening

/-!
# Parts of a value

A value is a tree: maps and sequences have parts (`Value.parts`), and a part stands at a path of
positions (`Value.part?`). What flattening binds comes from the ends of the tree, which have no parts
(`exists_end_of_find?_flatten`). So a part decides alone over every key that no end beside it is
flattened to (`Value.Avoids`, `find?_flatten_of_part?`), however deep it stands.
-/

namespace ConfigLocator

namespace Value

/-- The parts of a value that is flattened under a key, each with its own key. -/
def parts (key : Text) : Value → List (Text × Value)
  | map entries => entries.map fun (k, v) => (childKey key k.toText, v)
  | list items | tuple items => items.mapIdx fun index v => (itemKey key index, v)
  | _ => []

/-- What stands at a path of positions, with the key under which it is flattened. -/
def part? (key : Text) (v : Value) : List Nat → Option (Text × Value)
  | [] => some (key, v)
  | position :: path => (parts key v)[position]?.bind fun (k, x) => part? k x path

/-- Has no parts: anything but a collection, or an empty one. -/
def isEnd : Value → Bool
  | map entries => entries.isEmpty
  | list items | tuple items => items.isEmpty
  | _ => true

theorem isEnd_of_getElem?_parts {key : Text} {v : Value} {position : Nat} {x : Text × Value}
    (h : (parts key v)[position]? = some x) : v.isEnd = false := by
  cases v with
  | map members | list members | tuple members => cases members <;> simp_all [parts, isEnd]
  | _ => simp [parts] at h

theorem sizeOf_lt_of_mem_mapIdx {key k : Text} {items : List Value} {x : Value}
    (h : (k, x) ∈ items.mapIdx fun index v => (itemKey key index, v)) : sizeOf x < sizeOf items := by
  obtain ⟨index, hindex, heq⟩ := List.mem_mapIdx.mp h
  obtain ⟨-, rfl⟩ := Prod.mk.inj heq
  exact List.sizeOf_lt_of_mem (List.getElem_mem hindex)

theorem sizeOf_lt_of_mem_parts {key k : Text} {v x : Value} (h : (k, x) ∈ parts key v) :
    sizeOf x < sizeOf v := by
  cases v with
  | map entries =>
      obtain ⟨⟨part, y⟩, hmem, heq⟩ := List.mem_map.mp h
      obtain ⟨-, rfl⟩ := Prod.mk.inj heq
      have hlt := List.sizeOf_lt_of_mem hmem
      simp only [Prod.mk.sizeOf_spec, map.sizeOf_spec] at hlt ⊢
      omega
  | list items =>
      have hlt := sizeOf_lt_of_mem_mapIdx h
      rw [list.sizeOf_spec]
      omega
  | tuple items =>
      have hlt := sizeOf_lt_of_mem_mapIdx h
      rw [tuple.sizeOf_spec]
      omega
  | _ => cases h

/-- What is true of a value if it is true of its parts is true of every value. -/
theorem induction_on_parts {motive : Text → Value → Prop}
    (step : ∀ key v, (∀ k x, (k, x) ∈ parts key v → motive k x) → motive key v)
    (key : Text) (v : Value) : motive key v :=
  step key v fun k x _ => induction_on_parts step k x
termination_by sizeOf v
decreasing_by exact sizeOf_lt_of_mem_parts ‹_›

end Value

/-! ## Flattening the parts -/

/-- What the parts are flattened to, later ones over earlier ones. -/
def flattenParts : List (Text × Value) → PropertyMap
  | [] => []
  | (key, v) :: rest => PropertyMap.merge (flatten key v) (flattenParts rest)

theorem flattenEntries_eq (key : Text) (entries : List (Value × Value)) :
    flattenEntries key entries = flattenParts (Value.parts key (.map entries)) := by
  induction entries with
  | nil => rfl
  | cons entry rest ih =>
      rw [flattenEntries, ih]
      rfl

theorem flattenItems_eq (key : Text) (start : Nat) (items : List Value) :
    flattenItems key start items =
      flattenParts (items.mapIdx fun index v => (itemKey key (start + index), v)) := by
  induction items generalizing start with
  | nil => rfl
  | cons v rest ih =>
      simp only [flattenItems, ih, List.mapIdx_cons, flattenParts, Nat.add_zero, Nat.add_assoc,
        Nat.add_comm 1]

theorem flattenItems_zero_eq (key : Text) (items : List Value) :
    flattenItems key 0 items = flattenParts (items.mapIdx fun index v => (itemKey key index, v)) := by
  simpa only [Nat.zero_add] using flattenItems_eq key 0 items

theorem flatten_of_not_isEnd {v : Value} (h : v.isEnd = false) (key : Text) :
    flatten key v = flattenParts (Value.parts key v) := by
  cases v with
  | map entries =>
      obtain ⟨entry, rest, rfl⟩ := List.exists_cons_of_ne_nil (List.isEmpty_eq_false_iff.mp h)
      exact flattenEntries_eq key (entry :: rest)
  | list items | tuple items =>
      obtain ⟨v, rest, rfl⟩ := List.exists_cons_of_ne_nil (List.isEmpty_eq_false_iff.mp h)
      exact flattenItems_zero_eq key (v :: rest)
  | _ => cases h

theorem flatten_of_isEnd {v : Value} (hend : v.isEnd = true) (hcollection : v.isLeaf = false)
    (key : Text) : flatten key v = emptyAt key := by
  cases v with
  | map members | list members | tuple members =>
      obtain rfl := List.isEmpty_iff.mp hend
      rw [flatten]
  | _ => cases hcollection

theorem isFlat_flattenParts : (parts : List (Text × Value)) → (flattenParts parts).IsFlat
  | [] => PropertyMap.isFlat_nil
  | (key, v) :: rest => (isFlat_flatten key v).merge (isFlat_flattenParts rest)

theorem find?_flattenParts_cons (other key : Text) (v : Value) (rest : List (Text × Value)) :
    (flattenParts ((key, v) :: rest)).find? other =
      ((flattenParts rest).find? other).or ((flatten key v).find? other) :=
  PropertyMap.find?_merge (isFlat_flattenParts rest).nodup

theorem find?_flattenParts_eq_none_iff {other : Text} {parts : List (Text × Value)} :
    (flattenParts parts).find? other = none ↔
      ∀ k x, (k, x) ∈ parts → (flatten k x).find? other = none := by
  induction parts with
  | nil => simp [flattenParts, PropertyMap.find?]
  | cons part rest ih =>
      obtain ⟨key, v⟩ := part
      rw [find?_flattenParts_cons, Option.or_eq_none_iff, ih]
      constructor
      · rintro ⟨hrest, hfirst⟩ k x hx
        rcases List.mem_cons.mp hx with heq | hx
        · obtain ⟨rfl, rfl⟩ := Prod.mk.inj heq
          exact hfirst
        · exact hrest k x hx
      · exact fun h => ⟨fun k x hx => h k x (List.mem_cons_of_mem _ hx),
          h key v List.mem_cons_self⟩

/-- One part decides over a key that no other part is flattened to. -/
theorem find?_flattenParts_of_getElem? {other k : Text} {x : Value} {parts : List (Text × Value)}
    {position : Nat} (h : parts[position]? = some (k, x))
    (halone : ∀ j l y, j ≠ position → parts[j]? = some (l, y) → (flatten l y).find? other = none) :
    (flattenParts parts).find? other = (flatten k x).find? other := by
  induction parts generalizing position with
  | nil => simp at h
  | cons first rest ih =>
      rw [find?_flattenParts_cons]
      cases position with
      | zero =>
          obtain rfl := Option.some.inj h
          have hrest : (flattenParts rest).find? other = none := by
            refine find?_flattenParts_eq_none_iff.mpr fun l y hy => ?_
            obtain ⟨j, hj⟩ := List.getElem?_of_mem hy
            exact halone (j + 1) l y (Nat.succ_ne_zero j) hj
          rw [hrest, Option.none_or]
      | succ position =>
          rw [halone 0 first.1 first.2 (Nat.succ_ne_zero position).symm rfl, Option.or_none]
          exact ih h fun j l y hj => halone (j + 1) l y (by omega)

/-! ## What comes from where -/

/-- What is bound comes from an end of the value. -/
theorem exists_end_of_find?_flatten {other : Text} (key : Text) (v : Value)
    (h : (flatten key v).find? other ≠ none) :
    ∃ path k w, Value.part? key v path = some (k, w) ∧ w.isEnd = true
      ∧ (flatten k w).find? other ≠ none := by
  induction key, v using Value.induction_on_parts with
  | step key v ih =>
      cases hend : v.isEnd with
      | true => exact ⟨[], key, v, rfl, hend, h⟩
      | false =>
          rw [flatten_of_not_isEnd hend] at h
          obtain ⟨k, x, hx, hbound⟩ : ∃ k x, (k, x) ∈ Value.parts key v
              ∧ (flatten k x).find? other ≠ none := by
            by_contra hnone
            simp only [not_exists, not_and, not_not] at hnone
            exact h (find?_flattenParts_eq_none_iff.mpr hnone)
          obtain ⟨position, hposition⟩ := List.getElem?_of_mem hx
          obtain ⟨path, l, w, hpart, hw, hbinds⟩ := ih k x hx hbound
          refine ⟨position :: path, l, w, ?_, hw, hbinds⟩
          rw [Value.part?, hposition]
          exact hpart

/-- What a part is flattened to is bound, be it to the value of a later part. -/
theorem find?_flatten_ne_none_of_part? {key other k : Text} {v w : Value} {path : List Nat}
    (hpart : Value.part? key v path = some (k, w)) (h : (flatten k w).find? other ≠ none) :
    (flatten key v).find? other ≠ none := by
  induction path generalizing key v with
  | nil =>
      obtain ⟨rfl, rfl⟩ := Prod.mk.inj (Option.some.inj hpart)
      exact h
  | cons position path ih =>
      obtain ⟨⟨l, x⟩, hx, hbelow⟩ := Option.bind_eq_some_iff.mp hpart
      rw [flatten_of_not_isEnd (Value.isEnd_of_getElem?_parts hx)]
      exact fun hnone => ih hbelow
        (find?_flattenParts_eq_none_iff.mp hnone l x (List.mem_of_getElem? hx))

/-! ## Keys that are left alone -/

/-- No end of the value is flattened to the key, apart from those at certain paths. -/
def Value.Avoids (v : Value) (key other : Text) (apart : List Nat → Prop) : Prop :=
  ∀ path k w, part? key v path = some (k, w) → w.isEnd = true → ¬apart path →
    (flatten k w).find? other = none

/-- A part decides alone over a key that no end beside it is flattened to. -/
theorem find?_flatten_of_part? {key other k : Text} {v w : Value} {path : List Nat}
    (hpart : Value.part? key v path = some (k, w)) (halone : v.Avoids key other (path <+: ·)) :
    (flatten key v).find? other = (flatten k w).find? other := by
  induction path generalizing key v with
  | nil =>
      obtain ⟨rfl, rfl⟩ := Prod.mk.inj (Option.some.inj hpart)
      rfl
  | cons position path ih =>
      obtain ⟨⟨l, x⟩, hx, hbelow⟩ := Option.bind_eq_some_iff.mp hpart
      have hbeside : ∀ j m y, j ≠ position → (Value.parts key v)[j]? = some (m, y) →
          (flatten m y).find? other = none := by
        intro j m y hj hy
        by_contra hbound
        obtain ⟨below, n, u, hu, hend, hfound⟩ := exists_end_of_find?_flatten m y hbound
        refine hfound (halone (j :: below) n u ?_ hend fun hprefix => ?_)
        · rw [Value.part?, hy]
          exact hu
        · exact hj (List.cons_prefix_cons.mp hprefix).1.symm
      have hx_alone : x.Avoids l other (path <+: ·) := by
        intro below n u hu hend hbelow
        refine halone (position :: below) n u ?_ hend fun hprefix =>
          hbelow (List.cons_prefix_cons.mp hprefix).2
        rw [Value.part?, hx]
        exact hu
      rw [flatten_of_not_isEnd (Value.isEnd_of_getElem?_parts hx),
        find?_flattenParts_of_getElem? hx hbeside, ih hbelow hx_alone]

namespace Value.Avoids

variable {v : Value} {key other : Text} {apart : List Nat → Prop}

theorem of_find?_eq_none (h : (flatten key v).find? other = none) : v.Avoids key other apart := by
  intro path k w hpart _ _
  by_contra hbound
  exact find?_flatten_ne_none_of_part? hpart hbound h

theorem of_apart (h : ∀ path, apart path) : v.Avoids key other apart :=
  fun path _ _ _ _ hpath => absurd (h path) hpath

theorem of_parts (hend : v.isEnd = false)
    (h : ∀ position k (x : Value), (parts key v)[position]? = some (k, x) →
      x.Avoids k other fun path => apart (position :: path)) : v.Avoids key other apart := by
  intro path k w hpart hw hpath
  cases path with
  | nil =>
      obtain ⟨-, rfl⟩ := Prod.mk.inj (Option.some.inj hpart)
      rw [hw] at hend
      cases hend
  | cons position path =>
      obtain ⟨⟨l, x⟩, hx, hbelow⟩ := Option.bind_eq_some_iff.mp hpart
      exact h position l x hx path k w hbelow hw hpath

end Value.Avoids

end ConfigLocator

import Mathlib.Data.List.TakeWhile
import ConfigLocator.Binder
import ConfigLocator.Proofs.Merging

/-!
# Flattened maps

What `flatten` makes is flat (`PropertyMap.IsFlat`): no key is bound twice and no value has parts of
its own. Of two entries that flatten to one key the later one counts
(`find?_flattenEntries`), so an entry that is replaced in a flat map is found again wherever nothing
behind it binds the same key: `PropertyMap.after` is that part of a map.

The values at `key[n]`, `key[n + 1]`, … up to the first that is missing are
`PropertyMap.indexedFrom`. A map is never long enough for all the indices below its length and one
more, so it does not matter how far one looks (`exists_find?_itemKey_eq_none`).
-/

namespace ConfigLocator

namespace PropertyMap

variable {key other : Text} {value : Value} {m base later : PropertyMap}

/-! ## Before and after a key -/

def before (key : Text) (m : PropertyMap) : PropertyMap := m.takeWhile (·.1 != key)

/-- What stands behind a key; nothing if it is not bound. -/
def after (key : Text) (m : PropertyMap) : PropertyMap := (m.dropWhile (·.1 != key)).tail

theorem bind_eq (key : Text) (value : Value) (m : PropertyMap) :
    m.bind key value = m.before key ++ (key, value) :: m.after key := by
  induction m with
  | nil => rfl
  | cons kv rest ih =>
      obtain ⟨k, v⟩ := kv
      by_cases h : k = key
      · simp [bind, before, after, h]
      · simpa [bind, before, after, h] using ih

theorem before_sublist (key : Text) (m : PropertyMap) : (m.before key).Sublist m :=
  List.takeWhile_sublist _

theorem after_sublist (key : Text) (m : PropertyMap) : (m.after key).Sublist m :=
  (List.tail_sublist _).trans (List.dropWhile_sublist _)

theorem find?_before_self (key : Text) (m : PropertyMap) : (m.before key).find? key = none := by
  rw [find?_eq_none_iff, keys, List.mem_map]
  rintro ⟨kv, hkv, rfl⟩
  simpa using List.mem_takeWhile_imp hkv

/-- Another key is looked up before and after. -/
theorem find?_eq_or (h : other ≠ key) (m : PropertyMap) :
    m.find? other = ((m.before key).find? other).or ((m.after key).find? other) := by
  rw [← find?_bind_of_ne h .null m, bind_eq, find?_append, find?_cons, if_neg (Ne.symm h)]

/-- No key is found on both sides. -/
theorem find?_before_or_after (hm : m.keys.Nodup) (h : other ≠ key) :
    ((m.after key).find? other).or ((m.before key).find? other) = m.find? other := by
  rw [find?_eq_or h m]
  cases hafter : (m.after key).find? other with
  | none => simp
  | some v =>
      have hbind : (m.bind key .null).keys.Nodup := nodup_keys_bind hm
      rw [bind_eq, keys, List.map_append, List.nodup_append] at hbind
      have hmem : other ∈ (m.after key).keys := by
        by_contra hnot
        rw [find?_eq_none_iff.mpr hnot] at hafter
        cases hafter
      have hbefore : (m.before key).find? other = none := by
        rw [find?_eq_none_iff]
        intro hin
        exact hbind.2.2 other hin other (List.mem_cons_of_mem _ hmem) rfl
      rw [hbefore]
      rfl

theorem find?_after_self (hm : m.keys.Nodup) (key : Text) : (m.after key).find? key = none := by
  have hbind : (m.bind key .null).keys.Nodup := nodup_keys_bind hm
  rw [bind_eq, keys, List.map_append, List.map_cons] at hbind
  rw [find?_eq_none_iff]
  exact (List.nodup_cons.mp (List.nodup_append.mp hbind).2.1).1

end PropertyMap

/-! ## Keys of items -/

theorem Text.ofNat_injective {m n : Nat} (h : Text.ofNat m = Text.ofNat n) : m = n := by
  have hdigits : Nat.toDigits 10 m = Nat.toDigits 10 n :=
    List.map_injective_iff.mpr (fun _ _ => Char.toNat_inj.mp) h
  rw [← Nat.ofDigitChars_ten_toDigits (n := m), hdigits, Nat.ofDigitChars_ten_toDigits]

theorem itemKey_injective {key : Text} {m n : Nat} (h : itemKey key m = itemKey key n) : m = n := by
  simp only [itemKey, List.append_assoc, List.append_cancel_left_eq,
    List.append_cancel_right_eq] at h
  exact Text.ofNat_injective h

theorem itemKey_ne (key : Text) (n : Nat) : itemKey key n ≠ key := by
  rw [itemKey, List.append_assoc, List.append_assoc]
  intro h
  cases List.append_right_eq_self.mp h

/-! ## Flat maps -/

namespace Value

/-- Has no parts that are bound on their own. -/
def isLeaf : Value → Bool
  | map _ | list _ | tuple _ => false
  | _ => true

end Value

theorem flatten_of_isLeaf {v : Value} (h : v.isLeaf = true) (key : Text) :
    flatten key v = [(key, v)] := by
  cases v with
  | map entries => cases h
  | list items => cases h
  | tuple items => cases h
  | _ => rfl

namespace PropertyMap

structure IsFlat (m : PropertyMap) : Prop where
  nodup : m.keys.Nodup
  leaves : ∀ kv ∈ m, kv.2.isLeaf = true

theorem isFlat_nil : IsFlat [] := ⟨List.nodup_nil, by simp⟩

theorem isFlat_singleton {key : Text} {v : Value} (h : v.isLeaf = true) : IsFlat [(key, v)] :=
  ⟨List.nodup_singleton key, by simpa using h⟩

theorem mem_bind {key : Text} {value : Value} {m : PropertyMap} {kv : Text × Value}
    (h : kv ∈ m.bind key value) : kv = (key, value) ∨ kv ∈ m := by
  rw [bind_eq, List.mem_append, List.mem_cons] at h
  rcases h with h | h | h
  · exact Or.inr ((before_sublist key m).subset h)
  · exact Or.inl h
  · exact Or.inr ((after_sublist key m).subset h)

theorem mem_merge {base later : PropertyMap} {kv : Text × Value} (h : kv ∈ base.merge later) :
    kv ∈ base ∨ kv ∈ later := by
  induction later generalizing base with
  | nil => exact Or.inl h
  | cons first rest ih =>
      rcases ih h with h | h
      · rcases mem_bind h with rfl | h
        · exact Or.inr List.mem_cons_self
        · exact Or.inl h
      · exact Or.inr (List.mem_cons_of_mem _ h)

theorem IsFlat.merge {base later : PropertyMap} (hbase : base.IsFlat) (hlater : later.IsFlat) :
    (base.merge later).IsFlat where
  nodup := nodup_keys_merge hbase.nodup
  leaves kv hkv := (mem_merge hkv).elim (hbase.leaves kv) (hlater.leaves kv)

end PropertyMap

theorem isFlat_emptyAt (key : Text) : (emptyAt key).IsFlat := by
  unfold emptyAt
  split
  · exact PropertyMap.isFlat_nil
  · exact PropertyMap.isFlat_singleton rfl

mutual

/-- Whatever a value holds, what it flattens to is flat. -/
theorem isFlat_flatten (key : Text) : (v : Value) → (flatten key v).IsFlat
  | .map [] | .list [] | .tuple [] => by
      rw [flatten]
      exact isFlat_emptyAt key
  | .map (entry :: entries) => by
      rw [flatten]
      · exact isFlat_flattenEntries key (entry :: entries)
      · simp
  | .list (v :: items) | .tuple (v :: items) => by
      rw [flatten]
      · exact isFlat_flattenItems key 0 (v :: items)
      · simp
  | .null | .bool _ | .int _ | .float _ | .text _ | .bytes _ | .date _ | .moment _ | .set _ =>
      PropertyMap.isFlat_singleton rfl

theorem isFlat_flattenEntries (key : Text) :
    (entries : List (Value × Value)) → (flattenEntries key entries).IsFlat
  | [] => PropertyMap.isFlat_nil
  | (k, v) :: rest =>
      (isFlat_flatten (childKey key k.toText) v).merge (isFlat_flattenEntries key rest)

theorem isFlat_flattenItems (key : Text) (index : Nat) :
    (items : List Value) → (flattenItems key index items).IsFlat
  | [] => PropertyMap.isFlat_nil
  | v :: rest =>
      (isFlat_flatten (itemKey key index) v).merge (isFlat_flattenItems key (index + 1) rest)

end

/-! ## What flattened entries bind -/

/-- Later entries count first. -/
theorem find?_flattenEntries_append (key other : Text) (entries later : List (Value × Value)) :
    (flattenEntries key (entries ++ later)).find? other =
      ((flattenEntries key later).find? other).or ((flattenEntries key entries).find? other) := by
  induction entries with
  | nil => simp [flattenEntries, PropertyMap.find?]
  | cons entry rest ih =>
      obtain ⟨k, v⟩ := entry
      rw [List.cons_append, flattenEntries, flattenEntries,
        PropertyMap.find?_merge (isFlat_flattenEntries _ _).nodup, ih,
        PropertyMap.find?_merge (isFlat_flattenEntries _ _).nodup, Option.or_assoc]

/-- Nothing but keys of items is bound by the items of a list of leaves. -/
theorem find?_flattenItems_of_ne {key other : Text} {start : Nat} {items : List Value}
    (h : ∀ v ∈ items, v.isLeaf = true) (hne : ∀ index, start ≤ index → itemKey key index ≠ other) :
    (flattenItems key start items).find? other = none := by
  induction items generalizing start with
  | nil => rfl
  | cons v rest ih =>
      obtain ⟨hv, hrest⟩ := List.forall_mem_cons.mp h
      rw [flattenItems, PropertyMap.find?_merge (isFlat_flattenItems _ _ _).nodup,
        ih hrest fun index hindex => hne index (by omega), flatten_of_isLeaf hv,
        PropertyMap.find?_cons, if_neg (hne start le_rfl)]
      rfl

theorem find?_flattenItems (key : Text) (start index : Nat) {items : List Value}
    (h : ∀ v ∈ items, v.isLeaf = true) :
    (flattenItems key start items).find? (itemKey key (start + index)) = items[index]? := by
  induction items generalizing start index with
  | nil => rfl
  | cons v rest ih =>
      obtain ⟨hv, hrest⟩ := List.forall_mem_cons.mp h
      rw [flattenItems, PropertyMap.find?_merge (isFlat_flattenItems _ _ _).nodup,
        flatten_of_isLeaf hv, PropertyMap.find?_cons]
      cases index with
      | zero =>
          have hlater : ∀ index, start + 1 ≤ index → itemKey key index ≠ itemKey key start :=
            fun index hindex heq => by
              have := itemKey_injective heq
              omega
          rw [Nat.add_zero, find?_flattenItems_of_ne hrest hlater, if_pos rfl]
          rfl
      | succ index =>
          have hne : itemKey key start ≠ itemKey key (start + (index + 1)) := fun heq => by
            have := itemKey_injective heq
            omega
          rw [if_neg hne, show start + (index + 1) = start + 1 + index by omega,
            ih (start + 1) index hrest]
          simp [PropertyMap.find?]

/-- The entries of a map, to be flattened again. -/
def PropertyMap.entries (m : PropertyMap) : List (Value × Value) :=
  m.map fun (k, v) => (.text k, v)

theorem flatten_entries (m : PropertyMap) :
    flatten [] (.map m.entries) = flattenEntries [] m.entries := by
  cases m <;> rfl

/-- Flattening a flat map again changes nothing. -/
theorem flattenEntries_entries {m : PropertyMap} (h : m.IsFlat) : flattenEntries [] m.entries = m := by
  induction m with
  | nil => rfl
  | cons kv rest ih =>
      obtain ⟨k, v⟩ := kv
      obtain ⟨hk, hnodup⟩ := List.nodup_cons.mp h.nodup
      obtain ⟨hv, hleaves⟩ := List.forall_mem_cons.mp h.leaves
      have hfirst : flatten (childKey [] (Value.text k).toText) v = [(k, v)] :=
        flatten_of_isLeaf hv k
      show flattenEntries [] ((.text k, v) :: PropertyMap.entries rest) = _
      rw [flattenEntries, ih ⟨hnodup, hleaves⟩, hfirst, PropertyMap.merge_of_disjoint hnodup]
      · rfl
      · intro l hl hmem
        obtain rfl : l = k := List.mem_singleton.mp hmem
        exact hk hl

theorem find?_flattenEntries_of_isFlat {m : PropertyMap} (h : m.IsFlat) (other : Text) :
    (flattenEntries [] m.entries).find? other = m.find? other := by
  rw [flattenEntries_entries h]

theorem PropertyMap.IsFlat.sublist {m part : PropertyMap} (h : m.IsFlat) (hpart : part.Sublist m) :
    part.IsFlat where
  nodup := (hpart.map _).nodup h.nodup
  leaves kv hkv := h.leaves kv (hpart.subset hkv)

/-- A flat map in which one key is bound to a list, flattened again: what stood behind the key
counts before the items, and they count before what stands in front. -/
theorem find?_flatten_bind {m : PropertyMap} (h : m.IsFlat) (key other : Text) {items : List Value}
    (hitems : items ≠ []) :
    (flattenEntries [] (m.bind key (.list items)).entries).find? other =
      ((m.after key).find? other).or
        (((flattenItems key 0 items).find? other).or ((m.before key).find? other)) := by
  have hlist : flatten (childKey [] (Value.text key).toText) (.list items) =
      flattenItems key 0 items := by
    obtain ⟨v, rest, rfl⟩ := List.exists_cons_of_ne_nil hitems
    rfl
  rw [PropertyMap.bind_eq, PropertyMap.entries, List.map_append, List.map_cons,
    find?_flattenEntries_append, flattenEntries,
    PropertyMap.find?_merge (isFlat_flattenEntries _ _).nodup, hlist,
    ← PropertyMap.entries, ← PropertyMap.entries,
    find?_flattenEntries_of_isFlat (h.sublist (PropertyMap.after_sublist key m)),
    find?_flattenEntries_of_isFlat (h.sublist (PropertyMap.before_sublist key m)), Option.or_assoc]

/-! ## Runs of items -/

/-- What a function gives from an index on, as far as it gives something, for a number of steps. -/
def runFrom {α : Type} (f : Nat → Option α) (start count : Nat) : List α :=
  (((List.range' start count).map f).takeWhile Option.isSome).filterMap id

namespace PropertyMap

/-- The values at `key[start]`, `key[start + 1]`, … -/
def indexedFrom (m : PropertyMap) (key : Text) (start : Nat) : List Value :=
  runFrom (fun index => m.find? (itemKey key index)) start m.length

end PropertyMap

section Runs

variable {α : Type} {f g : Nat → Option α} {start count : Nat}

theorem runFrom_succ (f : Nat → Option α) (start count : Nat) :
    runFrom f start (count + 1) = (f start).elim [] (· :: runFrom f (start + 1) count) := by
  rw [runFrom, List.range'_succ, List.map_cons]
  cases h : f start with
  | none => simp
  | some a => simp [runFrom]

theorem runFrom_congr (h : ∀ index, start ≤ index → f index = g index) :
    runFrom f start count = runFrom g start count := by
  have hmap : (List.range' start count).map f = (List.range' start count).map g :=
    List.map_congr_left fun index hindex => h index (List.mem_range'_1.mp hindex).1
  rw [runFrom, hmap, runFrom]

/-- Beyond a gap there is nothing to look for. -/
theorem runFrom_add_of_none (h : ∃ gap ≤ count, f (start + gap) = none) (more : Nat) :
    runFrom f start (count + more) = runFrom f start count := by
  induction count generalizing start with
  | zero =>
      obtain ⟨gap, hgap, hnone⟩ := h
      obtain rfl : gap = 0 := by omega
      cases more with
      | zero => rfl
      | succ more =>
          rw [Nat.zero_add, runFrom_succ, show f start = none from hnone]
          rfl
  | succ count ih =>
      obtain ⟨gap, hgap, hnone⟩ := h
      rw [show count + 1 + more = count + more + 1 by omega, runFrom_succ, runFrom_succ]
      cases hstart : f start with
      | none => rfl
      | some a =>
          cases gap with
          | zero =>
              rw [Nat.add_zero, hstart] at hnone
              cases hnone
          | succ gap =>
              have hlater : f (start + 1 + gap) = none := by
                rw [← hnone]
                congr 1
                omega
              rw [ih ⟨gap, by omega, hlater⟩]

/-- A run starts with what is known to be there. -/
theorem runFrom_append {xs : List α} (h : ∀ index (hindex : index < xs.length),
    f (start + index) = some xs[index]) (count : Nat) :
    runFrom f start (xs.length + count) = xs ++ runFrom f (start + xs.length) count := by
  induction xs generalizing start with
  | nil => simp
  | cons x rest ih =>
      have hx : f start = some x := h 0 (by simp)
      have hrest : ∀ index (hindex : index < rest.length), f (start + 1 + index) = some rest[index] := by
        intro index hindex
        have := h (index + 1) (by simpa using hindex)
        rwa [show start + (index + 1) = start + 1 + index by omega] at this
      rw [List.length_cons, show rest.length + 1 + count = rest.length + count + 1 by omega,
        runFrom_succ, hx, Option.elim_some, ih hrest, show start + (rest.length + 1) =
        start + 1 + rest.length by omega]
      rfl

end Runs

/-- A map has no room for the items at all indices below its length and one more. -/
theorem PropertyMap.exists_find?_itemKey_eq_none (m : PropertyMap) (key : Text) (start : Nat) :
    ∃ gap ≤ m.length, m.find? (itemKey key (start + gap)) = none := by
  by_contra hnone
  simp only [not_exists, not_and] at hnone
  have hkeys : (List.range (m.length + 1)).map (fun gap => itemKey key (start + gap)) ⊆ m.keys := by
    intro k hk
    obtain ⟨gap, hgap, rfl⟩ := List.mem_map.mp hk
    by_contra hmem
    exact hnone gap (by simpa [Nat.lt_succ_iff] using hgap) (find?_eq_none_iff.mpr hmem)
  have hnodup : ((List.range (m.length + 1)).map fun gap => itemKey key (start + gap)).Nodup :=
    List.nodup_range.map fun a b hab => by
      have := itemKey_injective hab
      omega
  have hlength := hnodup.length_le_of_subset hkeys
  simp only [List.length_map, List.length_range, keys] at hlength
  omega

namespace Binder

variable {b : Binder} {key : Text}

theorem indexed_eq (b : Binder) (key : Text) : b.indexed key = b.properties.indexedFrom key 0 := by
  rw [indexed, List.range_eq_range']
  rfl

/-- What a binder gathers if the values of the first indices are known, and all others are those of a
given map. -/
theorem indexed_eq_append {items : List Value} {m : PropertyMap}
    (hitems : ∀ index (h : index < items.length),
      b.properties.find? (itemKey key index) = some items[index])
    (hlater : ∀ index, items.length ≤ index →
      b.properties.find? (itemKey key index) = m.find? (itemKey key index)) :
    b.indexed key = items ++ m.indexedFrom key items.length := by
  let bound := fun index => b.properties.find? (itemKey key index)
  have hindexed : b.indexed key = runFrom bound 0 b.properties.length := indexed_eq b key
  have hbound : ∀ index (h : index < items.length), bound (0 + index) = some items[index] := by
    simpa only [Nat.zero_add] using hitems
  have hm : ∀ index, 0 + items.length ≤ index → bound index = m.find? (itemKey key index) := by
    simpa only [Nat.zero_add] using hlater
  -- both runs have met a gap, so they may go on until each covers the other
  rw [hindexed,
    ← runFrom_add_of_none (PropertyMap.exists_find?_itemKey_eq_none _ key 0)
      (items.length + m.length),
    show b.properties.length + (items.length + m.length) =
      items.length + (m.length + b.properties.length) by omega,
    runFrom_append hbound, runFrom_congr hm,
    runFrom_add_of_none (PropertyMap.exists_find?_itemKey_eq_none _ key _), Nat.zero_add]
  rfl

end Binder

end ConfigLocator

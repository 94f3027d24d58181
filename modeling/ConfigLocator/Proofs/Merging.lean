import Mathlib.Data.List.Induction
import Mathlib.Data.List.Nodup
import ConfigLocator.PropertyMap

/-!
# Merged maps

A map that is merged over another one is bound key by key, so merging a map that was merged itself
comes to binding everything in one go (`PropertyMap.merge_merge`). What a sequence of bindings comes
to does not depend on how it was cut into maps: each key stands where it came first, with the value
that came last (`PropertyMap.ComesFrom`).
-/

namespace ConfigLocator

namespace PropertyMap

variable {key other : Text} {value : Value} {m base later : PropertyMap}

/-! ## Bindings -/

theorem find?_cons (k : Text) (v : Value) (rest : PropertyMap) :
    find? key ((k, v) :: rest) = if k = key then some v else rest.find? key := by
  by_cases h : k = key
  · simp [find?, h]
  · have hne : (key == k) = false := by simpa using fun h' : key = k => h h'.symm
    simp [find?, List.lookup_cons, hne, h]

theorem find?_eq_none_iff : m.find? key = none ↔ key ∉ m.keys := by
  induction m with
  | nil => simp [find?, keys]
  | cons kv rest ih =>
      obtain ⟨k, v⟩ := kv
      rw [find?_cons]
      by_cases h : k = key
      · simp [h, keys]
      · rw [if_neg h, ih]
        simp [keys, Ne.symm h]

theorem find?_append : find? key (base ++ later) = (base.find? key).or (later.find? key) := by
  induction base with
  | nil => simp [find?]
  | cons kv rest ih =>
      obtain ⟨k, v⟩ := kv
      rw [List.cons_append, find?_cons, find?_cons, ih]
      split <;> rfl

theorem find?_map {α : Type} (f : α → Value) (key : Text) (entries : List (Text × α)) :
    find? key (entries.map fun (k, a) => (k, f a)) = (entries.lookup key).map f := by
  induction entries with
  | nil => rfl
  | cons entry rest ih =>
      obtain ⟨k, a⟩ := entry
      rw [List.map_cons, find?, List.lookup_cons, List.lookup_cons]
      split
      · rfl
      · exact ih

theorem keys_append (base later : PropertyMap) : keys (base ++ later) = base.keys ++ later.keys :=
  List.map_append

theorem find?_eq_head? (key : Text) (m : PropertyMap) :
    m.find? key = (m.filter (·.1 = key)).head?.map (·.2) := by
  induction m with
  | nil => rfl
  | cons kv rest ih =>
      obtain ⟨k, v⟩ := kv
      rw [find?_cons, List.filter_cons]
      split
      · simp [*]
      · simp [*]

/-- From behind, a key is found where it is bound last. -/
theorem find?_reverse (key : Text) (m : PropertyMap) :
    find? key m.reverse = (m.filter (·.1 = key)).getLast?.map (·.2) := by
  rw [find?_eq_head?, List.filter_reverse, List.head?_reverse]

theorem bind_of_not_mem (h : key ∉ m.keys) (value : Value) :
    m.bind key value = m ++ [(key, value)] := by
  induction m with
  | nil => rfl
  | cons kv rest ih =>
      obtain ⟨k, v⟩ := kv
      have hne : k ≠ key := fun heq => h (heq ▸ List.mem_cons_self ..)
      rw [bind, if_neg hne]
      exact congrArg ((k, v) :: ·) (ih fun hrest => h (List.mem_cons_of_mem k hrest))

theorem keys_bind_of_not_mem (h : key ∉ m.keys) : (m.bind key value).keys = m.keys ++ [key] := by
  rw [bind_of_not_mem h, keys_append]
  rfl

theorem keys_bind_of_mem (h : key ∈ m.keys) : (m.bind key value).keys = m.keys := by
  induction m with
  | nil => simp [PropertyMap.keys] at h
  | cons kv rest ih =>
      obtain ⟨k, v⟩ := kv
      rw [bind]
      split
      · rfl
      · next hne =>
        rcases List.mem_cons.mp h with heq | hrest
        · exact absurd heq.symm hne
        · exact congrArg (k :: ·) (ih hrest)

theorem nodup_keys_bind (h : m.keys.Nodup) : (m.bind key value).keys.Nodup := by
  by_cases hkey : key ∈ m.keys
  · rwa [keys_bind_of_mem hkey]
  · rw [keys_bind_of_not_mem hkey, List.nodup_append]
    refine ⟨h, List.nodup_singleton key, fun k hk l hl heq => hkey ?_⟩
    obtain rfl := List.mem_singleton.mp hl
    exact heq ▸ hk

theorem nodup_keys_merge (h : base.keys.Nodup) : (base.merge later).keys.Nodup := by
  induction later generalizing base with
  | nil => exact h
  | cons kv rest ih => exact ih (nodup_keys_bind h)

/-- The keys that are bound already keep their places, and the new ones follow in their order. -/
theorem keys_merge (h : later.keys.Nodup) :
    (base.merge later).keys = base.keys ++ later.keys.filter (· ∉ base.keys) := by
  induction later generalizing base with
  | nil => exact (List.append_nil base.keys).symm
  | cons binding rest ih =>
      obtain ⟨k, v⟩ := binding
      obtain ⟨hk, hrest⟩ := List.nodup_cons.mp h
      have hstep : (base.merge ((k, v) :: rest)).keys =
          (base.bind k v).keys ++ (keys rest).filter (· ∉ (base.bind k v).keys) := ih hrest
      have hothers : (keys rest).filter (· ∉ (base.bind k v).keys) =
          (keys rest).filter (· ∉ base.keys) := by
        refine List.filter_congr fun other hother => ?_
        have hne : other ≠ k := fun heq => hk (heq ▸ hother)
        simp [mem_keys_bind, hne]
      rw [hstep, hothers, show keys ((k, v) :: rest) = k :: keys rest from rfl, List.filter_cons]
      by_cases hmem : k ∈ base.keys
      · rw [keys_bind_of_mem hmem, if_neg (by simpa using hmem)]
      · rw [keys_bind_of_not_mem hmem, if_pos (by simpa using hmem), List.append_assoc]
        rfl

/-- What a key is bound to after a merge is up to the later map first. -/
theorem find?_merge (h : later.keys.Nodup) :
    (base.merge later).find? key = (later.find? key).or (base.find? key) := by
  induction later generalizing base with
  | nil => simp [merge, find?]
  | cons kv rest ih =>
      obtain ⟨k, v⟩ := kv
      obtain ⟨hk, hrest⟩ := List.nodup_cons.mp h
      show (merge (base.bind k v) rest).find? key = _
      rw [ih hrest, find?_cons]
      by_cases heq : k = key
      · subst heq
        rw [find?_eq_none_iff.mpr hk, if_pos rfl, find?_bind_self]
        rfl
      · rw [if_neg heq, find?_bind_of_ne (Ne.symm heq)]

/-- Keys that are new stand behind the others. -/
theorem merge_of_disjoint (hlater : later.keys.Nodup) (h : ∀ k ∈ later.keys, k ∉ base.keys) :
    base.merge later = base ++ later := by
  induction later generalizing base with
  | nil => exact (List.append_nil base).symm
  | cons kv rest ih =>
      obtain ⟨k, v⟩ := kv
      obtain ⟨hk, hrest⟩ := List.nodup_cons.mp hlater
      obtain ⟨hnew, hothers⟩ := List.forall_mem_cons.mp h
      show (base.bind k v).merge rest = _
      rw [bind_of_not_mem hnew, ih hrest, List.append_assoc]
      · rfl
      · intro l hl
        rw [keys_append, List.mem_append, not_or]
        refine ⟨hothers l hl, fun hmem => hk ?_⟩
        obtain rfl : l = k := List.mem_singleton.mp hmem
        exact hl

/-! ## The order of merges -/

theorem bind_bind (key : Text) (first value : Value) (m : PropertyMap) :
    (m.bind key first).bind key value = m.bind key value := by
  induction m with
  | nil => simp [bind]
  | cons kv rest ih =>
      obtain ⟨k, v⟩ := kv
      by_cases h : k = key
      · simp [bind, h]
      · simpa [bind, h] using ih

/-- A key that has its place can be bound before another one. -/
theorem bind_comm (h : key ∈ m.keys) (hne : other ≠ key) (value x : Value) :
    (m.bind other x).bind key value = (m.bind key value).bind other x := by
  induction m with
  | nil => cases h
  | cons kv rest ih =>
      obtain ⟨k, v⟩ := kv
      by_cases hk : k = key
      · simp [bind, hk, Ne.symm hne]
      · have hrest : key ∈ keys rest := (List.mem_cons.mp h).resolve_left (Ne.symm hk)
        by_cases hother : k = other
        · simp [bind, hother, hne]
        · simpa [bind, hk, hother] using ih hrest

theorem bind_merge_of_not_mem (hlater : key ∉ later.keys) (h : key ∈ m.keys) (value : Value) :
    (m.merge later).bind key value = (m.bind key value).merge later := by
  induction later generalizing m with
  | nil => rfl
  | cons kv rest ih =>
      obtain ⟨k, v⟩ := kv
      obtain ⟨hne, hrest⟩ := not_or.mp (mt List.mem_cons.mpr hlater)
      show ((m.bind k v).merge rest).bind key value = ((m.bind key value).bind k v).merge rest
      rw [ih hrest (mem_keys_bind.mpr (Or.inr h)), bind_comm h (Ne.symm hne)]

/-- Binding a key in the later map is binding it behind the merge. -/
theorem merge_bind (hlater : later.keys.Nodup) (key : Text) (value : Value) :
    base.merge (later.bind key value) = (base.merge later).bind key value := by
  induction later generalizing base with
  | nil => rfl
  | cons kv rest ih =>
      obtain ⟨k, v⟩ := kv
      obtain ⟨hk, hrest⟩ := List.nodup_cons.mp hlater
      rw [bind]
      split
      · rename_i heq
        subst heq
        have hmem : k ∈ (base.bind k v).keys := mem_keys_bind.mpr (Or.inl rfl)
        show (base.bind k value).merge rest = ((base.bind k v).merge rest).bind k value
        rw [bind_merge_of_not_mem hk hmem, bind_bind]
      · exact ih hrest

theorem merge_merge (h : m.keys.Nodup) : base.merge (m.merge later) = (base.merge m).merge later := by
  induction later generalizing m with
  | nil => rfl
  | cons kv rest ih =>
      obtain ⟨k, v⟩ := kv
      show base.merge ((m.bind k v).merge rest) = ((base.merge m).bind k v).merge rest
      rw [ih (nodup_keys_bind h), merge_bind h]

/-! ## What a sequence of bindings comes to -/

/-- The map of these bindings: each key where it comes first, with its last value. -/
structure ComesFrom (bindings m : PropertyMap) : Prop where
  keys_eq : m.keys = bindings.keys.eraseDups
  find?_eq : ∀ key, m.find? key = find? key bindings.reverse

theorem ComesFrom.bind {bindings : PropertyMap} (h : ComesFrom bindings m) (key : Text)
    (value : Value) : ComesFrom (bindings ++ [(key, value)]) (m.bind key value) where
  keys_eq := by
    have hmem : key ∈ m.keys ↔ key ∈ bindings.keys := by rw [h.keys_eq, List.mem_eraseDups]
    rw [keys_append, show keys [(key, value)] = [key] from rfl, List.eraseDups_append, ← h.keys_eq]
    by_cases hseen : key ∈ bindings.keys
    · have hnone : [key].removeAll bindings.keys = [] := by simpa [List.removeAll] using hseen
      rw [keys_bind_of_mem (hmem.mpr hseen), hnone, List.eraseDups_nil, List.append_nil]
    · have hone : [key].removeAll bindings.keys = [key] := by simpa [List.removeAll] using hseen
      rw [keys_bind_of_not_mem (mt hmem.mp hseen), hone]
      rfl
  find?_eq other := by
    rw [List.reverse_append, List.reverse_singleton, List.singleton_append, find?_cons]
    by_cases hother : key = other
    · rw [hother, find?_bind_self, if_pos rfl]
    · rw [find?_bind_of_ne (Ne.symm hother), if_neg hother, h.find?_eq]

theorem comesFrom_merge (bindings : PropertyMap) : ComesFrom bindings (merge [] bindings) := by
  induction bindings using List.reverseRecOn with
  | nil => exact ⟨rfl, fun _ => rfl⟩
  | append_singleton bindings binding ih =>
      rw [merge, List.foldl_append]
      exact ih.bind binding.1 binding.2

end PropertyMap

end ConfigLocator

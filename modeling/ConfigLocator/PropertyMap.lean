import ConfigLocator.Value

/-!
# Property maps

A property map binds flat keys to values, in the order in which the keys were first bound.
`flatten` turns a nested value into one: keys of nested maps are joined with `.`, and items of a
sequence are numbered `[0]`, `[1]`, …
-/

namespace ConfigLocator

abbrev PropertyMap := List (Text × Value)

namespace PropertyMap

/-- A key that is bound keeps its place and takes the new value. -/
def bind (key : Text) (value : Value) : PropertyMap → PropertyMap
  | [] => [(key, value)]
  | (k, v) :: rest => if k = key then (k, value) :: rest else (k, v) :: bind key value rest

/-- Binds everything in the second map over the first. -/
def merge (base later : PropertyMap) : PropertyMap :=
  later.foldl (fun bound (k, v) => bind k v bound) base

def find? (key : Text) (m : PropertyMap) : Option Value := m.lookup key

def keys (m : PropertyMap) : List Text := m.map (·.1)

/-! ## Bindings after an operation -/

theorem find?_bind_self (key : Text) (value : Value) (m : PropertyMap) :
    (m.bind key value).find? key = some value := by
  induction m with
  | nil => simp [bind, find?]
  | cons kv rest ih =>
    obtain ⟨k, v⟩ := kv
    unfold bind
    split
    · next h => simp [find?, h]
    · next h =>
      have hk : (key == k) = false := by simpa using fun h' : key = k => h h'.symm
      simp only [find?, List.lookup_cons, hk] at ih ⊢
      exact ih

theorem find?_bind_of_ne {key other : Text} (h : other ≠ key) (value : Value) (m : PropertyMap) :
    (m.bind key value).find? other = m.find? other := by
  induction m with
  | nil =>
    have hk : (other == key) = false := by simpa using h
    simp [bind, find?, List.lookup_cons, hk]
  | cons kv rest ih =>
    obtain ⟨k, v⟩ := kv
    unfold bind
    split
    · next hkk =>
      subst hkk
      have hk : (other == k) = false := by simpa using h
      simp [find?, List.lookup_cons, hk]
    · simp only [find?, List.lookup_cons] at ih ⊢
      split
      · rfl
      · exact ih

theorem mem_keys_bind {key other : Text} {value : Value} {m : PropertyMap} :
    other ∈ (m.bind key value).keys ↔ other = key ∨ other ∈ m.keys := by
  induction m with
  | nil => simp [bind, keys]
  | cons kv rest ih =>
    obtain ⟨k, v⟩ := kv
    unfold bind
    split
    · next h => subst h; simp [keys]
    · simp only [keys, List.map_cons, List.mem_cons] at ih ⊢
      rw [ih]
      grind

end PropertyMap

/-! ## Flattening -/

/-- The key of a part of a map. -/
def childKey (key part : Text) : Text := if key = [] then part else key ++ "." ++ part

/-- The key of an item of a sequence. -/
def itemKey (key : Text) (index : Nat) : Text := key ++ "[" ++ Text.ofNat index ++ "]"

/-- An empty map or sequence is bound to an empty text, unless its key is empty. -/
def emptyAt (key : Text) : PropertyMap := if key = [] then [] else [(key, .text [])]

mutual

def flatten (key : Text) : Value → PropertyMap
  | .map [] | .list [] | .tuple [] => emptyAt key
  | .map entries => flattenEntries key entries
  | .list items | .tuple items => flattenItems key 0 items
  | value => [(key, value)]

def flattenEntries (key : Text) : List (Value × Value) → PropertyMap
  | [] => []
  | (k, v) :: rest => PropertyMap.merge (flatten (childKey key k.toText) v) (flattenEntries key rest)

def flattenItems (key : Text) (index : Nat) : List Value → PropertyMap
  | [] => []
  | v :: rest => PropertyMap.merge (flatten (itemKey key index) v) (flattenItems key (index + 1) rest)

end

end ConfigLocator

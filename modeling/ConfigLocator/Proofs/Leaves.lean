import ConfigLocator.Proofs.FileNames
import ConfigLocator.Proofs.Parts

/-!
# Leaves of a value

Flattening binds the leaves of a value: everything that has no parts, under the key that its path is
rendered to (`Value.leaves`). The maps that it makes on the way and merges level by level leave no
trace (`flatten_eq_merge`): each key stands where the first leaf with that key stands, and has the
value of the last one. Since the result is flat, flattening it again gives it back
(`flatten_keeps_leaves`), and a binder of a file holds what its documents come to
(`Binder.properties_ofFile`).
-/

namespace ConfigLocator

namespace Value

/-! ## Ends and their paths -/

/-- One step down into a value: to what a map has under a key, or to an item of a sequence. -/
inductive Step where
  | member (part : Value)
  | item (index : Nat)

/-- The key of what a step leads to. -/
def Step.below (key : Text) : Step → Text
  | member part => childKey key part.toText
  | item index => itemKey key index

/-- The key that a path is rendered to, from the key where it starts. -/
def renderedKey (key : Text) (path : List Step) : Text := path.foldl Step.below key

mutual

/-- Everything without parts, in depth-first order, with the path that leads to it. -/
def ends : Value → List (List Step × Value)
  | map (entry :: entries) => entryEnds (entry :: entries)
  | list (item :: items) | tuple (item :: items) => itemEnds 0 (item :: items)
  | v => [([], v)]

def entryEnds : List (Value × Value) → List (List Step × Value)
  | [] => []
  | (k, v) :: rest => (ends v).map (fun (path, x) => (.member k :: path, x)) ++ entryEnds rest

def itemEnds (index : Nat) : List Value → List (List Step × Value)
  | [] => []
  | v :: rest =>
    (ends v).map (fun (path, x) => (.item index :: path, x)) ++ itemEnds (index + 1) rest

end

/-- The leaf that an end is: itself, or an empty text for an empty collection, which is no leaf if its
key is empty. -/
def leafAt (key : Text) (v : Value) : Option (Text × Value) :=
  if v.isLeaf then some (key, v) else if key = [] then none else some (key, .text [])

/-- The leaves of a value under a key, in depth-first order, each with its rendered key. -/
def leaves (key : Text) (v : Value) : PropertyMap :=
  (ends v).filterMap fun reached => leafAt (renderedKey key reached.1) reached.2

theorem ends_of_isEnd {v : Value} (h : v.isEnd = true) : ends v = [([], v)] := by
  cases v with
  | map members | list members | tuple members =>
      obtain rfl := List.isEmpty_iff.mp h
      rw [ends] <;> simp
  | _ => rfl

theorem leaves_of_isEnd {v : Value} (h : v.isEnd = true) (key : Text) :
    leaves key v = (leafAt key v).toList := by
  have hself : leafAt (renderedKey key []) v = leafAt key v := rfl
  rw [leaves, ends_of_isEnd h, List.filterMap_cons, List.filterMap_nil, hself]
  cases leafAt key v <;> rfl

/-- The ends behind a step have their keys below the key of the step. -/
theorem leaves_below (key : Text) (step : Step) (v : Value) :
    ((ends v).map fun (path, x) => (step :: path, x)).filterMap
      (fun reached => leafAt (renderedKey key reached.1) reached.2) = leaves (step.below key) v :=
  List.filterMap_map

theorem leaves_entryEnds (key : Text) (entries : List (Value × Value)) :
    (entryEnds entries).filterMap (fun reached => leafAt (renderedKey key reached.1) reached.2) =
      (parts key (map entries)).flatMap fun (k, x) => leaves k x := by
  induction entries with
  | nil => rfl
  | cons entry rest ih =>
      obtain ⟨k, v⟩ := entry
      rw [entryEnds, List.filterMap_append, leaves_below, ih]
      rfl

theorem leaves_itemEnds (key : Text) (start : Nat) (items : List Value) :
    (itemEnds start items).filterMap (fun reached => leafAt (renderedKey key reached.1) reached.2) =
      (items.mapIdx fun index v => (itemKey key (start + index), v)).flatMap
        fun (k, x) => leaves k x := by
  induction items generalizing start with
  | nil => rfl
  | cons v rest ih =>
      rw [itemEnds, List.filterMap_append, leaves_below, ih]
      simp only [List.mapIdx_cons, List.flatMap_cons, Nat.add_zero, Nat.add_assoc, Nat.add_comm 1]
      rfl

theorem leaves_itemEnds_zero (key : Text) (items : List Value) :
    (itemEnds 0 items).filterMap (fun reached => leafAt (renderedKey key reached.1) reached.2) =
      (items.mapIdx fun index v => (itemKey key index, v)).flatMap fun (k, x) => leaves k x := by
  simpa only [Nat.zero_add] using leaves_itemEnds key 0 items

/-- The leaves of a value are those of its parts, one part after the other. -/
theorem leaves_of_not_isEnd {v : Value} (h : v.isEnd = false) (key : Text) :
    leaves key v = (parts key v).flatMap fun (k, x) => leaves k x := by
  cases v with
  | map entries =>
      obtain ⟨entry, rest, rfl⟩ := List.exists_cons_of_ne_nil (List.isEmpty_eq_false_iff.mp h)
      exact leaves_entryEnds key (entry :: rest)
  | list items | tuple items =>
      obtain ⟨v, rest, rfl⟩ := List.exists_cons_of_ne_nil (List.isEmpty_eq_false_iff.mp h)
      exact leaves_itemEnds_zero key (v :: rest)
  | _ => cases h

end Value

/-! ## What flattening binds -/

theorem PropertyMap.merge_append (base bindings more : PropertyMap) :
    base.merge (bindings ++ more) = (base.merge bindings).merge more :=
  List.foldl_append

/-- Merging what was merged from nothing is merging its bindings. -/
theorem PropertyMap.merge_merge_nil (base bindings : PropertyMap) :
    base.merge (merge [] bindings) = base.merge bindings :=
  merge_merge List.nodup_nil

theorem flattenParts_eq_merge {parts : List (Text × Value)}
    (h : ∀ k x, (k, x) ∈ parts → flatten k x = PropertyMap.merge [] (x.leaves k)) :
    flattenParts parts = PropertyMap.merge [] (parts.flatMap fun (k, x) => x.leaves k) := by
  induction parts with
  | nil => rfl
  | cons part rest ih =>
      obtain ⟨key, v⟩ := part
      rw [flattenParts, h key v List.mem_cons_self,
        ih fun k x hx => h k x (List.mem_cons_of_mem _ hx), PropertyMap.merge_merge_nil,
        List.flatMap_cons, PropertyMap.merge_append]

theorem flatten_of_isEnd_eq {v : Value} (hend : v.isEnd = true) (key : Text) :
    flatten key v = (v.leafAt key).toList := by
  cases hleaf : v.isLeaf with
  | true =>
      rw [flatten_of_isLeaf hleaf, Value.leafAt, if_pos hleaf]
      rfl
  | false =>
      rw [flatten_of_isEnd hend hleaf, Value.leafAt, if_neg (by simp [hleaf]), emptyAt]
      split <;> rfl

/-- Flattening binds the leaves one after the other. -/
theorem flatten_eq_merge (key : Text) (v : Value) :
    flatten key v = PropertyMap.merge [] (v.leaves key) := by
  induction key, v using Value.induction_on_parts with
  | step key v ih =>
      cases hend : v.isEnd with
      | true =>
          rw [flatten_of_isEnd_eq hend, Value.leaves_of_isEnd hend]
          cases v.leafAt key <;> rfl
      | false =>
          rw [flatten_of_not_isEnd hend, Value.leaves_of_not_isEnd hend, flattenParts_eq_merge ih]

/-- A flat map is flattened to itself. -/
theorem flatten_of_isFlat {m : PropertyMap} (h : m.IsFlat) : flatten [] (.map m.entries) = m := by
  rw [flatten_entries, flattenEntries_entries h]

/-- Flattening keeps exactly the leaves: their keys, each where it comes first, and under each key the
last leaf that has it. No value of the result has parts, and so it is flattened to itself. -/
theorem flatten_keeps_leaves (key : Text) (v : Value) :
    (flatten key v).keys = (v.leaves key).keys.eraseDups
      ∧ (∀ other, (flatten key v).find? other =
          ((v.leaves key).filter (·.1 = other)).getLast?.map (·.2))
      ∧ (∀ kv ∈ flatten key v, kv.2.isLeaf = true)
      ∧ flatten [] (.map (flatten key v).entries) = flatten key v := by
  have hcomes := PropertyMap.comesFrom_merge (v.leaves key)
  rw [← flatten_eq_merge] at hcomes
  refine ⟨hcomes.keys_eq, fun other => ?_, (isFlat_flatten key v).leaves,
    flatten_of_isFlat (isFlat_flatten key v)⟩
  rw [hcomes.find?_eq, PropertyMap.find?_reverse]

/-- Colliding keys: the later leaf counts, in the place of the earlier one. -/
example : flatten [] (.map [(.text "a", .list [.int 1, .int 2]), (.text "", .list []),
    (.text "a[0]", .null)]) =
      [(("a[0]" : Text), .null), (("a[1]" : Text), .int 2)] := rfl

/-! ## Settings of a file -/

/-- The settings that a binder reads from a file are those of its sources, later ones over earlier
ones, if the sources are flat: flattening them once more changes nothing. -/
theorem Binder.properties_ofFile {host : Host} {path : Text} {loaders : List Loader}
    {environment : Option (List (Text × Text))} {b : Binder}
    (h : ofFile host path loaders environment = .ok b) :
    ∃ loader ∈ loaders, ∃ sources, loader.load host path (.file path) = .ok sources
      ∧ ((mergeSources sources).IsFlat → b.properties = mergeSources sources) := by
  obtain ⟨found, hfound, h⟩ := bind_eq_ok_iff.mp h
  rcases found with _ | ⟨loader, extension⟩
  · cases h
  · obtain ⟨isThere, -, h⟩ := bind_eq_ok_iff.mp h
    cases isThere with
    | false => cases h
    | true =>
        obtain ⟨sources, hsources, h⟩ := bind_eq_ok_iff.mp h
        obtain rfl := pure_eq_ok_iff.mp h
        obtain ⟨-, hloader, -⟩ := Loader.mem_of_findExtension? hfound
        exact ⟨loader, hloader, sources, hsources, flatten_of_isFlat⟩

end ConfigLocator

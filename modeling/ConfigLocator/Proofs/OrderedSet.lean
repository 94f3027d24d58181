import Mathlib.Data.List.Basic
import ConfigLocator.OrderedSet

/-!
# First occurrences

An ordered set keeps the first of the items that are the same (`OrderedSet.items_ofList`). This
module says what that does to a list: nothing is invented (`mem_of_mem_firstOccurrences`), a list
without repeats stays (`firstOccurrences_eq_self`), items that were there before go
(`firstOccurrences_eq_nil`), and what is kept behind a map is the map of what is kept, as long as
the map tells the same items apart (`firstOccurrences_map`).
-/

namespace ConfigLocator

namespace OrderedSet

universe u v

variable {α : Type u} {β : Type v} {same : α → α → Bool}

/-! ## What is kept -/

theorem mem_of_mem_firstOccurrences {a : α} {items seen : List α}
    (h : a ∈ firstOccurrences same seen items) : a ∈ items := by
  induction items generalizing seen with
  | nil => simp [firstOccurrences] at h
  | cons b rest ih =>
      rw [firstOccurrences] at h
      split at h
      · exact List.mem_cons_of_mem b (ih h)
      · rcases List.mem_cons.mp h with rfl | hrest
        · exact List.mem_cons_self ..
        · exact List.mem_cons_of_mem b (ih hrest)

theorem pairwise_firstOccurrences (items : List α) :
    (firstOccurrences same [] items).Pairwise fun a b => same a b = false := by
  rw [← items_ofList]
  exact (ofList items).distinct

theorem firstOccurrences_append (seen xs ys : List α) :
    firstOccurrences same seen (xs ++ ys) =
      firstOccurrences same seen xs
        ++ firstOccurrences same (seen ++ firstOccurrences same seen xs) ys := by
  induction xs generalizing seen with
  | nil => simp [firstOccurrences]
  | cons x rest ih =>
      simp only [List.cons_append, firstOccurrences]
      split
      · exact ih seen
      · rw [ih, List.cons_append, List.append_assoc, List.cons_append, List.nil_append]

theorem firstOccurrences_eq_nil {seen items : List α}
    (h : ∀ a ∈ items, seen.any (same · a) = true) : firstOccurrences same seen items = [] := by
  induction items with
  | nil => rfl
  | cons a rest ih =>
      rw [firstOccurrences, if_pos (h a (List.mem_cons_self ..))]
      exact ih fun b hb => h b (List.mem_cons_of_mem a hb)

theorem firstOccurrences_eq_self {seen items : List α}
    (hdistinct : items.Pairwise fun a b => same a b = false)
    (hnew : ∀ a ∈ items, seen.any (same · a) = false) :
    firstOccurrences same seen items = items := by
  induction items generalizing seen with
  | nil => rfl
  | cons a rest ih =>
      rw [List.pairwise_cons] at hdistinct
      obtain ⟨ha, hrest⟩ := hdistinct
      have hfirst : seen.any (same · a) = false := hnew a (List.mem_cons_self ..)
      rw [firstOccurrences, if_neg (by simp [hfirst])]
      rw [ih hrest]
      intro b hb
      rw [List.any_append, hnew b (List.mem_cons_of_mem a hb)]
      simp [ha b hb]

theorem firstOccurrences_map {same' : β → β → Bool} {f : α → β}
    (hf : ∀ a b, same' (f a) (f b) = same a b) (seen items : List α) :
    firstOccurrences same' (seen.map f) (items.map f) =
      (firstOccurrences same seen items).map f := by
  induction items generalizing seen with
  | nil => rfl
  | cons a rest ih =>
      have hany : (seen.map f).any (same' · (f a)) = seen.any (same · a) := by
        simp [List.any_map, Function.comp_def, hf]
      have hseen : seen.map f ++ [f a] = (seen ++ [a]).map f := by simp
      simp only [List.map_cons, firstOccurrences, hany, hseen]
      split
      · exact ih seen
      · rw [ih, List.map_cons]

/-! ## Sets -/

/-- What a set knows before items come, or one of the items. -/
theorem contains_insertMany {s : OrderedSet α same}
    (htrans : ∀ a b c, same a b = true → same b c = true → same a c = true)
    (items : List α) (a : α) :
    (s.insertMany items).contains a = (s.contains a || items.any (same · a)) := by
  induction items generalizing s with
  | nil => simp [insertMany]
  | cons b rest ih =>
      have hstep : s.insertMany (b :: rest) = (s.insert b).insertMany rest := rfl
      have hinsert : (s.insert b).contains a = (s.contains a || same b a) := by
        by_cases hb : s.contains b = true
        · obtain ⟨x, hx, hxb⟩ := contains_iff.mp hb
          have hba : same b a = true → s.contains a = true := fun h =>
            contains_iff.mpr ⟨x, hx, htrans x b a hxb h⟩
          rw [contains_eq_any, items_insert_of_contains hb, ← contains_eq_any]
          cases hsame : same b a with
          | true => simp [hba hsame]
          | false => simp
        · have hb' : s.contains b = false := by simpa using hb
          rw [contains_eq_any, items_insert_of_not_contains hb', List.any_append, ← contains_eq_any]
          simp
      rw [hstep, ih, hinsert, List.any_cons, Bool.or_assoc]

/-- Every item has one that is the same among the first occurrences. -/
theorem exists_mem_firstOccurrences (hrefl : ∀ a, same a a = true)
    (htrans : ∀ a b c, same a b = true → same b c = true → same a c = true) {items : List α} {a : α}
    (h : a ∈ items) : ∃ b ∈ firstOccurrences same [] items, same b a = true := by
  have hany : items.any (same · a) = true := List.any_eq_true.mpr ⟨a, h, hrefl a⟩
  have hset : (ofList items : OrderedSet α same).contains a = true := by
    rw [ofList, contains_insertMany htrans, hany, Bool.or_true]
  rw [← items_ofList]
  exact contains_iff.mp hset

theorem contains_of_mem {s : OrderedSet α same} (hrefl : ∀ a, same a a = true) {a : α}
    (h : a ∈ s.items) : s.contains a = true :=
  contains_iff.mpr ⟨a, h, hrefl a⟩

theorem items_reversedPrecedence {items : List α}
    (hsymm : ∀ a ∈ items, ∀ b ∈ items, same a b = same b a) :
    (reversedPrecedence items : OrderedSet α same).items =
      (firstOccurrences same [] items).reverse := by
  rw [reversedPrecedence, items_ofList, items_ofList]
  refine firstOccurrences_eq_self ?_ (fun _ _ => rfl)
  rw [List.pairwise_reverse]
  refine (pairwise_firstOccurrences items).imp_of_mem fun ha hb h => ?_
  rw [hsymm _ (mem_of_mem_firstOccurrences hb) _ (mem_of_mem_firstOccurrences ha), h]

end OrderedSet

end ConfigLocator

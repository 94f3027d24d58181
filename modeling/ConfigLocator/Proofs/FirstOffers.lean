import ConfigLocator.Proofs.OrderedSet
import ConfigLocator.Proofs.ValueEquality

/-!
# What operations leave in a set

Items are offered to an ordered set one by one or many at once (`Operation`), and however they are
offered, the set is the one of all of them in a row (`run_eq_ofList`). What it keeps can be read off
the offers without going through the set: the items at those places before which there is none that
is the same (`firstOffers`). That takes an equality by which items differ in something they have
(`TellsApart`), such as values in their meaning; NaN, which is not the same as itself, would be taken
in each time.

`operations_keep_first_offers` puts together what a set is after any operations (`Keeps`), and what
turning round the order of precedence makes of a list.
-/

namespace ConfigLocator

namespace OrderedSet

universe u v

variable {α : Type u} {ι : Type v} {same : α → α → Bool} {fit : α → Prop} {identity : α → ι}

/-! ## Offers -/

/-- What is done to a set. -/
inductive Operation (α : Type u) where
  | add (a : α)
  | update (items : List α)

def Operation.offers : Operation α → List α
  | add a => [a]
  | update items => items

def Operation.apply (s : OrderedSet α same) : Operation α → OrderedSet α same
  | add a => (s.add a).1
  | update items => s.insertMany items

/-- The set that is built from some items and then goes through operations. -/
def run (init : List α) (ops : List (Operation α)) : OrderedSet α same :=
  ops.foldl Operation.apply (ofList init)

/-- All that is offered on the way, in order. -/
def offered (init : List α) (ops : List (Operation α)) : List α :=
  init ++ ops.flatMap Operation.offers

theorem apply_eq_insertMany (s : OrderedSet α same) (op : Operation α) :
    op.apply s = s.insertMany op.offers := by
  cases op <;> rfl

theorem run_eq_ofList (init : List α) (ops : List (Operation α)) :
    (run init ops : OrderedSet α same) = ofList (offered init ops) := by
  have hfold : ∀ s : OrderedSet α same,
      ops.foldl Operation.apply s = s.insertMany (ops.flatMap Operation.offers) := by
    induction ops with
    | nil => exact fun _ => rfl
    | cons op rest ih =>
        intro s
        rw [List.foldl_cons, ih, apply_eq_insertMany, List.flatMap_cons, insertMany_append]
  rw [run, hfold, ofList, ofList, offered, insertMany_append]

theorem add_eq_true_iff (s : OrderedSet α same) (a : α) :
    (s.add a).2 = true ↔ (s.add a).1.items = s.items ++ [a] := by
  rw [add]
  cases h : s.contains a with
  | true => simp [items_insert_of_contains h]
  | false => simp [items_insert_of_not_contains h]

theorem add_eq_false_iff (s : OrderedSet α same) (a : α) :
    (s.add a).2 = false ↔ (s.add a).1.items = s.items := by
  rw [add]
  cases h : s.contains a with
  | true => simp [items_insert_of_contains h]
  | false => simp [items_insert_of_not_contains h]

/-! ## First places -/

/-- The items at the places before which there is none that is the same. -/
def firstOffers (same : α → α → Bool) (items : List α) : List α :=
  (items.zipIdx.filter fun (a, place) => !(items.take place).any (same · a)).map (·.1)

/-- An equality that tells fit items apart by their identity. -/
def TellsApart (same : α → α → Bool) (fit : α → Prop) (identity : α → ι) : Prop :=
  ∀ a b, fit a → fit b → (same a b = true ↔ identity a = identity b)

theorem TellsApart.comm (h : TellsApart same fit identity) {a b : α} (ha : fit a) (hb : fit b) :
    same a b = same b a := by
  rw [Bool.eq_iff_iff, h a b ha hb, h b a hb ha, eq_comm]

/-- An item that is left out need not be remembered, since the one it is the same as is. -/
theorem TellsApart.any_append_of_any (h : TellsApart same fit identity) {before : List α} {a b : α}
    (hbefore : ∀ x ∈ before, fit x) (ha : fit a) (hb : fit b)
    (hold : before.any (same · a) = true) :
    (before ++ [a]).any (same · b) = before.any (same · b) := by
  obtain ⟨x, hx, hxa⟩ := List.any_eq_true.mp hold
  rw [List.any_append, Bool.eq_iff_iff, Bool.or_eq_true]
  refine ⟨?_, Or.inl⟩
  rintro (hany | hone)
  · exact hany
  · have hab : identity a = identity b := (h a b ha hb).mp (by simpa using hone)
    have hxb : identity x = identity b := ((h x a (hbefore x hx) ha).mp hxa).trans hab
    exact List.any_eq_true.mpr ⟨x, hx, (h x b (hbefore x hx) hb).mpr hxb⟩

/-- `seen` are the items kept of those `before`, by which the places are counted. -/
theorem firstOccurrences_eq_filter (h : TellsApart same fit identity) {before seen items : List α}
    (hbefore : ∀ a ∈ before, fit a) (hitems : ∀ a ∈ items, fit a)
    (hseen : ∀ a, fit a → seen.any (same · a) = before.any (same · a)) :
    firstOccurrences same seen items =
      ((items.zipIdx before.length).filter fun (a, place) =>
        !((before ++ items).take place).any (same · a)).map (·.1) := by
  induction items generalizing before seen with
  | nil => rfl
  | cons a rest ih =>
      obtain ⟨ha, hrest⟩ := List.forall_mem_cons.mp hitems
      have hbefore' : ∀ b ∈ before ++ [a], fit b := by
        simpa [or_imp, forall_and] using And.intro hbefore ha
      have hlength : before.length + 1 = (before ++ [a]).length := by simp
      have happend : before ++ a :: rest = (before ++ [a]) ++ rest := by simp
      rw [firstOccurrences, hseen a ha, List.zipIdx_cons, List.filter_cons]
      simp only [List.take_left]
      rw [hlength, happend]
      -- The item now counts as one before in any case, but as one seen only if it is kept.
      cases hold : before.any (same · a) with
      | true =>
          refine ih hbefore' hrest fun b hb => ?_
          rw [h.any_append_of_any hbefore ha hb hold, hseen b hb]
      | false =>
          rw [if_neg Bool.false_ne_true, Bool.not_false, if_pos rfl, List.map_cons]
          refine congrArg (a :: ·) (ih hbefore' hrest fun b hb => ?_)
          rw [List.any_append, List.any_append, hseen b hb]

theorem firstOccurrences_eq_firstOffers (h : TellsApart same fit identity) {items : List α}
    (hitems : ∀ a ∈ items, fit a) : firstOccurrences same [] items = firstOffers same items :=
  firstOccurrences_eq_filter h (by simp) hitems fun _ _ => rfl

theorem items_reversedPrecedence_eq (h : TellsApart same fit identity) {items : List α}
    (hitems : ∀ a ∈ items, fit a) :
    (reversedPrecedence items : OrderedSet α same).items = (firstOffers same items).reverse := by
  rw [items_reversedPrecedence fun a ha b hb => h.comm (hitems a ha) (hitems b hb),
    firstOccurrences_eq_firstOffers h hitems]

/-- Two turns bring the order back, without what was left out. -/
theorem items_reversedPrecedence_twice (h : TellsApart same fit identity) {items : List α}
    (hitems : ∀ a ∈ items, fit a) :
    (reversedPrecedence (reversedPrecedence items : OrderedSet α same).items :
      OrderedSet α same).items = firstOffers same items := by
  have hmem : ∀ a ∈ (reversedPrecedence items : OrderedSet α same).items, fit a := by
    rw [items_reversedPrecedence_eq h hitems, ← firstOccurrences_eq_firstOffers h hitems]
    exact fun a ha => hitems a (mem_of_mem_firstOccurrences (List.mem_reverse.mp ha))
  have hself : firstOccurrences same [] (reversedPrecedence items : OrderedSet α same).items =
      (reversedPrecedence items : OrderedSet α same).items :=
    firstOccurrences_eq_self (reversedPrecedence items).distinct fun _ _ => rfl
  rw [items_reversedPrecedence fun a ha b hb => h.comm (hmem a ha) (hmem b hb), hself,
    items_reversedPrecedence_eq h hitems, List.reverse_reverse]

/-! ## Sets after operations -/

/-- What a set is when `items` have been offered to it. -/
structure Keeps (s : OrderedSet α same) (items : List α) : Prop where
  distinct : s.items.Pairwise fun a b => same a b = false
  indexed : s.index.Perm s.items
  contains_iff : ∀ a, s.contains a = true ↔ ∃ b ∈ s.items, same b a = true
  items_eq : s.items = firstOffers same items
  add_true : ∀ a, (s.add a).2 = true ↔ (s.add a).1.items = s.items ++ [a]
  add_false : ∀ a, (s.add a).2 = false ↔ (s.add a).1.items = s.items

theorem keeps_ofList (h : TellsApart same fit identity) {items : List α}
    (hitems : ∀ a ∈ items, fit a) : (ofList items : OrderedSet α same).Keeps items where
  distinct := by
    rw [items_ofList]
    exact pairwise_firstOccurrences items
  indexed := (ofList items).indexed
  contains_iff := fun _ => OrderedSet.contains_iff
  items_eq := by rw [items_ofList, firstOccurrences_eq_firstOffers h hitems]
  add_true := add_eq_true_iff (ofList items)
  add_false := add_eq_false_iff (ofList items)

/-- Values that are fit to be items are told apart by what they mean. Whatever items are told apart
by, a set keeps the first of all that operations offer to it, and turning the order of precedence
round turns round just these. -/
theorem operations_keep_first_offers :
    TellsApart Value.same Value.IsItem Value.meaning
      ∧ ∀ {α : Type u} {ι : Type v} {same : α → α → Bool} {fit : α → Prop} {identity : α → ι},
          TellsApart same fit identity →
            (∀ (init : List α) (ops : List (Operation α)), (∀ a ∈ offered init ops, fit a) →
              (run init ops : OrderedSet α same).Keeps (offered init ops))
            ∧ ∀ items : List α, (∀ a ∈ items, fit a) →
                (reversedPrecedence items : OrderedSet α same).items =
                    (firstOffers same items).reverse
                  ∧ (reversedPrecedence (reversedPrecedence items : OrderedSet α same).items :
                      OrderedSet α same).items = firstOffers same items := by
  refine ⟨fun a b ha hb => Value.same_iff_meaning ha hb, fun h => ⟨fun init ops hitems => ?_,
    fun items hitems => ?_⟩⟩
  · rw [run_eq_ofList]
    exact keeps_ofList h hitems
  · exact ⟨items_reversedPrecedence_eq h hitems, items_reversedPrecedence_twice h hitems⟩

/-- `true`, `1` and `1.0` are one item, and so are the tuples of them. -/
theorem operations_keep_first_offers_one :
    let init : List Value := [.bool true, .text "1"]
    let ops : List (Operation Value) :=
      [.add (.int 1), .update [.float (.finite false 0x10000000000000 (-52)), .tuple [.int 1]],
        .add (.tuple [.bool true])]
    (∀ v ∈ offered init ops, v.IsItem)
      ∧ (run init ops : OrderedSet Value Value.same).items =
          [.bool true, .text "1", .tuple [.int 1]]
      ∧ (reversedPrecedence (offered init ops) : OrderedSet Value Value.same).items =
          [.tuple [.int 1], .text "1", .bool true] := by
  intro init ops
  have hitems : ∀ v ∈ offered init ops, v.IsItem := by
    have hall : (offered init ops).all (fun v => v.isKey && !v.holdsNaN) = true := rfl
    intro v hv
    have hv := List.all_eq_true.mp hall v hv
    rw [Bool.and_eq_true, Bool.not_eq_true'] at hv
    exact ⟨hv.1, hv.2⟩
  obtain ⟨hvalues, hsets⟩ := operations_keep_first_offers
  obtain ⟨hrun, hreversed⟩ := hsets hvalues
  exact ⟨hitems, (hrun init ops hitems).items_eq.trans rfl, (hreversed _ hitems).1.trans rfl⟩

end OrderedSet

end ConfigLocator

/-!
# Ordered sets

A list of items of which no two are the same, in the order of their first insertion, beside an index
that knows the members. What counts as the same is a parameter, since locations, references and
values each have an equality of their own.

`items_ofList` says what a set that is built from a list keeps: the first of the items that are the
same. `reversedPrecedence` is the order in which later sources come first.
-/

namespace ConfigLocator

universe u

/-- Membership is asked of the index, in which the order of the members means nothing; everything
else is read off the items. -/
structure OrderedSet (α : Type u) (same : α → α → Bool) where
  items : List α
  index : List α
  distinct : items.Pairwise fun a b => same a b = false
  indexed : index.Perm items

namespace OrderedSet

variable {α : Type u} {same : α → α → Bool}

def empty : OrderedSet α same := ⟨[], [], .nil, .nil⟩

def size (s : OrderedSet α same) : Nat := s.items.length

def contains (s : OrderedSet α same) (a : α) : Bool := s.index.any (same · a)

/-- What the index knows are the items. -/
theorem contains_eq_any (s : OrderedSet α same) (a : α) : s.contains a = s.items.any (same · a) :=
  s.indexed.any_eq

theorem contains_iff {s : OrderedSet α same} {a : α} :
    s.contains a = true ↔ ∃ b ∈ s.items, same b a = true := by
  rw [contains_eq_any, List.any_eq_true]

/-- Enters an item that is new, in the list behind the others. -/
def insert (s : OrderedSet α same) (a : α) : OrderedSet α same :=
  if h : s.contains a then s
  else
    { items := s.items ++ [a]
      index := a :: s.index
      distinct := by
        rw [List.pairwise_append]
        refine ⟨s.distinct, List.pairwise_singleton .., fun x hx y hy => ?_⟩
        rw [List.mem_singleton] at hy
        subst hy
        simp only [contains_eq_any, List.any_eq_true, not_exists, not_and, Bool.not_eq_true] at h
        exact h x hx
      indexed := (s.indexed.cons a).trans (List.perm_append_singleton a s.items).symm }

/-- The set with the item, and whether that was new. -/
def add (s : OrderedSet α same) (a : α) : OrderedSet α same × Bool := (s.insert a, !s.contains a)

def insertMany (s : OrderedSet α same) (items : List α) : OrderedSet α same := items.foldl insert s

def ofList (items : List α) : OrderedSet α same := empty.insertMany items

/-- The item at an index, which counts from the end when it is negative. -/
def get? (s : OrderedSet α same) (index : Int) : Option α :=
  let i := if index < 0 then index + s.size else index
  if i < 0 then none else s.items[i.toNat]?

/-- Keeps the first of equal items, then turns the order round. -/
def reversedPrecedence (items : List α) : OrderedSet α same :=
  ofList (ofList items : OrderedSet α same).items.reverse

/-- The same items in the same order. -/
def sameItems (s t : OrderedSet α same) : Bool :=
  s.size == t.size && (s.items.zip t.items).all fun (a, b) => same a b

/-! ## Items after each operation -/

theorem items_empty : (empty : OrderedSet α same).items = [] := rfl

@[simp] theorem contains_empty (a : α) : (empty : OrderedSet α same).contains a = false := rfl

theorem items_insert_of_contains {s : OrderedSet α same} {a : α} (h : s.contains a = true) :
    (s.insert a).items = s.items := by
  simp [insert, h]

theorem items_insert_of_not_contains {s : OrderedSet α same} {a : α} (h : s.contains a = false) :
    (s.insert a).items = s.items ++ [a] := by
  simp [insert, h]

theorem items_insert (s : OrderedSet α same) (a : α) :
    (s.insert a).items = if s.items.any (same · a) then s.items else s.items ++ [a] := by
  rw [← contains_eq_any]
  unfold insert
  split <;> simp_all

theorem insertMany_append (s : OrderedSet α same) (xs ys : List α) :
    s.insertMany (xs ++ ys) = (s.insertMany xs).insertMany ys :=
  List.foldl_append

/-- First occurrences of a list, behind items that came before. -/
def firstOccurrences (same : α → α → Bool) (seen : List α) : List α → List α
  | [] => []
  | a :: rest =>
    if seen.any (same · a) then firstOccurrences same seen rest
    else a :: firstOccurrences same (seen ++ [a]) rest

theorem items_insertMany (s : OrderedSet α same) (items : List α) :
    (s.insertMany items).items = s.items ++ firstOccurrences same s.items items := by
  induction items generalizing s with
  | nil => simp [insertMany, firstOccurrences]
  | cons a rest ih =>
    have step : s.insertMany (a :: rest) = (s.insert a).insertMany rest := rfl
    rw [step, ih, items_insert, firstOccurrences]
    split <;> simp

theorem items_ofList (items : List α) :
    (ofList items : OrderedSet α same).items = firstOccurrences same [] items := by
  simp [ofList, items_insertMany, items_empty]

end OrderedSet

end ConfigLocator

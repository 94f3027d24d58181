import Mathlib.Data.List.Forall2
import ConfigLocator.Probe

/-!
# When a step returns

Resolution is written in `Except` and `Probe`, and a theorem about it speaks of the runs that
return. Here a sequence of steps is taken apart: it returns iff each of its steps does
(`bind_eq_ok_iff`, `Probe.collect_eq_ok_iff`), and running a step for a location changes its faults
only (`wrapFaults_eq_ok_iff`).
-/

namespace ConfigLocator

variable {α β : Type}

/-! ## Steps one after the other -/

theorem bind_eq_ok_iff {ε : Type} {e : Except ε α} {f : α → Except ε β} {b : β} :
    (e >>= f) = .ok b ↔ ∃ a, e = .ok a ∧ f a = .ok b := by
  cases e with
  | error fault => simp [bind, Except.bind]
  | ok a => simp [bind, Except.bind]

theorem map_eq_ok_iff {ε : Type} {e : Except ε α} {f : α → β} {b : β} :
    e.map f = .ok b ↔ ∃ a, e = .ok a ∧ f a = b := by
  cases e with
  | error fault => simp [Except.map]
  | ok a => simp [Except.map]

theorem map_eq_error_iff {ε : Type} {e : Except ε α} {f : α → β} {fault : ε} :
    e.map f = .error fault ↔ e = .error fault := by
  cases e with
  | error fault => simp [Except.map]
  | ok a => simp [Except.map]

theorem bind_eq_error_iff {ε : Type} {e : Except ε α} {f : α → Except ε β} {fault : ε} :
    (e >>= f) = .error fault ↔ e = .error fault ∨ ∃ a, e = .ok a ∧ f a = .error fault := by
  cases e with
  | error fault' => simp [bind, Except.bind]
  | ok a => simp [bind, Except.bind]

/-- Rearranging what a step gives does not fail. -/
theorem bind_pure_eq_error_iff {e : Except Fault α} {g : α → β} {fault : Fault} :
    (e >>= fun a => pure (g a)) = .error fault ↔ e = .error fault := by
  cases e <;> simp [bind, Except.bind, pure, Except.pure]

theorem pure_eq_ok_iff {ε : Type} {a b : α} : (pure a : Except ε α) = .ok b ↔ a = b := by
  simp [pure, Except.pure]

theorem wrapFaults_eq_ok_iff {l : Location} {e : Except Fault α} {a : α} :
    wrapFaults l e = .ok a ↔ e = .ok a := by
  cases e <;> simp [wrapFaults]

theorem wrapFaults_eq_error_iff {l : Location} {e : Except Fault α} {fault : Fault} :
    wrapFaults l e = .error fault ↔ ∃ original, e = .error original ∧ fault = original.wrap l := by
  cases e <;> simp [wrapFaults, eq_comm]

/-! ## A step for each item -/

/-- A test that answers for every item selects as a test without faults does. -/
theorem filterM_eq_filter {p : α → Except Fault Bool} {q : α → Bool} {items : List α}
    (h : ∀ a ∈ items, p a = .ok (q a)) : items.filterM p = .ok (items.filter q) := by
  suffices haux : ∀ acc, items.filterAuxM p acc = .ok ((items.filter q).reverse ++ acc) by
    rw [List.filterM, haux]
    simp [bind, Except.bind, pure, Except.pure]
  induction items with
  | nil => exact fun acc => rfl
  | cons a rest ih =>
      obtain ⟨ha, hrest⟩ := List.forall_mem_cons.mp h
      intro acc
      rw [List.filterAuxM, ha]
      show List.filterAuxM p rest (cond (q a) (a :: acc) acc) = _
      rw [ih hrest]
      cases hq : q a <;> simp [hq]

/-- A step that is taken for each item returns when it returns for all of them. -/
theorem mapM_eq_ok_iff {ε : Type} {step : α → Except ε β} {items : List α} {results : List β} :
    items.mapM step = .ok results ↔ List.Forall₂ (fun a b => step a = .ok b) items results := by
  induction items generalizing results with
  | nil => simp [pure, Except.pure, eq_comm]
  | cons a rest ih =>
      rw [List.mapM_cons, List.forall₂_cons_left_iff]
      simp only [bind_eq_ok_iff, ih, pure_eq_ok_iff]
      constructor
      · rintro ⟨b, hb, later, hlater, rfl⟩
        exact ⟨b, later, hb, hlater, rfl⟩
      · rintro ⟨b, later, hb, hlater, rfl⟩
        exact ⟨b, hb, later, hlater, rfl⟩

theorem exists_of_mapM_eq_error {ε : Type} {step : α → Except ε β} {items : List α} {fault : ε}
    (h : items.mapM step = .error fault) : ∃ a ∈ items, step a = .error fault := by
  induction items with
  | nil => cases h
  | cons a rest ih =>
      rw [List.mapM_cons, bind_eq_error_iff] at h
      rcases h with ha | ⟨b, -, h⟩
      · exact ⟨a, List.mem_cons_self .., ha⟩
      · rcases bind_eq_error_iff.mp h with hrest | ⟨later, -, h⟩
        · obtain ⟨x, hx, hfault⟩ := ih hrest
          exact ⟨x, List.mem_cons_of_mem a hx, hfault⟩
        · cases h

/-! ## The first failure -/

/-- A step fails at an item with a fault, and at no item before it. -/
def FirstFails (step : α → Except Fault β) (items : List α) (a : α) (fault : Fault) : Prop :=
  ∃ before after, items = before ++ a :: after
    ∧ (∀ b ∈ before, ∃ x, step b = .ok x) ∧ step a = .error fault

section FirstFails

variable {step : α → Except Fault β} {a b : α} {rest : List α} {fault : Fault}

theorem not_firstFails_nil : ¬FirstFails step [] a fault := by
  rintro ⟨before, after, h, -⟩
  simp at h

theorem firstFails_cons_iff :
    FirstFails step (a :: rest) b fault ↔
      (a = b ∧ step b = .error fault)
        ∨ ((∃ x, step a = .ok x) ∧ FirstFails step rest b fault) := by
  constructor
  · rintro ⟨before, after, hitems, hbefore, hb⟩
    cases before with
    | nil => exact Or.inl ⟨(List.cons.inj hitems).1, hb⟩
    | cons c before =>
        obtain ⟨rfl, rfl⟩ := List.cons.inj hitems
        obtain ⟨ha, hbefore⟩ := List.forall_mem_cons.mp hbefore
        exact Or.inr ⟨ha, before, after, rfl, hbefore, hb⟩
  · rintro (⟨rfl, hb⟩ | ⟨ha, before, after, rfl, hbefore, hb⟩)
    · exact ⟨[], rest, rfl, by simp, hb⟩
    · exact ⟨a :: before, after, rfl, List.forall_mem_cons.mpr ⟨ha, hbefore⟩, hb⟩

theorem exists_firstFails_cons_iff (step : α → Except Fault β) :
    (∃ b, FirstFails step (a :: rest) b fault) ↔
      step a = .error fault ∨ ∃ x, step a = .ok x ∧ ∃ b, FirstFails step rest b fault := by
  simp only [firstFails_cons_iff, exists_or, exists_and_left, exists_and_right]
  simp

theorem FirstFails.mem {items : List α} (h : FirstFails step items a fault) : a ∈ items := by
  obtain ⟨before, after, rfl, -⟩ := h
  simp

theorem FirstFails.eq_error {items : List α} (h : FirstFails step items a fault) :
    step a = .error fault := by
  obtain ⟨before, after, -, -, ha⟩ := h
  exact ha

end FirstFails

/-! ## Collections -/

/-- An item of a list in two parts stands in the first or in the second. -/
theorem place_of_append {s t before after : List α} {a : α}
    (h : s ++ t = before ++ a :: after) :
    (∃ front, before = s ++ front ∧ t = front ++ a :: after) ∨
      ∃ behind, s = before ++ a :: behind ∧ after = behind ++ t := by
  rcases List.append_eq_append_iff.mp h with hfront | ⟨behind, rfl, hbehind⟩
  · exact Or.inl hfront
  · cases behind with
    | nil => exact Or.inl ⟨[], by simp, hbehind.symm⟩
    | cons d behind =>
        obtain ⟨rfl, rfl⟩ := List.cons.inj hbehind
        exact Or.inr ⟨behind, rfl, rfl⟩

/-- A result has the item that it is a result of. -/
theorem exists_of_mem_results {R : α → β → Prop} {items : List α} {results : List β}
    (h : List.Forall₂ R items results) {b : β} (hb : b ∈ results) : ∃ a ∈ items, R a b := by
  induction h with
  | nil => cases hb
  | cons hfirst _ ih =>
      rcases List.mem_cons.mp hb with rfl | hlater
      · exact ⟨_, List.mem_cons_self, hfirst⟩
      · obtain ⟨a, ha, hR⟩ := ih hlater
        exact ⟨a, List.mem_cons_of_mem _ ha, hR⟩

/-- The lists are found one after the other, so all of them are there at the end. -/
theorem Probe.collect_eq_ok_iff {f : α → Probe (List β)} {items : List α} {found : List β} :
    (Probe.collect f items).outcome = .ok found ↔
      ∃ lists, List.Forall₂ (fun a list => (f a).outcome = .ok list) items lists
        ∧ found = lists.flatten := by
  induction items generalizing found with
  | nil =>
      simp only [collect, outcome_pure, Except.ok.injEq, List.forall₂_nil_left_iff]
      constructor
      · rintro rfl
        exact ⟨[], rfl, rfl⟩
      · rintro ⟨lists, rfl, rfl⟩
        rfl
  | cons a rest ih =>
      simp only [collect, outcome_bind, outcome_pure, bind_eq_ok_iff, ih,
        List.forall₂_cons_left_iff]
      constructor
      · rintro ⟨first, hfirst, later, ⟨lists, hlists, rfl⟩, hfound⟩
        exact ⟨first :: lists, ⟨first, lists, hfirst, hlists, rfl⟩, (Except.ok.inj hfound).symm⟩
      · rintro ⟨_, ⟨first, lists, hfirst, hlists, rfl⟩, rfl⟩
        exact ⟨first, hfirst, lists.flatten, ⟨lists, hlists, rfl⟩, rfl⟩

/-- Nothing comes of items together when nothing comes of each. -/
theorem exists_flatten_eq_nil_iff {R : α → List β → Prop} {items : List α} :
    (∃ lists, List.Forall₂ R items lists ∧ [] = lists.flatten) ↔ ∀ a ∈ items, R a [] := by
  induction items with
  | nil => exact ⟨fun _ a ha => absurd ha List.not_mem_nil, fun _ => ⟨[], .nil, rfl⟩⟩
  | cons a rest ih =>
      rw [List.forall_mem_cons, ← ih]
      constructor
      · rintro ⟨lists, hlists, hnil⟩
        obtain ⟨list, later, hlist, hlater, rfl⟩ := List.forall₂_cons_left_iff.mp hlists
        obtain ⟨hlistNil, hlaterNil⟩ := List.append_eq_nil_iff.mp hnil.symm
        exact ⟨hlistNil ▸ hlist, later, hlater, hlaterNil.symm⟩
      · rintro ⟨hlist, later, hlater, hnil⟩
        exact ⟨[] :: later, .cons hlist hlater, hnil⟩

theorem Probe.collect_eq_nil_iff {f : α → Probe (List β)} {items : List α} :
    (Probe.collect f items).outcome = .ok [] ↔ ∀ a ∈ items, (f a).outcome = .ok [] :=
  collect_eq_ok_iff.trans exists_flatten_eq_nil_iff

theorem Probe.collect_eq_flatMap {f : α → Probe (List β)} {g : α → List β} {items : List α}
    (h : ∀ a ∈ items, (f a).outcome = .ok (g a)) :
    (Probe.collect f items).outcome = .ok (items.flatMap g) := by
  refine collect_eq_ok_iff.mpr ⟨items.map g, ?_, List.flatMap_def ..⟩
  rw [List.forall₂_map_right_iff, List.forall₂_same]
  exact h

/-- A collection fails with the fault of its first item that fails. -/
theorem Probe.collect_eq_error_iff {f : α → Probe (List β)} {items : List α} {fault : Fault} :
    (Probe.collect f items).outcome = .error fault ↔
      ∃ a, FirstFails (fun a => (f a).outcome) items a fault := by
  induction items with
  | nil => simp [collect, not_firstFails_nil]
  | cons a rest ih =>
      have hlater : ∀ found, (collect f rest >>= fun later => pure (found ++ later)).outcome =
          .error fault ↔ (collect f rest).outcome = .error fault := by
        intro found
        rw [outcome_bind]
        exact bind_pure_eq_error_iff
      simp only [collect, outcome_bind (f a), bind_eq_error_iff, hlater, ih]
      exact (exists_firstFails_cons_iff fun a => (f a).outcome).symm

theorem Probe.exists_of_collect {f : α → Probe (List β)} {items : List α} {found : List β}
    (h : (Probe.collect f items).outcome = .ok found) {a : α} (ha : a ∈ items) :
    ∃ list, (f a).outcome = .ok list := by
  obtain ⟨lists, hlists, -⟩ := collect_eq_ok_iff.mp h
  obtain ⟨list, -, hlist⟩ := exists_of_mem_results hlists.flip ha
  exact ⟨list, hlist⟩

theorem Probe.exists_of_mem_collect {f : α → Probe (List β)} {items : List α} {found : List β}
    (h : (Probe.collect f items).outcome = .ok found) {b : β} (hb : b ∈ found) :
    ∃ a ∈ items, ∃ list, (f a).outcome = .ok list ∧ b ∈ list := by
  obtain ⟨lists, hlists, rfl⟩ := collect_eq_ok_iff.mp h
  obtain ⟨list, hlist, hb⟩ := List.mem_flatten.mp hb
  obtain ⟨a, ha, hlist⟩ := exists_of_mem_results hlists hlist
  exact ⟨a, ha, list, hlist, hb⟩

end ConfigLocator

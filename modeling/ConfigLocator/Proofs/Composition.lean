import ConfigLocator.Proofs.Listing
import ConfigLocator.Proofs.Placeholders
import ConfigLocator.Proofs.Probing

/-!
# Resolution target by target

A location that packs several others, or a pass for several profiles, resolves many targets at once.
References are shared between targets and so are placeholders, yet the result is that of the targets
taken one by one: `StandardResolver.resolve_eq_ok_iff_parts` says that a resolution returns iff each
of its distinct targets does alone, and that it then returns their lists one after the other, without
repeated placeholders.

Two invariants carry it. A reference names its target, so the references already seen hold all of a
target that came before and nothing of a new one (`Listed`). And the used placeholders are those of
the directories seen (`Resource.Tracks`).
-/

namespace ConfigLocator

/-! ## Lists of results -/

/-- Two relations of lists, one after the other. -/
theorem forall₂_comp {α β γ : Type} {R : α → β → Prop} {S : β → γ → Prop} {as : List α}
    {cs : List γ} :
    (∃ bs, List.Forall₂ R as bs ∧ List.Forall₂ S bs cs) ↔
      List.Forall₂ (fun a c => ∃ b, R a b ∧ S b c) as cs := by
  constructor
  · rintro ⟨bs, hR, hS⟩
    induction hR generalizing cs with
    | nil =>
        cases hS
        exact .nil
    | cons hab _ ih =>
        cases hS with
        | cons hbc hrest => exact .cons ⟨_, hab, hbc⟩ (ih hrest)
  · intro h
    induction h with
    | nil => exact ⟨[], .nil, .nil⟩
    | cons hac _ ih =>
        obtain ⟨b, hab, hbc⟩ := hac
        obtain ⟨bs, hR, hS⟩ := ih
        exact ⟨b :: bs, .cons hab hR, .cons hbc hS⟩

namespace Target

/-- The same location up to its origin, and the same profile. -/
def same (a b : Target) : Bool := a.location.same b.location && a.profile == b.profile

theorem same_iff {a b : Target} :
    a.same b = true ↔ a.location.same b.location = true ∧ a.profile = b.profile := by
  simp [same]

theorem same_refl (t : Target) : t.same t = true :=
  same_iff.mpr ⟨Location.same_refl t.location, rfl⟩

theorem same_trans (a b c : Target) (hab : a.same b = true) (hbc : b.same c = true) :
    a.same c = true := by
  obtain ⟨hlocation, hprofile⟩ := same_iff.mp hab
  obtain ⟨hlocation', hprofile'⟩ := same_iff.mp hbc
  obtain ⟨hvalue, hoptional⟩ := Location.same_iff.mp hlocation
  obtain ⟨hvalue', hoptional'⟩ := Location.same_iff.mp hlocation'
  exact same_iff.mpr ⟨Location.same_iff.mpr ⟨hvalue.trans hvalue', hoptional.trans hoptional'⟩,
    hprofile.trans hprofile'⟩

/-- Among targets of one origin, the same is equal. -/
theorem eq_of_same {a b : Target} (horigin : a.location.origin = b.location.origin)
    (h : a.same b = true) : a = b := by
  obtain ⟨hsame, hprofile⟩ := same_iff.mp h
  have hlocation : a.location = b.location := Location.eq_of_same horigin hsame
  obtain ⟨la, pa⟩ := a
  obtain ⟨lb, pb⟩ := b
  simp_all

end Target

namespace StandardResolver

variable {r : StandardResolver} {host : Host} {parent : Option Reference}

/-! ## Groups -/

/-- What a group comes to by itself: what the store has of it, or else its placeholders. -/
def resolveGroup (r : StandardResolver) (host : Host) (group : List Reference) :
    Except Fault (List Resource) := do
  let found ← (Probe.collect (r.probe host) group).outcome
  if found.isEmpty then return (← r.groupPlaceholders host group).items else return found

theorem resolveGroup_eq_ok {group : List Reference} {part : List Resource}
    (h : r.resolveGroup host group = .ok part) :
    ((Probe.collect (r.probe host) group).outcome = .ok part ∧ part ≠ [])
      ∨ ((Probe.collect (r.probe host) group).outcome = .ok []
        ∧ ∃ empty, r.groupPlaceholders host group = .ok empty ∧ part = empty.items) := by
  obtain ⟨found, hfound, h⟩ := bind_eq_ok_iff.mp h
  cases found with
  | nil =>
      obtain ⟨empty, hempty, h⟩ := bind_eq_ok_iff.mp h
      exact Or.inr ⟨hfound, empty, hempty, (Except.ok.inj h).symm⟩
  | cons x rest =>
      obtain rfl := Except.ok.inj h
      exact Or.inl ⟨hfound, List.cons_ne_nil x rest⟩

/-- The reference of a named file has no placeholder to fall back on. -/
theorem resolveGroup_file {x : Reference} (h : x.directory = none) :
    r.resolveGroup host [x] = (r.probe host x).outcome := by
  have hcollect : (Probe.collect (r.probe host) [x]).outcome = (r.probe host x).outcome := by
    rw [Probe.collect, Probe.outcome_bind]
    cases (r.probe host x).outcome with
    | error fault => rfl
    | ok list =>
        show Except.ok (list ++ []) = _
        rw [List.append_nil]
  have hempty : r.groupPlaceholders host [x] = .ok .empty := by
    rw [groupPlaceholders, List.foldlM_cons, placeholders, h]
    rfl
  rw [resolveGroup, hcollect]
  cases (r.probe host x).outcome with
  | error fault => rfl
  | ok list =>
      cases list with
      | nil =>
          show (r.groupPlaceholders host [x] >>= fun empty => pure empty.items) = _
          rw [hempty]
          rfl
      | cons y rest => rfl

/-- Resolving groups one after the other is resolving each alone and leaving out repeats. -/
theorem resolveGroups_eq_ok_iff {used : OrderedSet Resource (Resource.same host)} {seen : List Text}
    (htracks : Resource.Tracks host used seen) {groups : List (List Reference)}
    {found : List Resource} :
    (r.resolveGroups host used groups).outcome = .ok found ↔
      ∃ parts, List.Forall₂ (fun group part => r.resolveGroup host group = .ok part) groups parts
        ∧ found = Resource.withoutRepeats host seen parts.flatten := by
  induction groups generalizing used seen found with
  | nil =>
      simp only [resolveGroups, Probe.outcome_pure, Except.ok.injEq, List.forall₂_nil_left_iff]
      constructor
      · rintro rfl
        exact ⟨[], rfl, rfl⟩
      · rintro ⟨parts, rfl, rfl⟩
        rfl
  | cons group rest ih =>
      rw [resolveGroups, Probe.outcome_bind, bind_eq_ok_iff]
      constructor
      · rintro ⟨found, hfound, h⟩
        cases found with
        | nil =>
            simp only [List.isEmpty_nil, if_true, Probe.outcome_bind, Probe.outcome_ofExcept,
              bind_eq_ok_iff] at h
            obtain ⟨empty, hempty, later, hlater, h⟩ := h
            have hdirectories := placeholderDirectory?_of_mem_groupPlaceholders hempty
            obtain ⟨parts, hparts, rfl⟩ := (ih (htracks.insertMany hdirectories)).mp hlater
            refine ⟨empty.items :: parts, .cons ?_ hparts, ?_⟩
            · rw [resolveGroup, hfound]
              show (r.groupPlaceholders host group >>= fun empty => pure empty.items) = _
              exact bind_eq_ok_iff.mpr ⟨empty, hempty, rfl⟩
            · rw [List.flatten_cons, Resource.withoutRepeats_append_placeholders htracks
                hdirectories empty.distinct]
              exact (Except.ok.inj h).symm
        | cons x xs =>
            simp only [List.isEmpty_cons, Bool.false_eq_true, if_false, Probe.outcome_bind,
              bind_eq_ok_iff] at h
            obtain ⟨later, hlater, h⟩ := h
            obtain ⟨parts, hparts, rfl⟩ := (ih htracks).mp hlater
            refine ⟨(x :: xs) :: parts, .cons ?_ hparts, ?_⟩
            · rw [resolveGroup, hfound]
              rfl
            · rw [List.flatten_cons, Resource.withoutRepeats_append_found fun y hy =>
                (mem_collect_probe hfound hy).2]
              exact (Except.ok.inj h).symm
      · rintro ⟨_, hall, rfl⟩
        obtain ⟨part, parts, hpart, hparts, rfl⟩ := List.forall₂_cons_left_iff.mp hall
        rcases resolveGroup_eq_ok hpart with ⟨hfound, hne⟩ | ⟨hfound, empty, hempty, rfl⟩
        · refine ⟨part, hfound, ?_⟩
          rw [if_neg (by simpa using hne), Probe.outcome_bind, bind_eq_ok_iff]
          refine ⟨_, (ih htracks).mpr ⟨parts, hparts, rfl⟩, ?_⟩
          rw [List.flatten_cons, Resource.withoutRepeats_append_found fun y hy =>
            (mem_collect_probe hfound hy).2]
          rfl
        · have hdirectories := placeholderDirectory?_of_mem_groupPlaceholders hempty
          refine ⟨[], hfound, ?_⟩
          simp only [List.isEmpty_nil, if_true, Probe.outcome_bind, Probe.outcome_ofExcept,
            bind_eq_ok_iff]
          refine ⟨empty, hempty, _, (ih (htracks.insertMany hdirectories)).mpr
            ⟨parts, hparts, rfl⟩, ?_⟩
          rw [List.flatten_cons, Resource.withoutRepeats_append_placeholders htracks
            hdirectories empty.distinct]
          rfl

/-! ## References of many targets -/

/-- The references of a target, listed alone. -/
def Lists (r : StandardResolver) (parent : Option Reference) (t : Target)
    (group : List Reference) : Prop :=
  ∃ refs, r.references parent t = .ok refs ∧ group = refs.items

/-- The references seen are those of the targets before, all of which have been listed. -/
structure Listed (r : StandardResolver) (parent : Option Reference) (before : List Target)
    (seen : References) : Prop where
  lists : ∀ t ∈ before, ∃ refs, r.references parent t = .ok refs
  contains_iff : ∀ x, seen.contains x = true ↔
    ∃ t ∈ before, ∃ refs, r.references parent t = .ok refs ∧ refs.contains x = true

theorem listed_nil : r.Listed parent [] .empty where
  lists := fun t ht => by cases ht
  contains_iff := fun x => by simp

/-- A target whose references are seen changes nothing. -/
theorem Listed.insert_old {before : List Target} {seen refs : References}
    (h : r.Listed parent before seen) {t : Target} (ht : t ∈ before)
    (hrefs : r.references parent t = .ok refs) : r.Listed parent before (seen.insertMany refs.items) where
  lists := h.lists
  contains_iff := fun x => by
    rw [OrderedSet.contains_insertMany Reference.same_trans, ← OrderedSet.contains_eq_any,
      Bool.or_eq_true, h.contains_iff]
    refine ⟨?_, Or.inl⟩
    rintro (hx | hx)
    · exact hx
    · exact ⟨t, ht, refs, hrefs, hx⟩

theorem Listed.insert_new {before : List Target} {seen refs : References}
    (h : r.Listed parent before seen) {t : Target} (hrefs : r.references parent t = .ok refs) :
    r.Listed parent (before ++ [t]) (seen.insertMany refs.items) where
  lists := fun t' ht' => by
    rcases List.mem_append.mp ht' with hbefore | hnew
    · exact h.lists t' hbefore
    · rw [List.mem_singleton.mp hnew]
      exact ⟨refs, hrefs⟩
  contains_iff := fun x => by
    rw [OrderedSet.contains_insertMany Reference.same_trans, ← OrderedSet.contains_eq_any,
      Bool.or_eq_true, h.contains_iff]
    constructor
    · rintro (⟨t', ht', hx⟩ | hx)
      · exact ⟨t', List.mem_append_left _ ht', hx⟩
      · exact ⟨t, List.mem_append_right _ (List.mem_singleton.mpr rfl), refs, hrefs, hx⟩
    · rintro ⟨t', ht', refs', hrefs', hx⟩
      rcases List.mem_append.mp ht' with hbefore | hnew
      · exact Or.inl ⟨t', hbefore, refs', hrefs', hx⟩
      · rw [List.mem_singleton.mp hnew, hrefs] at hrefs'
        cases hrefs'
        exact Or.inr hx

/-- Of a target that came before everything is seen. -/
theorem Listed.fresh_old {before : List Target} {seen refs : References}
    (h : r.Listed parent before seen) {t : Target} (ht : t ∈ before)
    (hrefs : r.references parent t = .ok refs) :
    refs.items.filter (fun x => !seen.contains x) = [] := by
  rw [List.filter_eq_nil_iff]
  intro x hx
  have hseen : seen.contains x = true :=
    (h.contains_iff x).mpr ⟨t, ht, refs, hrefs, OrderedSet.contains_of_mem Reference.same_refl hx⟩
  simp [hseen]

/-- Of a new target nothing is seen, since references name their target. -/
theorem Listed.fresh_new {before : List Target} {seen refs : References}
    (h : r.Listed parent before seen) {t : Target} (ht : before.any (Target.same · t) = false)
    (hrefs : r.references parent t = .ok refs) :
    refs.items.filter (fun x => !seen.contains x) = refs.items := by
  rw [List.filter_eq_self]
  intro x hx
  rw [Bool.not_eq_true', ← Bool.not_eq_true, h.contains_iff]
  rintro ⟨t', ht', refs', hrefs', hcontains⟩
  obtain ⟨y, hy, hyx⟩ := OrderedSet.contains_iff.mp hcontains
  obtain ⟨hylocation, hyprofile⟩ := mem_references hrefs' hy
  obtain ⟨hxlocation, hxprofile⟩ := mem_references hrefs hx
  obtain ⟨hlocation, -, -, hprofile, -⟩ := Reference.same_iff.mp hyx
  rw [hylocation, hxlocation] at hlocation
  rw [hyprofile, hxprofile] at hprofile
  rw [← Bool.not_eq_true, List.any_eq_true] at ht
  exact ht ⟨t', ht', Target.same_iff.mpr ⟨hlocation, hprofile⟩⟩

theorem referenceGroups_cons_eq_ok_iff {seen : References} {t : Target} {rest : List Target}
    {groups : List (List Reference)} :
    r.referenceGroups parent seen (t :: rest) = .ok groups ↔
      ∃ refs, r.references parent t = .ok refs
        ∧ ∃ later, r.referenceGroups parent (seen.insertMany refs.items) rest = .ok later
          ∧ groups = refs.items.filter (fun x => !seen.contains x) :: later := by
  rw [referenceGroups, bind_eq_ok_iff]
  refine exists_congr fun refs => and_congr_right fun _ => ?_
  rw [bind_eq_ok_iff]
  exact exists_congr fun later => and_congr_right fun _ => pure_eq_ok_iff.trans eq_comm

/-- De-duplication leaves every group whole or empty: the groups that are not empty are those of the
distinct targets, listed alone. -/
theorem referenceGroups_eq_ok_iff {origin : Option Text} {before targets : List Target}
    {seen : References} (h : r.Listed parent before seen)
    (hbefore : ∀ t ∈ before, t.location.origin = origin)
    (htargets : ∀ t ∈ targets, t.location.origin = origin) (nonempty : List (List Reference)) :
    (∃ groups, r.referenceGroups parent seen targets = .ok groups
        ∧ groups.filter (!·.isEmpty) = nonempty) ↔
      ∃ groups, List.Forall₂ (r.Lists parent)
          (OrderedSet.firstOccurrences Target.same before targets) groups
        ∧ groups.filter (!·.isEmpty) = nonempty := by
  induction targets generalizing before seen nonempty with
  | nil => simp [referenceGroups, OrderedSet.firstOccurrences]
  | cons t rest ih =>
      obtain ⟨ht, hrest⟩ := List.forall_mem_cons.mp htargets
      rw [OrderedSet.firstOccurrences]
      by_cases hold : before.any (Target.same · t) = true
      · obtain ⟨t', ht', hsame⟩ := List.any_eq_true.mp hold
        obtain rfl := Target.eq_of_same ((hbefore t' ht').trans ht.symm) hsame
        rw [if_pos hold]
        constructor
        · rintro ⟨groups, hgroups, hfilter⟩
          obtain ⟨refs, hrefs, later, hlater, rfl⟩ := referenceGroups_cons_eq_ok_iff.mp hgroups
          rw [h.fresh_old ht' hrefs] at hfilter
          exact (ih (h.insert_old ht' hrefs) hbefore hrest _).mp ⟨later, hlater, hfilter⟩
        · intro hgroups
          obtain ⟨refs, hrefs⟩ := h.lists t' ht'
          obtain ⟨later, hlater, hfilter⟩ :=
            (ih (h.insert_old ht' hrefs) hbefore hrest _).mpr hgroups
          refine ⟨_, referenceGroups_cons_eq_ok_iff.mpr ⟨refs, hrefs, later, hlater, rfl⟩, ?_⟩
          rw [h.fresh_old ht' hrefs]
          exact hfilter
      · have hnew : before.any (Target.same · t) = false := by simpa using hold
        have hbefore' : ∀ u ∈ before ++ [t], u.location.origin = origin :=
          List.forall_mem_append.mpr ⟨hbefore, by simpa using ht⟩
        rw [if_neg hold]
        constructor
        · rintro ⟨groups, hgroups, rfl⟩
          obtain ⟨refs, hrefs, later, hlater, rfl⟩ := referenceGroups_cons_eq_ok_iff.mp hgroups
          obtain ⟨wholes, hwholes, hfilter⟩ :=
            (ih (h.insert_new hrefs) hbefore' hrest _).mp ⟨later, hlater, rfl⟩
          refine ⟨refs.items :: wholes, .cons ⟨refs, hrefs, rfl⟩ hwholes, ?_⟩
          rw [h.fresh_new hnew hrefs, List.filter_cons, List.filter_cons, hfilter]
        · rintro ⟨_, hall, rfl⟩
          obtain ⟨_, wholes, ⟨refs, hrefs, rfl⟩, hwholes, rfl⟩ :=
            List.forall₂_cons_left_iff.mp hall
          obtain ⟨later, hlater, hfilter⟩ :=
            (ih (h.insert_new hrefs) hbefore' hrest _).mpr ⟨wholes, hwholes, rfl⟩
          refine ⟨_, referenceGroups_cons_eq_ok_iff.mpr ⟨refs, hrefs, later, hlater, rfl⟩, ?_⟩
          rw [h.fresh_new hnew hrefs, List.filter_cons, List.filter_cons, hfilter]

/-- Empty groups come to nothing. -/
theorem resolveGroups_filter (used : OrderedSet Resource (Resource.same host))
    (groups : List (List Reference)) :
    (r.resolveGroups host used (groups.filter (!·.isEmpty))).outcome =
      (r.resolveGroups host used groups).outcome := by
  induction groups generalizing used with
  | nil => rfl
  | cons group rest ih =>
      cases group with
      | nil =>
          rw [List.filter_cons_of_neg (by simp), ih]
          show _ = (r.resolveGroups host used rest >>= fun later => pure ([] ++ later)).outcome
          rw [Probe.outcome_bind]
          cases (r.resolveGroups host used rest).outcome <;> rfl
      | cons x xs =>
          rw [List.filter_cons_of_pos (by simp), resolveGroups, resolveGroups]
          simp only [Probe.outcome_bind]
          congr 1
          funext found
          split <;> simp only [Probe.outcome_bind, ih]

/-! ## Targets one by one -/

/-- What a target comes to when nothing else is resolved. -/
def Comes (r : StandardResolver) (host : Host) (parent : Option Reference) (t : Target)
    (part : List Resource) : Prop :=
  ∃ group, r.Lists parent t group ∧ r.resolveGroup host group = .ok part

theorem resolveTargets_eq_ok_iff_comes {origin : Option Text} {targets : List Target}
    (htargets : ∀ t ∈ targets, t.location.origin = origin) {found : List Resource} :
    (r.resolveTargets host parent targets).outcome = .ok found ↔
      ∃ parts, List.Forall₂ (r.Comes host parent)
          (OrderedSet.firstOccurrences Target.same [] targets) parts
        ∧ found = Resource.withoutRepeats host [] parts.flatten := by
  have hnil : r.Listed parent [] .empty := listed_nil
  have hlists := referenceGroups_eq_ok_iff hnil (by simp) htargets
  rw [resolveTargets, Probe.outcome_bind, Probe.outcome_ofExcept, bind_eq_ok_iff]
  constructor
  · rintro ⟨groups, hgroups, h⟩
    obtain ⟨wholes, hwholes, hfilter⟩ := (hlists _).mp ⟨groups, hgroups, rfl⟩
    rw [← resolveGroups_filter, ← hfilter, resolveGroups_filter,
      resolveGroups_eq_ok_iff Resource.tracks_empty] at h
    obtain ⟨parts, hparts, hfound⟩ := h
    exact ⟨parts, forall₂_comp.mp ⟨wholes, hwholes, hparts⟩, hfound⟩
  · rintro ⟨parts, hparts, hfound⟩
    obtain ⟨wholes, hwholes, hresolved⟩ := forall₂_comp.mpr hparts
    obtain ⟨groups, hgroups, hfilter⟩ := (hlists _).mpr ⟨wholes, hwholes, rfl⟩
    refine ⟨groups, hgroups, ?_⟩
    rw [← resolveGroups_filter, hfilter, resolveGroups_filter,
      resolveGroups_eq_ok_iff Resource.tracks_empty]
    exact ⟨parts, hresolved, hfound⟩

/-- The placeholders of one group stand for distinct directories. -/
theorem withoutRepeats_of_resolveGroup {group : List Reference} {part : List Resource}
    (h : r.resolveGroup host group = .ok part) : Resource.withoutRepeats host [] part = part := by
  rcases resolveGroup_eq_ok h with ⟨hfound, -⟩ | ⟨-, empty, hempty, rfl⟩
  · have happend : Resource.withoutRepeats host [] (part ++ []) = part ++ [] :=
      Resource.withoutRepeats_append_found (fun x hx => (mem_collect_probe hfound hx).2) []
    simpa using happend
  · have happend := Resource.withoutRepeats_append_placeholders Resource.tracks_empty
      (placeholderDirectory?_of_mem_groupPlaceholders hempty) empty.distinct []
    simpa [Resource.withoutRepeats] using happend

theorem resolveTargets_singleton_eq_ok_iff {t : Target} {part : List Resource} :
    (r.resolveTargets host parent [t]).outcome = .ok part ↔ r.Comes host parent t part := by
  have hone : OrderedSet.firstOccurrences Target.same [] [t] = [t] := rfl
  have horigin : ∀ u ∈ [t], u.location.origin = t.location.origin := by simp
  rw [resolveTargets_eq_ok_iff_comes horigin, hone]
  constructor
  · rintro ⟨parts, hparts, rfl⟩
    obtain ⟨own, _, hown, hnil, rfl⟩ := List.forall₂_cons_left_iff.mp hparts
    obtain rfl := List.forall₂_nil_left_iff.mp hnil
    obtain ⟨group, hlists, hgroup⟩ := hown
    have hpart : [own].flatten = own := by simp
    rw [hpart, withoutRepeats_of_resolveGroup hgroup]
    exact ⟨group, hlists, hgroup⟩
  · rintro ⟨group, hlists, hgroup⟩
    refine ⟨[part], .cons ⟨group, hlists, hgroup⟩ .nil, ?_⟩
    have hpart : [part].flatten = part := by simp
    rw [hpart, withoutRepeats_of_resolveGroup hgroup]

/-- Many targets come to what each distinct one comes to alone. -/
theorem resolveTargets_eq_ok_iff {origin : Option Text} {targets : List Target}
    (htargets : ∀ t ∈ targets, t.location.origin = origin) {found : List Resource} :
    (r.resolveTargets host parent targets).outcome = .ok found ↔
      ∃ parts, List.Forall₂
          (fun t part => (r.resolveTargets host parent [t]).outcome = .ok part)
          (OrderedSet.firstOccurrences Target.same [] targets) parts
        ∧ found = Resource.withoutRepeats host [] parts.flatten := by
  rw [resolveTargets_eq_ok_iff_comes htargets]
  simp only [resolveTargets_singleton_eq_ok_iff]

/-- A single group shares its placeholders with no other. -/
theorem resolveGroups_singleton (group : List Reference) :
    (r.resolveGroups host .empty [group]).outcome = r.resolveGroup host group := by
  rw [resolveGroups, resolveGroup, Probe.outcome_bind]
  congr 1
  funext found
  split
  · simp only [Probe.outcome_bind, Probe.outcome_ofExcept, resolveGroups, Probe.outcome_pure]
    congr 1
    funext empty
    have hall : empty.items.filter
        (fun x => !(.empty : OrderedSet Resource (Resource.same host)).contains x) = empty.items :=
      List.filter_eq_self.mpr fun x _ => rfl
    show Except.ok (_ ++ []) = Except.ok _
    rw [hall, List.append_nil]
  · simp only [Probe.outcome_bind, resolveGroups, Probe.outcome_pure]
    show Except.ok (_ ++ []) = Except.ok _
    rw [List.append_nil]

theorem resolveTargets_singleton {t : Target} {refs : References}
    (h : r.references parent t = .ok refs) :
    (r.resolveTargets host parent [t]).outcome = r.resolveGroup host refs.items := by
  have hall : refs.items.filter (fun x => !(.empty : References).contains x) = refs.items :=
    List.filter_eq_self.mpr fun x _ => rfl
  have hgroups : r.referenceGroups parent .empty [t] = .ok [refs.items] := by
    rw [referenceGroups_cons_eq_ok_iff]
    exact ⟨refs, h, [], rfl, by rw [hall]⟩
  rw [resolveTargets, Probe.outcome_bind, Probe.outcome_ofExcept, hgroups]
  exact resolveGroups_singleton refs.items

theorem resolveTargets_of_error {t : Target} {fault : Fault}
    (h : r.references parent t = .error fault) (rest : List Target) :
    (r.resolveTargets host parent (t :: rest)).outcome = .error fault := by
  rw [resolveTargets, Probe.outcome_bind, Probe.outcome_ofExcept, referenceGroups, h]
  rfl

/-- A target alone is listed, and its references are one group. -/
theorem outcome_resolveTargets_singleton (t : Target) :
    (r.resolveTargets host parent [t]).outcome =
      (r.references parent t >>= fun refs => r.resolveGroup host refs.items) := by
  cases hrefs : r.references parent t with
  | error fault => exact resolveTargets_of_error hrefs []
  | ok refs => exact resolveTargets_singleton hrefs

/-! ## Locations part by part -/

/-- The default pass, or the pass for one profile. -/
def pass (r : StandardResolver) (host : Host) (parent : Option Reference) (l : Location) :
    Option Text → Probe (List Resource)
  | none => r.resolve host parent l
  | some profile => r.resolveProfiles host parent l [profile]

theorem pass_of_parts {l : Location} (h : l.parts = [l]) (profile : Option Text) :
    r.pass host parent l profile = r.resolveTargets host parent [⟨l, profile⟩] := by
  cases profile with
  | none => rw [pass, resolve, h, List.map_singleton]
  | some profile =>
      rw [pass, resolveProfiles, List.flatMap_singleton, h, List.map_singleton]

/-- A profile and a location up to its origin. -/
def sameProfiled (a b : Text × Location) : Bool := a.1 == b.1 && a.2.same b.2

theorem forall₂_congr_left {α β : Type} {R S : α → β → Prop} {as : List α} {bs : List β}
    (h : ∀ a ∈ as, ∀ b, R a b ↔ S a b) : List.Forall₂ R as bs ↔ List.Forall₂ S as bs := by
  induction as generalizing bs with
  | nil => simp
  | cons a rest ih =>
      obtain ⟨ha, hrest⟩ := List.forall_mem_cons.mp h
      simp only [List.forall₂_cons_left_iff, ha, ih hrest]

/-- Resolution is compositional: a location is resolved as its distinct parts are, and a pass for
profiles as the distinct pairs of a profile and a part are, profile by profile. Of the placeholders
of one directory the first stays. -/
theorem resolve_eq_ok_iff_parts (r : StandardResolver) (host : Host) (parent : Option Reference)
    (l : Location) (found : List Resource) :
    ((r.resolve host parent l).outcome = .ok found ↔
      ∃ lists, List.Forall₂ (fun part list => (r.resolve host parent part).outcome = .ok list)
          (OrderedSet.firstOccurrences Location.same [] l.parts) lists
        ∧ found = Resource.withoutRepeats host [] lists.flatten)
    ∧ ∀ profiles, (r.resolveProfiles host parent l profiles).outcome = .ok found ↔
      ∃ lists, List.Forall₂
          (fun pair list => (r.resolveProfiles host parent pair.2 [pair.1]).outcome = .ok list)
          (OrderedSet.firstOccurrences sameProfiled []
            (profiles.flatMap fun profile => l.parts.map (profile, ·))) lists
        ∧ found = Resource.withoutRepeats host [] lists.flatten := by
  constructor
  · have hdistinct : OrderedSet.firstOccurrences Target.same [] (l.parts.map (⟨·, none⟩)) =
        (OrderedSet.firstOccurrences Location.same [] l.parts).map (⟨·, none⟩) :=
      OrderedSet.firstOccurrences_map (fun a b => by simp [Target.same]) [] l.parts
    have horigin : ∀ t ∈ l.parts.map (⟨·, none⟩ : Location → Target),
        t.location.origin = l.origin := by
      intro t ht
      obtain ⟨part, hpart, rfl⟩ := List.mem_map.mp ht
      exact Location.origin_of_mem_parts hpart
    rw [resolve, resolveTargets_eq_ok_iff horigin, hdistinct]
    simp only [List.forall₂_map_left_iff]
    refine exists_congr fun lists => and_congr_left fun _ => ?_
    refine forall₂_congr_left fun part hpart list => ?_
    have hmem : part ∈ l.parts := OrderedSet.mem_of_mem_firstOccurrences hpart
    rw [← pass_of_parts (Location.parts_of_mem_parts hmem), pass]
  · intro profiles
    have hpairs : (profiles.flatMap fun profile => l.parts.map (⟨·, some profile⟩ : Location → Target)) =
        (profiles.flatMap fun profile => l.parts.map (profile, ·)).map
          fun pair => ⟨pair.2, some pair.1⟩ := by
      rw [List.map_flatMap]
      simp only [List.map_map, Function.comp_def]
    have hdistinct : OrderedSet.firstOccurrences Target.same []
          ((profiles.flatMap fun profile => l.parts.map (profile, ·)).map
            fun pair => ⟨pair.2, some pair.1⟩) =
        (OrderedSet.firstOccurrences sameProfiled []
          (profiles.flatMap fun profile => l.parts.map (profile, ·))).map
            fun pair => ⟨pair.2, some pair.1⟩ :=
      OrderedSet.firstOccurrences_map
        (fun a b => by simp [Target.same, sameProfiled, Bool.and_comm]) [] _
    have hparts : ∀ pair ∈ profiles.flatMap fun profile => l.parts.map (profile, ·),
        pair.2 ∈ l.parts := by
      intro pair hpair
      obtain ⟨profile, -, hpair⟩ := List.mem_flatMap.mp hpair
      obtain ⟨part, hpart, rfl⟩ := List.mem_map.mp hpair
      exact hpart
    have horigin : ∀ t ∈ (profiles.flatMap fun profile => l.parts.map (profile, ·)).map
        fun pair => (⟨pair.2, some pair.1⟩ : Target), t.location.origin = l.origin := by
      intro t ht
      obtain ⟨pair, hpair, rfl⟩ := List.mem_map.mp ht
      exact Location.origin_of_mem_parts (hparts pair hpair)
    rw [resolveProfiles, hpairs, resolveTargets_eq_ok_iff horigin, hdistinct]
    simp only [List.forall₂_map_left_iff]
    refine exists_congr fun lists => and_congr_left fun _ => ?_
    refine forall₂_congr_left fun pair hpair list => ?_
    have hmem : pair.2 ∈ l.parts := hparts pair (OrderedSet.mem_of_mem_firstOccurrences hpair)
    rw [← pass_of_parts (Location.parts_of_mem_parts hmem), pass]

end StandardResolver

end ConfigLocator

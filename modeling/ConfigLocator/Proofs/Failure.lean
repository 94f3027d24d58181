import ConfigLocator.Proofs.Passes
import ConfigLocator.Proofs.Refusal

/-!
# How a resolution fails

A resolution that fails names the location that it failed for. What goes wrong on the way is either a
fault of resolution that names its location already, or a failure of a loader or of the store, which
is kept as the cause (`Fault.RaisedFor`). What is no failure, such as a request to exit in the code of a
package, is not kept back and names nothing (`StandardResolver.not_always_fault_of_resolution`).

Many targets fail in two phases: all of them are listed before the store is asked anything, so a
target that cannot be listed ends the resolution whatever the store says about the others.
`StandardResolver.resolvePass_eq_error_iff` says which target it is, with the fault that the target
fails with alone. De-duplication does not get in the way: a target whose references were seen belongs
to one that has been resolved already.
-/

namespace ConfigLocator

/-- What a fault becomes when it ends the resolution of a location. -/
inductive Fault.RaisedFor (l : Location) : (original fault : Fault) → Prop
  | unknownExtension (file : Text) :
      RaisedFor l (.unknownExtension (some l) file) (.unknownExtension (some l) file)
  | locationNotFound (detail : Text) :
      RaisedFor l (.locationNotFound (some l) (some detail)) (.locationNotFound (some l) (some detail))
  | unresolvable {cause : Fault} (hcause : cause.isResolution = false)
      (hfailure : cause.isInterruption = false) :
      RaisedFor l cause (.unresolvable (some l) (some cause))
  | interruption (kind : Text) (detail : Option Text) :
      RaisedFor l (.interruption kind detail) (.interruption kind detail)

theorem Fault.raisedFor_wrap {l : Location} {cause : Fault} (h : cause.isResolution = false) :
    RaisedFor l cause (cause.wrap l) := by
  cases hfailure : cause.isInterruption with
  | false =>
      rw [wrap_of_not_isInterruption h hfailure]
      exact .unresolvable h hfailure
  | true =>
      cases cause <;> cases hfailure
      exact .interruption _ _

/-! ## Loaders that fail -/

/-- No loader fails with a fault of resolution. -/
def Loader.FailPlainly (loaders : List Loader) : Prop :=
  ∀ loader ∈ loaders, ∀ fault, loader.extensions = .error fault → fault.isResolution = false

theorem Loader.exists_of_candidates_eq_error {loaders : List Loader} {fault : Fault}
    (h : candidates loaders = .error fault) :
    ∃ loader ∈ loaders, loader.extensions = .error fault := by
  induction loaders with
  | nil => cases h
  | cons loader rest ih =>
      rcases bind_eq_error_iff.mp h with hloader | ⟨own, -, h⟩
      · exact ⟨loader, List.mem_cons_self, hloader⟩
      · rcases bind_eq_error_iff.mp h with hrest | ⟨later, -, h⟩
        · obtain ⟨other, hother, hfault⟩ := ih hrest
          exact ⟨other, List.mem_cons_of_mem loader hother, hfault⟩
        · cases h

theorem Loader.exists_of_findExtension?_eq_error {test : Text → Bool} {loaders : List Loader}
    {fault : Fault} (h : findExtension? test loaders = .error fault) :
    ∃ loader ∈ loaders, loader.extensions = .error fault := by
  induction loaders with
  | nil => cases h
  | cons loader rest ih =>
      rcases bind_eq_error_iff.mp h with hloader | ⟨own, -, h⟩
      · exact ⟨loader, List.mem_cons_self, hloader⟩
      · split at h
        · cases h
        · obtain ⟨other, hother, hfault⟩ := ih h
          exact ⟨other, List.mem_cons_of_mem loader hother, hfault⟩

namespace StandardResolver

variable {r : StandardResolver} {host : Host} {parent : Option Reference} {t : Target}
  {original fault : Fault}

/-! ## Steps and their own faults -/

/-- Lists the references of a target, with faults as they arise. -/
def listing (r : StandardResolver) (parent : Option Reference) (t : Target) :
    Except Fault References := do
  let text := resourceLocation parent t.location
  if Path.isDirectoryText text then
    r.directoryReferences t.location text t.profile
  else
    return .ofList [← r.fileReference t.location text t.profile]

theorem references_eq (r : StandardResolver) (parent : Option Reference) (t : Target) :
    r.references parent t = wrapFaults t.location (r.listing parent t) := rfl

/-- Asks the store for a reference, with faults as they arise. -/
def lookUp (r : StandardResolver) (host : Host) (x : Reference) : Except Fault (List Resource) :=
  Probe.outcome <|
    if isBeyondStore x then .skip x
    else if isPattern x.resourceLocation then r.probePattern host x
    else r.probeEntry host x

theorem outcome_probe (r : StandardResolver) (host : Host) (x : Reference) :
    (r.probe host x).outcome = wrapFaults x.location (r.lookUp host x) := rfl

/-- Looks for the placeholders of a reference, with faults as they arise. -/
def standIns (r : StandardResolver) (host : Host) (x : Reference) : Except Fault (List Resource) :=
  match x.directory with
  | none => .ok []
  | some directory =>
    if !isSupported directory then .ok []
    else if isPattern x.resourceLocation then r.patternPlaceholders host x directory
    else r.entryPlaceholder host x directory

theorem placeholders_eq (r : StandardResolver) (host : Host) (x : Reference) :
    r.placeholders host x = wrapFaults x.location (r.standIns host x) := by
  unfold placeholders standIns
  cases x.directory <;> rfl

/-- A step for a target fails with a fault of its own. -/
inductive Fails (r : StandardResolver) (host : Host) (parent : Option Reference) (t : Target)
    (original : Fault) : Prop
  | listing (h : r.listing parent t = .error original)
  | lookUp {refs : References} {x : Reference} (hrefs : r.references parent t = .ok refs)
      (hx : x ∈ refs.items) (h : r.lookUp host x = .error original)
  | standIns {refs : References} {x : Reference} (hrefs : r.references parent t = .ok refs)
      (hx : x ∈ refs.items) (h : r.standIns host x = .error original)

/-! ## Which faults arise -/

theorem raisedFor_of_listing (hloaders : Loader.FailPlainly r.loaders)
    (h : r.listing parent t = .error original) :
    Fault.RaisedFor t.location original (original.wrap t.location) := by
  unfold listing at h
  dsimp only at h
  split at h
  · cases hpairs : Loader.candidates r.loaders with
    | ok pairs =>
        obtain ⟨refs, hrefs, -⟩ := directoryReferences_eq hpairs
        rw [hrefs] at h
        cases h
    | error other =>
        by_cases hnames : r.names = []
        · rw [directoryReferences_nil hnames] at h
          cases h
        · rw [directoryReferences_error hpairs hnames] at h
          obtain rfl := Except.error.inj h
          obtain ⟨loader, hloader, hfault⟩ := Loader.exists_of_candidates_eq_error hpairs
          exact Fault.raisedFor_wrap (hloaders loader hloader _ hfault)
  · rcases bind_eq_error_iff.mp h with hfile | ⟨x, -, h⟩
    · rcases bind_eq_error_iff.mp hfile with hfind | ⟨found, -, hfile⟩
      · obtain ⟨loader, hloader, hfault⟩ := Loader.exists_of_findExtension?_eq_error hfind
        exact Fault.raisedFor_wrap (hloaders loader hloader _ hfault)
      · cases found with
        | none =>
            cases hfile
            exact .unknownExtension _
        | some pair => cases hfile
    · cases h

/-- The store refuses a question, or a pattern that may not be passed over stands for no files. -/
theorem lookUp_eq_error {x : Reference} (h : r.lookUp host x = .error original) :
    original.isResolution = false
      ∨ x.isSkippable = false
        ∧ ∃ detail, original = .locationNotFound (some x.location) (some detail) := by
  unfold lookUp at h
  split at h
  · cases h
  · split at h
    · rw [probePattern, Probe.outcome_bind] at h
      rcases bind_eq_error_iff.mp h with hexpand | ⟨handles, -, h⟩
      · exact Or.inl (Store.isResolution_of_expand hexpand)
      · split at h
        · rename_i hnone
          cases h
          exact Or.inr ⟨by simpa using (Bool.and_eq_true_iff.mp hnone).2, _, rfl⟩
        · cases h
    · rw [probeEntry] at h
      simp only [Probe.outcome_bind, Probe.outcome_ofExcept] at h
      rcases bind_eq_error_iff.mp h with hhandle | ⟨handle, -, h⟩
      · exact Or.inl (isResolution_of_storeFault hhandle)
      · rcases bind_eq_error_iff.mp h with hexists | ⟨isThere, -, h⟩
        · exact Or.inl (Handle.isResolution_of_exists? hexists)
        · split at h <;> cases h

theorem raisedFor_of_lookUp {x : Reference} (h : r.lookUp host x = .error original) :
    Fault.RaisedFor x.location original (original.wrap x.location) := by
  rcases lookUp_eq_error h with hrefused | ⟨-, detail, rfl⟩
  · exact Fault.raisedFor_wrap hrefused
  · exact .locationNotFound detail

/-- A directory is supported, and a pattern that stands for no subdirectories. -/
def LacksSubdirectories (r : StandardResolver) (host : Host) (directory : Text) : Prop :=
  isSupported directory = true ∧ r.store.expand host directory .directories = .ok []

/-- The store refuses a question, or a pattern stands for no subdirectories. -/
theorem standIns_eq_error {x : Reference} (h : r.standIns host x = .error original) :
    original.isResolution = false
      ∨ (∃ directory, x.directory = some directory ∧ r.LacksSubdirectories host directory)
        ∧ ∃ detail, original = .locationNotFound (some x.location) (some detail) := by
  unfold standIns at h
  split at h
  · cases h
  · rename_i directory hdirectory
    split at h
    · cases h
    · rename_i hsupported
      split at h
      · rcases bind_eq_error_iff.mp h with hexpand | ⟨handles, hhandles, h⟩
        · exact Or.inl (Store.isResolution_of_expand hexpand)
        · split at h
          · rename_i hnone
            cases h
            obtain rfl : handles = [] := by simpa using (Bool.and_eq_true_iff.mp hnone).2
            exact Or.inr ⟨⟨directory, hdirectory, by simpa using hsupported, hhandles⟩, _, rfl⟩
          · rw [filterM_eq_filter (Store.exists?_of_mem_expand hhandles)] at h
            cases h
      · rcases bind_eq_error_iff.mp h with hhandle | ⟨handle, -, h⟩
        · exact Or.inl (isResolution_of_storeFault hhandle)
        · cases handle with
          | package name path => cases h
          | file path =>
              rcases bind_eq_error_iff.mp h with hdirectory | ⟨isDirectory, -, h⟩
              · exact Or.inl (Handle.isResolution_of_isDirectory? hdirectory)
              · cases h

theorem raisedFor_of_standIns {x : Reference} (h : r.standIns host x = .error original) :
    Fault.RaisedFor x.location original (original.wrap x.location) := by
  rcases standIns_eq_error h with hrefused | ⟨-, detail, rfl⟩
  · exact Fault.raisedFor_wrap hrefused
  · exact .locationNotFound detail

/-- Whatever fails for a target is raised for the location of the target. -/
theorem Fails.raisedFor (hloaders : Loader.FailPlainly r.loaders)
    (h : r.Fails host parent t original) :
    Fault.RaisedFor t.location original (original.wrap t.location) := by
  cases h with
  | listing h => exact raisedFor_of_listing hloaders h
  | lookUp hrefs hx h =>
      rw [← (mem_references hrefs hx).1]
      exact raisedFor_of_lookUp h
  | standIns hrefs hx h =>
      rw [← (mem_references hrefs hx).1]
      exact raisedFor_of_standIns h

/-! ## A target alone -/

theorem resolveGroup_eq_error {group : List Reference} (h : r.resolveGroup host group = .error fault) :
    (∃ x ∈ group, (r.probe host x).outcome = .error fault)
      ∨ ∃ x ∈ group, r.placeholders host x = .error fault := by
  rcases bind_eq_error_iff.mp h with hcollect | ⟨found, -, h⟩
  · obtain ⟨x, hx⟩ := Probe.collect_eq_error_iff.mp hcollect
    exact Or.inl ⟨x, hx.mem, hx.eq_error⟩
  · split at h
    · rcases bind_eq_error_iff.mp h with hempty | ⟨empty, -, h⟩
      · obtain ⟨x, hx⟩ := groupPlaceholders_eq_error_iff.mp hempty
        exact Or.inr ⟨x, hx.mem, hx.eq_error⟩
      · cases h
    · cases h

theorem resolveGroup_nil : r.resolveGroup host [] = .ok [] := rfl

/-- A target that fails alone fails by one of its steps. -/
theorem exists_fails_of_resolveTargets
    (h : (r.resolveTargets host parent [t]).outcome = .error fault) :
    ∃ original, r.Fails host parent t original ∧ fault = original.wrap t.location := by
  cases hrefs : r.references parent t with
  | error other =>
      have hother : other = fault := Except.error.inj ((resolveTargets_of_error hrefs []).symm.trans h)
      rw [references_eq, wrapFaults_eq_error_iff] at hrefs
      obtain ⟨original, horiginal, hwrap⟩ := hrefs
      exact ⟨original, .listing horiginal, hother.symm.trans hwrap⟩
  | ok refs =>
      rw [resolveTargets_singleton hrefs] at h
      rcases resolveGroup_eq_error h with ⟨x, hx, hfault⟩ | ⟨x, hx, hfault⟩
      · rw [outcome_probe, wrapFaults_eq_error_iff, (mem_references hrefs hx).1] at hfault
        obtain ⟨original, horiginal, hwrap⟩ := hfault
        exact ⟨original, .lookUp hrefs hx horiginal, hwrap⟩
      · rw [placeholders_eq, wrapFaults_eq_error_iff, (mem_references hrefs hx).1] at hfault
        obtain ⟨original, horiginal, hwrap⟩ := hfault
        exact ⟨original, .standIns hrefs hx horiginal, hwrap⟩

/-! ## Many targets -/

/-- Listing fails at the first target that cannot be listed. -/
theorem referenceGroups_eq_error_iff {seen : References} {targets : List Target} :
    r.referenceGroups parent seen targets = .error fault ↔
      ∃ t, FirstFails (r.references parent) targets t fault := by
  induction targets generalizing seen with
  | nil => simp [referenceGroups, not_firstFails_nil]
  | cons t rest ih =>
      rw [referenceGroups, bind_eq_error_iff, exists_firstFails_cons_iff]
      refine or_congr Iff.rfl (exists_congr fun refs => and_congr_right fun _ => ?_)
      rw [← ih]
      exact bind_pure_eq_error_iff

theorem exists_referenceGroups_iff {seen : References} {targets : List Target} :
    (∃ groups, r.referenceGroups parent seen targets = .ok groups) ↔
      ∀ t ∈ targets, ∃ refs, r.references parent t = .ok refs := by
  induction targets generalizing seen with
  | nil => simp [referenceGroups]
  | cons t rest ih =>
      rw [List.forall_mem_cons]
      constructor
      · rintro ⟨groups, h⟩
        obtain ⟨refs, hrefs, later, hlater, -⟩ := referenceGroups_cons_eq_ok_iff.mp h
        exact ⟨⟨refs, hrefs⟩, ih.mp ⟨later, hlater⟩⟩
      · rintro ⟨⟨refs, hrefs⟩, hrest⟩
        obtain ⟨later, hlater⟩ := ih.mpr hrest
        exact ⟨_, referenceGroups_cons_eq_ok_iff.mpr ⟨refs, hrefs, later, hlater, rfl⟩⟩

/-- Groups fail at the first one that fails alone. -/
theorem resolveGroups_eq_error_iff {used : OrderedSet Resource (Resource.same host)}
    {groups : List (List Reference)} :
    (r.resolveGroups host used groups).outcome = .error fault ↔
      ∃ group, FirstFails (r.resolveGroup host) groups group fault := by
  induction groups generalizing used with
  | nil => simp [resolveGroups, not_firstFails_nil]
  | cons group rest ih =>
      have hlater : ∀ used' found,
          (r.resolveGroups host used' rest >>= fun later => pure (found ++ later)).outcome =
            .error fault ↔ ∃ group, FirstFails (r.resolveGroup host) rest group fault := by
        intro used' found
        rw [Probe.outcome_bind, ← @ih used']
        exact bind_pure_eq_error_iff
      rw [resolveGroups, Probe.outcome_bind, exists_firstFails_cons_iff]
      cases hcollect : (Probe.collect (r.probe host) group).outcome with
      | error other =>
          have hgroup : r.resolveGroup host group = .error other := by
            rw [resolveGroup, hcollect]
            rfl
          rw [hgroup]
          simp [bind, Except.bind]
      | ok found =>
          cases found with
          | cons x xs =>
              have hgroup : r.resolveGroup host group = .ok (x :: xs) := by
                rw [resolveGroup, hcollect]
                rfl
              rw [hgroup]
              simp only [reduceCtorEq, false_or, Except.ok.injEq, exists_eq_left']
              exact hlater used (x :: xs)
          | nil =>
              have hgroup : r.resolveGroup host group =
                  (r.groupPlaceholders host group >>= fun empty => pure empty.items) := by
                rw [resolveGroup, hcollect]
                rfl
              show (Probe.ofExcept (r.groupPlaceholders host group) >>= fun empty => _).outcome =
                _ ↔ _
              rw [hgroup, Probe.outcome_bind, Probe.outcome_ofExcept]
              cases r.groupPlaceholders host group with
              | error other => simp [bind, Except.bind]
              | ok empty =>
                  simp only [pure, Except.pure, bind, Except.bind, reduceCtorEq, false_or,
                    Except.ok.injEq, exists_eq_left']
                  exact hlater _ _

/-- The groups that are listed fail as their targets do alone. Of a target that came before nothing
is left, and it has been resolved. -/
theorem firstFails_listed_iff {origin : Option Text} {before targets : List Target}
    {seen : References} {groups : List (List Reference)} (hlisted : r.Listed parent before seen)
    (hbefore : ∀ t ∈ before, t.location.origin = origin)
    (htargets : ∀ t ∈ targets, t.location.origin = origin)
    (hdone : ∀ t ∈ before, ∃ found, (r.resolveTargets host parent [t]).outcome = .ok found)
    (hgroups : r.referenceGroups parent seen targets = .ok groups) :
    (∃ group, FirstFails (r.resolveGroup host) groups group fault) ↔
      ∃ t, FirstFails (fun t => (r.resolveTargets host parent [t]).outcome) targets t fault := by
  induction targets generalizing before seen groups with
  | nil =>
      cases hgroups
      simp [not_firstFails_nil]
  | cons t rest ih =>
      obtain ⟨ht, hrest⟩ := List.forall_mem_cons.mp htargets
      obtain ⟨refs, hrefs, later, hlater, rfl⟩ := referenceGroups_cons_eq_ok_iff.mp hgroups
      rw [exists_firstFails_cons_iff, exists_firstFails_cons_iff]
      by_cases hold : before.any (Target.same · t) = true
      · obtain ⟨t', ht', hsame⟩ := List.any_eq_true.mp hold
        obtain rfl := Target.eq_of_same ((hbefore t' ht').trans ht.symm) hsame
        obtain ⟨found, hfound⟩ := hdone t' ht'
        rw [hlisted.fresh_old ht' hrefs, resolveGroup_nil, hfound]
        simp only [reduceCtorEq, false_or, Except.ok.injEq, exists_eq_left']
        exact ih (hlisted.insert_old ht' hrefs) hbefore hrest hdone hlater
      · have hnew : before.any (Target.same · t) = false := by simpa using hold
        have hbefore' : ∀ u ∈ before ++ [t], u.location.origin = origin :=
          List.forall_mem_append.mpr ⟨hbefore, by simpa using ht⟩
        rw [hlisted.fresh_new hnew hrefs, ← resolveTargets_singleton hrefs]
        refine or_congr Iff.rfl (exists_congr fun found => and_congr_right fun hfound => ?_)
        have hdone' : ∀ u ∈ before ++ [t],
            ∃ found, (r.resolveTargets host parent [u]).outcome = .ok found :=
          List.forall_mem_append.mpr ⟨hdone, by simpa using ⟨found, hfound⟩⟩
        exact ih (hlisted.insert_new hrefs) hbefore' hrest hdone' hlater

/-- The target that a resolution ends at: the first one that cannot be listed or, when all of them
can, the first one that fails alone. -/
inductive EndsAt (r : StandardResolver) (host : Host) (parent : Option Reference)
    (targets : List Target) (t : Target) (fault : Fault) : Prop
  | listing (h : FirstFails (r.references parent) targets t fault)
  | probing (hlisted : ∀ u ∈ targets, ∃ refs, r.references parent u = .ok refs)
      (h : FirstFails (fun u => (r.resolveTargets host parent [u]).outcome) targets t fault)

theorem resolveTargets_eq_error_iff {origin : Option Text} {targets : List Target}
    (htargets : ∀ t ∈ targets, t.location.origin = origin) :
    (r.resolveTargets host parent targets).outcome = .error fault ↔
      ∃ t, r.EndsAt host parent targets t fault := by
  rw [resolveTargets, Probe.outcome_bind, Probe.outcome_ofExcept, bind_eq_error_iff]
  constructor
  · rintro (hlisting | ⟨groups, hgroups, h⟩)
    · obtain ⟨t, ht⟩ := referenceGroups_eq_error_iff.mp hlisting
      exact ⟨t, .listing ht⟩
    · obtain ⟨t, ht⟩ := (firstFails_listed_iff listed_nil (by simp) htargets (by simp) hgroups).mp
        (resolveGroups_eq_error_iff.mp h)
      exact ⟨t, .probing (exists_referenceGroups_iff.mp ⟨groups, hgroups⟩) ht⟩
  · rintro ⟨t, ht | ⟨hlisted, ht⟩⟩
    · exact Or.inl (referenceGroups_eq_error_iff.mpr ⟨t, ht⟩)
    · obtain ⟨groups, hgroups⟩ := exists_referenceGroups_iff.mpr hlisted
      refine Or.inr ⟨groups, hgroups, resolveGroups_eq_error_iff.mpr ?_⟩
      exact (firstFails_listed_iff listed_nil (by simp) htargets (by simp) hgroups).mpr ⟨t, ht⟩

/-- The target that a resolution ends at fails alone with the same fault. -/
theorem EndsAt.alone {targets : List Target} (h : r.EndsAt host parent targets t fault) :
    (r.resolveTargets host parent [t]).outcome = .error fault := by
  cases h with
  | probing _ h => exact h.eq_error
  | listing h => exact resolveTargets_of_error h.eq_error []

/-- A pass fails iff it ends at one of its targets. The fault names the location of the target: its
extension is unknown, it was not found, or a step for it failed otherwise, and then the fault of the
step is the cause. Only an interruption of a step is raised as it is. -/
theorem resolvePass_eq_error_iff (hloaders : Loader.FailPlainly r.loaders) (host : Host)
    (parent : Option Reference) (l : Location) (profiles : Option (List Text)) (fault : Fault) :
    (r.resolvePass host parent l profiles).outcome = .error fault ↔
      ∃ t original, r.EndsAt host parent (l.targets profiles) t fault
        ∧ r.Fails host parent t original ∧ Fault.RaisedFor t.location original fault := by
  rw [resolvePass_eq, resolveTargets_eq_error_iff fun t => Location.origin_of_mem_targets]
  constructor
  · rintro ⟨t, ht⟩
    obtain ⟨original, hfails, rfl⟩ := exists_fails_of_resolveTargets ht.alone
    exact ⟨t, original, ht, hfails, hfails.raisedFor hloaders⟩
  · rintro ⟨t, -, ht, -⟩
    exact ⟨t, ht⟩

/-! ## A loader that fails -/

/-- Knows one extension; behind it stands a loader that cannot be asked for its own. -/
def failingLoaders : List Loader :=
  [⟨1, "yaml", .ok ["yml"], fun _ _ _ => .ok []⟩,
    ⟨2, "broken", .error (.component "RuntimeError" none), fun _ _ _ => .ok []⟩]

theorem failPlainly_failingLoaders : Loader.FailPlainly failingLoaders := by
  intro loader hloader fault hfault
  simp only [failingLoaders, List.mem_cons, List.not_mem_nil, or_false] at hloader
  rcases hloader with rfl | rfl <;> cases hfault
  rfl

/-- The first part would not be found, but the second one cannot be listed, and ends the pass. -/
theorem resolvePass_failingLoaders :
    Loader.FailPlainly failingLoaders ∧ ∃ t original,
      EndsAt ⟨["application"], failingLoaders, {}⟩ emptyHost none
          (Location.targets ⟨"config/*/app.yml;config/", false, none⟩ none) t
          (.unresolvable (some ⟨"config/", false, none⟩) (some (.component "RuntimeError" none)))
        ∧ Fails ⟨["application"], failingLoaders, {}⟩ emptyHost none t original
        ∧ Fault.RaisedFor t.location original
          (.unresolvable (some ⟨"config/", false, none⟩) (some (.component "RuntimeError" none))) :=
  ⟨failPlainly_failingLoaders,
    (resolvePass_eq_error_iff failPlainly_failingLoaders emptyHost none
      ⟨"config/*/app.yml;config/", false, none⟩ none _).mp rfl⟩

/-- Every package asks to exit when it is imported. -/
def exitingHost : Host where
  tree := .empty
  workingDirectory := []
  environment := []
  imports := fun _ _ => .interruption "SystemExit" (some "2")

/-- A request to exit in the code of a package is no failure of resolution. -/
theorem not_always_fault_of_resolution :
    ¬∀ (r : StandardResolver) (host : Host) (parent : Option Reference) (l : Location)
      (profiles : Option (List Text)) (fault : Fault), Loader.FailPlainly r.loaders →
      (r.resolvePass host parent l profiles).outcome = .error fault → fault.isResolution = true := by
  intro hall
  have hplain : Loader.FailPlainly sampleResolver.loaders := by
    intro loader hloader fault hfault
    obtain rfl := List.mem_singleton.mp hloader
    cases hfault
  have hexit := hall sampleResolver exitingHost none ⟨"package:app/", false, none⟩ none
    (.interruption "SystemExit" (some "2")) hplain rfl
  cases hexit

end StandardResolver

end ConfigLocator

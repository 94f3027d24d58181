import ConfigLocator.Proofs.Composition
import ConfigLocator.Proofs.Refusal
import ConfigLocator.Proofs.Scheme

/-!
# Plain candidates

The candidates of a location without a wildcard are looked up one by one. If all of them may be
missing (`StandardResolver.PlainGroup`), what they come to together is known exactly
(`StandardResolver.groupResult`): the entries that are there, in order, or else a placeholder for the
directory in which they were guessed.

In the file system every question has an answer. In a package the store can refuse one
(`PackageRefusal`), and a refusal of a question that is asked ends the group, as a failure for the
location or as the interruption that it is (`Fault.wrap`):
`StandardResolver.PlainGroup.resolveGroup_of_answered` and
`StandardResolver.PlainGroup.resolveGroup_of_refused`.
-/

namespace ConfigLocator

/-! ## What stands at a location -/

namespace Store

/-- Whether something stands at a location; the question itself can be refused. -/
def isThere? (store : Store) (host : Host) (t : Text) : Except Fault Bool := do
  (← StandardResolver.storeFault (store.handle t)).exists? host

/-- The entry at a location. -/
def entry? (store : Store) (host : Host) (t : Text) : Option Handle :=
  match store.handle t with
  | .error _ => none
  | .ok h =>
    match h.exists? host with
    | .ok true => some h
    | _ => none

/-- The directory at a location of the file system. -/
def directory? (store : Store) (host : Host) (t : Text) : Option Handle :=
  match store.handle t with
  | .ok (.file path) =>
    if (host.lookup path).toOption.any Entry.isDirectory then some (.file path) else none
  | _ => none

variable {store : Store} {host : Host} {t : Text}

theorem isThere?_eq_ok {b : Bool} (h : store.isThere? host t = .ok b) :
    ∃ handle, store.handle t = .ok handle ∧ handle.exists? host = .ok b := by
  obtain ⟨handle, hhandle, hexists⟩ := bind_eq_ok_iff.mp h
  exact ⟨handle, StandardResolver.storeFault_eq_ok_iff.mp hhandle, hexists⟩

end Store

/-! ## Refused questions -/

namespace Store

variable {store : Store} {host : Host} {t : Text}

/-- A supported location without a wildcard names something unless it names no package. -/
theorem handle_cases (store : Store) (hpattern : isPattern t = false)
    (hsupported : isSupported t = true) :
    (∃ path, store.handle t = .ok (.file path))
      ∨ (∃ name path, name ≠ [] ∧ store.handle t = .ok (.package name path))
      ∨ Text.startsWith t packageScheme = true
        ∧ ∃ path, store.handle t = .error (.unnamedPackage path) := by
  cases hpackage : Text.startsWith t packageScheme with
  | false => exact Or.inl ⟨_, handle_eq_file hpattern hsupported hpackage⟩
  | true =>
      obtain ⟨path, rfl⟩ := Text.startsWith_iff.mp hpackage
      rw [handle, if_neg (by simp [hpattern]), if_neg (by simp [hsupported]), Text.dropLeading?_append]
      show _ ∨ (∃ name inside, name ≠ [] ∧ packageHandle path = _) ∨ _ ∧ ∃ other, packageHandle path = _
      rw [packageHandle]
      dsimp only
      split
      · exact Or.inr (Or.inr ⟨rfl, _, rfl⟩)
      · rename_i hname
        refine Or.inr (Or.inl ⟨_, _, fun hnil => hname ?_, rfl⟩)
        simp [hnil]

theorem packageRefusal_of_isThere? (hpattern : isPattern t = false) (hsupported : isSupported t = true)
    {fault : Fault} (h : store.isThere? host t = .error fault) : PackageRefusal host fault := by
  rcases handle_cases store hpattern hsupported with
    ⟨path, hhandle⟩ | ⟨name, path, hname, hhandle⟩ | ⟨-, path, hhandle⟩
  · rw [isThere?, hhandle] at h
    cases h
  · rw [isThere?, hhandle] at h
    rcases bind_eq_error_iff.mp (show (Handle.package name path).exists? host = _ from h) with
      hentry | ⟨entry, -, h⟩
    · exact Host.packageRefusal_of_packageEntry? hname hentry
    · cases h
  · rw [isThere?, hhandle] at h
    cases h
    exact .unnamed path

end Store

namespace StandardResolver

variable {r : StandardResolver} {host : Host} {l : Location}

/-! ## One candidate -/

section Candidate

variable {x : Reference}

/-- The store answers the question about a candidate, if it is asked. -/
def IsAnswered (r : StandardResolver) (host : Host) (x : Reference) : Prop :=
  isSupported x.resourceLocation = true → ∃ b, r.store.isThere? host x.resourceLocation = .ok b

/-- The entry of a candidate that is there. -/
def entryOf (r : StandardResolver) (host : Host) (x : Reference) : List Resource :=
  ((r.store.entry? host x.resourceLocation).map (⟨x, ·, false⟩)).toList

/-- What is found of a candidate is the entry at its text, which is there. -/
theorem of_mem_entryOf {y : Resource} (h : y ∈ r.entryOf host x) :
    y.reference = x ∧ y.isPlaceholder = false ∧ r.store.handle x.resourceLocation = .ok y.handle
      ∧ y.handle.exists? host = .ok true := by
  unfold entryOf Store.entry? at h
  split at h
  · cases h
  · rename_i handle hhandle
    split at h
    · rename_i hexists
      obtain rfl : y = ⟨x, handle, false⟩ := by simpa using h
      exact ⟨rfl, rfl, hhandle, hexists⟩
    · cases h

theorem entryOf_eq_nil_iff {b : Bool} (hb : r.store.isThere? host x.resourceLocation = .ok b) :
    r.entryOf host x = [] ↔ b = false := by
  obtain ⟨handle, hhandle, hexists⟩ := Store.isThere?_eq_ok hb
  rw [entryOf, Store.entry?, hhandle]
  dsimp only
  rw [hexists]
  cases b <;> simp

theorem probe_beyond (hoptional : x.location.isOptional = true)
    (hbeyond : isSupported x.resourceLocation = false) : (r.probe host x).outcome = .ok [] := by
  have hskipped : isBeyondStore x = true := by simp [isBeyondStore, hoptional, hbeyond]
  rw [probe, if_pos hskipped]
  rfl

theorem probe_of_isAnswered (hskip : x.isSkippable = true)
    (hoptional : isSupported x.resourceLocation = false → x.location.isOptional = true)
    (hpattern : isPattern x.resourceLocation = false) (h : r.IsAnswered host x) :
    (r.probe host x).outcome = .ok (r.entryOf host x) := by
  cases hsupported : isSupported x.resourceLocation with
  | true =>
      obtain ⟨b, hb⟩ := h hsupported
      obtain ⟨handle, hhandle, hexists⟩ := Store.isThere?_eq_ok hb
      have hbeyond : isBeyondStore x = false := by simp [isBeyondStore, hsupported]
      refine (probe_entry_eq_ok_iff hbeyond hpattern).mpr ⟨handle, b, hhandle, hexists, ?_⟩
      rw [hskip, entryOf, Store.entry?, hhandle]
      dsimp only
      rw [hexists]
      cases b <;> rfl
  | false =>
      have hrefused : r.store.handle x.resourceLocation = .error (.scheme x.resourceLocation) := by
        rw [Store.handle, if_neg (by simp [hpattern]), if_pos (by simp [hsupported])]
      rw [probe_beyond (hoptional hsupported) hsupported, entryOf, Store.entry?, hrefused]
      rfl

theorem probe_of_refused {fault : Fault} (hpattern : isPattern x.resourceLocation = false)
    (hsupported : isSupported x.resourceLocation = true)
    (h : r.store.isThere? host x.resourceLocation = .error fault) :
    (r.probe host x).outcome = .error (fault.wrap x.location) := by
  have hbeyond : isBeyondStore x = false := by simp [isBeyondStore, hsupported]
  have hprobe : (r.probeEntry host x).outcome = .error fault := by
    rw [probeEntry]
    simp only [Probe.outcome_bind, Probe.outcome_ofExcept]
    rcases bind_eq_error_iff.mp h with hhandle | ⟨handle, hhandle, hexists⟩
    · exact bind_eq_error_iff.mpr (Or.inl hhandle)
    · refine bind_eq_error_iff.mpr (Or.inr ⟨handle, hhandle, ?_⟩)
      exact bind_eq_error_iff.mpr (Or.inl hexists)
  rw [probe, Probe.outcome_wrap, if_neg (by simp [hbeyond]), if_neg (by simp [hpattern]), hprobe,
    wrapFaults]

theorem probe_of_not_isAnswered (hpattern : isPattern x.resourceLocation = false)
    (h : ¬r.IsAnswered host x) : ∃ cause, PackageRefusal host cause
      ∧ (r.probe host x).outcome = .error (cause.wrap x.location) := by
  obtain ⟨hsupported, hnone⟩ := Classical.not_imp.mp h
  cases hthere : r.store.isThere? host x.resourceLocation with
  | ok b => exact absurd ⟨b, hthere⟩ hnone
  | error cause =>
      exact ⟨cause, Store.packageRefusal_of_isThere? hpattern hsupported hthere,
        probe_of_refused hpattern hsupported hthere⟩

end Candidate

/-! ## The placeholder of a scanned directory -/

section Directory

variable {directory : Text} {group : List Reference}

theorem placeholders_of_handle {x : Reference} (hx : x.directory = some directory)
    (hsupported : isSupported directory = true) (hpattern : isPattern x.resourceLocation = false)
    {handle : Handle} (h : r.store.handle directory = .ok handle) :
    r.placeholders host x =
      .ok ((r.store.directory? host directory).map (⟨x, ·, true⟩)).toList := by
  rw [placeholders, hx]
  dsimp only
  rw [wrapFaults_eq_ok_iff, if_neg (by simp [hsupported]), if_neg (by simp [hpattern]),
    entryPlaceholder, Store.directory?, h]
  cases handle with
  | package name path => rfl
  | file path =>
      refine bind_eq_ok_iff.mpr ⟨.file path, rfl, bind_eq_ok_iff.mpr ⟨_, rfl, ?_⟩⟩
      dsimp only
      split <;> rfl

theorem placeholders_of_refused {x : Reference} (hx : x.directory = some directory)
    (hsupported : isSupported directory = true) (hpattern : isPattern x.resourceLocation = false)
    {fault : StoreFault} (h : r.store.handle directory = .error fault) :
    r.placeholders host x = .error (.unresolvable (some x.location) (some (.store fault))) := by
  rw [placeholders, hx]
  dsimp only
  rw [if_neg (by simp [hsupported]), if_neg (by simp [hpattern]), entryPlaceholder, h]
  rfl

/-- All references of a scan have one directory, so the first of them has the placeholder. -/
theorem groupPlaceholders_of_handle (hdirectory : ∀ x ∈ group, x.directory = some directory)
    (hsupported : isSupported directory = true)
    (hpattern : ∀ x ∈ group, isPattern x.resourceLocation = false)
    {handle : Handle} (h : r.store.handle directory = .ok handle) :
    ∃ empty, r.groupPlaceholders host group = .ok empty
      ∧ empty.items =
        (group.head?.bind fun x => (r.store.directory? host directory).map (⟨x, ·, true⟩)).toList := by
  refine ⟨_, OrderedSet.foldlM_insertMany id (fun x hx =>
    placeholders_of_handle (hdirectory x hx) hsupported (hpattern x hx) h) .empty, ?_⟩
  rw [← OrderedSet.ofList, OrderedSet.items_ofList]
  simp only [id]
  cases hplace : r.store.directory? host directory with
  | none =>
      have hnil : (group.flatMap fun x => (Option.map (⟨x, ·, true⟩ : Handle → Resource)
          none).toList) = [] := List.flatMap_eq_nil_iff.mpr fun x _ => rfl
      rw [hnil]
      cases group <;> rfl
  | some place =>
      cases group with
      | nil => rfl
      | cons x rest =>
          have hrest : (rest.flatMap fun y => (Option.map (⟨y, ·, true⟩ : Handle → Resource)
              (some place)).toList) = rest.map (⟨·, place, true⟩) := by
            simp [List.map_eq_flatMap]
          rw [List.flatMap_cons, hrest]
          show ⟨x, place, true⟩ :: OrderedSet.firstOccurrences (Resource.same host)
            [⟨x, place, true⟩] (rest.map (⟨·, place, true⟩)) = [⟨x, place, true⟩]
          rw [OrderedSet.firstOccurrences_eq_nil]
          intro y hy
          obtain ⟨z, -, rfl⟩ := List.mem_map.mp hy
          simp [Resource.same, Handle.same]

theorem groupPlaceholders_of_refused {x : Reference} {rest : List Reference}
    (hdirectory : x.directory = some directory) (hsupported : isSupported directory = true)
    (hpattern : isPattern x.resourceLocation = false) {fault : StoreFault}
    (h : r.store.handle directory = .error fault) :
    r.groupPlaceholders host (x :: rest) =
      .error (.unresolvable (some x.location) (some (.store fault))) := by
  rw [groupPlaceholders, List.foldlM_cons,
    placeholders_of_refused hdirectory hsupported hpattern h]
  rfl

end Directory

/-! ## A group -/

/-- Plain candidates of one location that may be missing, and which were named or guessed in one
directory. Those of a mandatory location can be looked up. -/
structure PlainGroup (l : Location) (directory : Option Text) (group : List Reference) : Prop where
  location : ∀ x ∈ group, x.location = l
  guessed : ∀ x ∈ group, x.directory = directory
  skippable : ∀ x ∈ group, x.isSkippable = true
  plain : ∀ x ∈ group, isPattern x.resourceLocation = false
  optional : ∀ x ∈ group, isSupported x.resourceLocation = false → l.isOptional = true
  plainDirectory : ∀ d ∈ directory, isPattern d = false
  supported : ∀ d ∈ directory, isSupported d = true

/-- The store refuses no question about the group: about a candidate, or about the directory when no
candidate is there. -/
def GroupAnswered (r : StandardResolver) (host : Host) (directory : Option Text)
    (group : List Reference) : Prop :=
  (∀ x ∈ group, r.IsAnswered host x)
    ∧ ∀ d ∈ directory, group ≠ [] → group.flatMap (r.entryOf host) = [] →
      ∃ handle, r.store.handle d = .ok handle

/-- The candidates that are there, or else a placeholder for the directory if that is. -/
def groupResult (r : StandardResolver) (host : Host) (directory : Option Text)
    (group : List Reference) : List Resource :=
  match group.flatMap (r.entryOf host) with
  | [] =>
    (group.head?.bind fun x =>
      (directory.bind (r.store.directory? host)).map (⟨x, ·, true⟩)).toList
  | found => found

section Group

variable {directory : Option Text} {group : List Reference} (h : PlainGroup l directory group)

include h

/-- Outside of packages the store answers everything. -/
theorem PlainGroup.answered_of_file (r : StandardResolver) (host : Host)
    (hfile : ∀ x ∈ group, Text.startsWith x.resourceLocation packageScheme = false)
    (hdirectory : ∀ d ∈ directory, Text.startsWith d packageScheme = false) :
    r.GroupAnswered host directory group := by
  refine ⟨fun x hx hsupported => ?_, fun d hd _ _ => ?_⟩
  · rw [Store.isThere?, Store.handle_eq_file (h.plain x hx) hsupported (hfile x hx)]
    exact ⟨_, rfl⟩
  · exact ⟨_, Store.handle_eq_file (h.plainDirectory d hd) (h.supported d hd) (hdirectory d hd)⟩

theorem PlainGroup.probe {x : Reference} (hx : x ∈ group) (hanswered : r.IsAnswered host x) :
    (r.probe host x).outcome = .ok (r.entryOf host x) := by
  refine probe_of_isAnswered (h.skippable x hx) ?_ (h.plain x hx) hanswered
  rw [h.location x hx]
  exact h.optional x hx

theorem PlainGroup.groupPlaceholders (r : StandardResolver) (host : Host)
    (hhandle : ∀ d ∈ directory, ∃ handle, r.store.handle d = .ok handle) :
    ∃ empty, r.groupPlaceholders host group = .ok empty
      ∧ empty.items = (group.head?.bind fun x =>
        (directory.bind (r.store.directory? host)).map (⟨x, ·, true⟩)).toList := by
  cases hdirectory : directory with
  | some d =>
      obtain ⟨handle, hhandle⟩ := hhandle d hdirectory
      exact groupPlaceholders_of_handle (fun x hx => (h.guessed x hx).trans hdirectory)
        (h.supported d hdirectory) h.plain hhandle
  | none =>
      have hnone : ∀ x ∈ group, r.placeholders host x = .ok [] := fun x hx => by
        rw [StandardResolver.placeholders, h.guessed x hx, hdirectory]
      obtain ⟨lists, hlists, hnil⟩ :=
        (exists_flatten_eq_nil_iff (R := fun x list => r.placeholders host x = .ok list)).mpr hnone
      refine ⟨_, groupPlaceholders_eq_ok_iff.mpr ⟨lists, hlists, rfl⟩, ?_⟩
      rw [← hnil]
      cases group <;> rfl

theorem PlainGroup.collect (hanswers : ∀ x ∈ group, r.IsAnswered host x) :
    (Probe.collect (r.probe host) group).outcome = .ok (group.flatMap (r.entryOf host)) :=
  Probe.collect_eq_flatMap fun x hx => h.probe hx (hanswers x hx)

theorem PlainGroup.resolveGroup_of_answered (hanswered : r.GroupAnswered host directory group) :
    r.resolveGroup host group = .ok (r.groupResult host directory group) := by
  obtain ⟨hanswers, hdirectory⟩ := hanswered
  rw [resolveGroup, h.collect hanswers, groupResult]
  cases hfound : group.flatMap (r.entryOf host) with
  | cons x rest => rfl
  | nil =>
      show (r.groupPlaceholders host group >>= fun empty => pure empty.items) = _
      rw [bind_eq_ok_iff]
      by_cases hnil : group = []
      · rw [hnil]
        exact ⟨.empty, rfl, rfl⟩
      · obtain ⟨empty, hempty, hitems⟩ :=
          h.groupPlaceholders r host fun d hd => hdirectory d hd hnil hfound
        exact ⟨empty, hempty, by rw [← hitems]; rfl⟩

/-- The first candidate that the store refuses a question about ends the group. -/
theorem PlainGroup.refused_of_collect {fault : Fault}
    (hcollect : (Probe.collect (r.probe host) group).outcome = .error fault) :
    ∃ cause, PackageRefusal host cause ∧ fault = cause.wrap l := by
  obtain ⟨x, hfails⟩ := Probe.collect_eq_error_iff.mp hcollect
  have hx : (r.probe host x).outcome = .error fault := hfails.eq_error
  by_cases hanswered : r.IsAnswered host x
  · rw [h.probe hfails.mem hanswered] at hx
    cases hx
  · obtain ⟨cause, hcause, hprobe⟩ := probe_of_not_isAnswered (h.plain x hfails.mem) hanswered
    rw [hprobe, h.location x hfails.mem] at hx
    exact ⟨cause, hcause, (Except.error.inj hx).symm⟩

theorem PlainGroup.answers_of_collect {found : List Resource}
    (hcollect : (Probe.collect (r.probe host) group).outcome = .ok found) :
    ∀ x ∈ group, r.IsAnswered host x := by
  intro x hx
  obtain ⟨list, hlist⟩ := Probe.exists_of_collect hcollect hx
  by_contra hanswered
  obtain ⟨cause, -, hprobe⟩ := probe_of_not_isAnswered (h.plain x hx) hanswered
  rw [hprobe] at hlist
  cases hlist

/-- The first question that is refused, or the one about the directory, ends the group. -/
theorem PlainGroup.resolveGroup_of_refused (hrefused : ¬r.GroupAnswered host directory group) :
    ∃ cause, PackageRefusal host cause ∧ r.resolveGroup host group = .error (cause.wrap l) := by
  rw [resolveGroup]
  cases hcollect : (Probe.collect (r.probe host) group).outcome with
  | error fault =>
      obtain ⟨cause, hcause, rfl⟩ := h.refused_of_collect hcollect
      exact ⟨cause, hcause, rfl⟩
  | ok found =>
      have hanswers := h.answers_of_collect hcollect
      have hdirectory : ¬∀ d ∈ directory, group ≠ [] → group.flatMap (r.entryOf host) = [] →
          ∃ handle, r.store.handle d = .ok handle := fun hsecond => hrefused ⟨hanswers, hsecond⟩
      simp only [not_forall, not_exists] at hdirectory
      obtain ⟨d, hd, hne, hfound, hhandle⟩ := hdirectory
      obtain ⟨x, rest, rfl⟩ := List.exists_cons_of_ne_nil hne
      rw [h.collect hanswers, hfound] at hcollect
      obtain rfl := Except.ok.inj hcollect
      rcases Store.handle_cases r.store (h.plainDirectory d hd) (h.supported d hd) with
        ⟨path, hpath⟩ | ⟨name, path, -, hpath⟩ | ⟨-, path, hpath⟩
      · exact absurd hpath (hhandle _)
      · exact absurd hpath (hhandle _)
      · refine ⟨_, .unnamed path, ?_⟩
        show (r.groupPlaceholders host (x :: rest) >>= fun empty => pure empty.items) = _
        rw [groupPlaceholders_of_refused ((h.guessed x List.mem_cons_self).trans hd) (h.supported d hd)
          (h.plain x List.mem_cons_self) hpath, h.location x List.mem_cons_self]
        rfl

end Group

end StandardResolver

end ConfigLocator

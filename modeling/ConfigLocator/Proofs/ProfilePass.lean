import ConfigLocator.Bootstrap
import ConfigLocator.Proofs.CandidateNames
import ConfigLocator.Proofs.Failure
import ConfigLocator.Proofs.NameOverride
import ConfigLocator.Proofs.PatternScan

/-!
# Optional locations for profiles

Config names are checked for wildcards when a resolver is built (`StandardResolver.IsBuilt`), profiles
are not checked. For profiles without a wildcard the candidates of an optional location without one
are plain entries (`StandardResolver.OptionalPart.plainGroup`), and the pass is known exactly: each
profile comes to the candidates that are there, or else to the placeholder of the directory. Nothing is
raised for what is missing. In packages the store can refuse a question (`PackageRefusal`), and one that
is asked and refused ends the pass.

A profile with a wildcard makes patterns of the candidates. The store takes a pattern only if its
wildcard ends a segment, so any other profile of this kind ends the pass with a fault
(`StandardResolver.OptionalPart.exists_fault_of_misplaced`), although the location is optional.
-/

namespace ConfigLocator

/-! ## What candidates are called -/

theorem isPattern_cons {c : Nat} {t : Text} (hc : wildcard ≠ c) :
    isPattern (c :: t) = false ↔ isPattern t = false := by
  simp [isPattern, hc]

theorem isPattern_profileSuffix {profile : Text} (h : isPattern profile = false) :
    isPattern (profileSuffix profile) = false := by
  unfold profileSuffix
  split
  · rfl
  · exact (isPattern_cons (by decide)).mpr h

/-! ### A wildcard at the end of a segment -/

theorem infix_of_append_right {c d : Nat} {s t : Text} (h : [c, d] <:+: s ++ t) (hs : c ∉ s) :
    [c, d] <:+: t := by
  obtain ⟨before, behind, heq⟩ := h
  rw [List.append_assoc] at heq
  rcases List.append_eq_append_iff.mp heq with ⟨rest, rfl, hrest⟩ | ⟨rest, rfl, rfl⟩
  · cases rest with
    | nil => exact ⟨[], behind, hrest⟩
    | cons first rest =>
        obtain ⟨rfl, -⟩ := List.cons.inj hrest
        exact absurd (by simp) hs
  · exact ⟨rest, behind, List.append_assoc ..⟩

theorem infix_of_append_left {c d : Nat} {s t : Text} (h : [c, d] <:+: s ++ t) (hc : c ∉ t)
    (hd : d ∉ t.head?) : [c, d] <:+: s := by
  obtain ⟨before, behind, heq⟩ := h
  rw [List.append_assoc] at heq
  rcases List.append_eq_append_iff.mp heq with ⟨rest, rfl, hrest⟩ | ⟨rest, rfl, rfl⟩
  · match rest with
    | [] =>
        obtain rfl : c :: d :: behind = t := hrest
        exact absurd List.mem_cons_self hc
    | [first] =>
        obtain ⟨-, rfl⟩ := List.cons.inj hrest
        exact absurd rfl hd
    | first :: second :: rest =>
        obtain ⟨rfl, htail⟩ := List.cons.inj hrest
        obtain ⟨rfl, -⟩ := List.cons.inj htail
        exact ⟨before, rest, by simp⟩
  · exact absurd (by simp) hc

theorem infix_of_infix_profileSuffix {profile : Text}
    (h : Store.wildcardSegment <:+: profileSuffix profile) : Store.wildcardSegment <:+: profile := by
  unfold profileSuffix at h
  split at h
  · cases List.eq_nil_of_infix_nil h
  · exact infix_of_append_right (s := [Reference.profileMark]) h (by decide)

/-- The parts of a hint are in the text. -/
theorem mem_of_splitHint? {file base extension : Text} (h : splitHint? file = some (base, extension))
    {c : Nat} (hc : c ∈ base ++ extension) : c ∈ file := by
  obtain ⟨ending, rfl, -⟩ := eq_of_splitHint? h
  simp only [List.mem_append, List.mem_cons] at hc ⊢
  tauto

namespace StandardResolver

variable {r : StandardResolver} {host : Host} {parent : Option Reference} {l : Location}

theorem mem_of_mem_namedFile {text : Text} {c : Nat} (hc : c ∈ namedFile text) : c ∈ text := by
  unfold namedFile at hc
  split at hc
  · rename_i hhint
    exact mem_of_splitHint? hhint hc
  · exact hc

/-- The pieces of a named file are cut out of its text, and a profile stands between them. -/
theorem of_fileReference {text : Text} {profile : Option Text} {x : Reference}
    (h : r.fileReference l text profile = .ok x) :
    r.fileReference l text none = .ok { x with profile := none }
      ∧ (isPattern text = false → isPattern x.root = false
        ∧ isPattern (extensionEnding x.extension) = false) := by
  rw [fileReference_eq] at h
  obtain ⟨found, hfound, h⟩ := bind_eq_ok_iff.mp h
  rcases found with _ | ⟨loader, e⟩
  · cases h
  · obtain rfl := Except.ok.inj h
    refine ⟨?_, fun hplain => ?_⟩
    · rw [fileReference_eq, hfound]
      rfl
    · have hfile : wildcard ∉ namedFile text := fun hmem => by
        have hin := List.contains_iff_mem.mpr (mem_of_mem_namedFile hmem)
        rw [show text.contains wildcard = false from hplain] at hin
        cases hin
      have hpart : ∀ t : Text, (∀ c ∈ t, c ∈ namedFile text) → isPattern t = false := by
        intro t ht
        rw [isPattern, ← Bool.not_eq_true, List.contains_iff_mem]
        exact fun hmem => hfile (ht _ hmem)
      refine ⟨hpart _ fun c hc => List.mem_of_mem_take hc, ?_⟩
      unfold readReference
      dsimp only
      split
      · rfl
      · refine (isPattern_cons (by decide)).mpr (hpart _ fun c hc => ?_)
        unfold lastPart at hc
        split at hc
        · exact hc
        · exact List.mem_of_mem_drop hc

/-! ## Optional locations -/

/-- The names of the resolver were checked when it was built. -/
def IsBuilt (r : StandardResolver) : Prop :=
  ∃ host binder, ofBinder host binder r.loaders r.store = .ok r

theorem IsBuilt.plainNames (h : r.IsBuilt) : ∀ name ∈ r.names, isPattern name = false := by
  obtain ⟨host, binder, h⟩ := h
  obtain ⟨names, hnames, h⟩ := bind_eq_ok_iff.mp h
  obtain rfl : names = r.names := congrArg StandardResolver.names (Except.ok.inj h)
  rw [Binder.configNames_eq, Binder.checkNames] at hnames
  split at hnames
  · cases hnames
  · rename_i hplain
    rw [← Except.ok.inj hnames]
    exact fun name hname => by simpa [isPattern] using List.find?_eq_none.mp hplain name hname

/-- One optional location that is supported and has no wildcard, a directory or a file of a known
extension. No extension of a loader has a wildcard. -/
structure OptionalPart (r : StandardResolver) (parent : Option Reference) (l : Location)
    (pairs : List (Loader × Text)) : Prop where
  single : l.parts = [l]
  optional : l.isOptional = true
  plain : isPattern (resourceLocation parent l) = false
  supported : isSupported (resourceLocation parent l) = true
  known : Path.isDirectoryText (resourceLocation parent l) = true
    ∨ ∃ x, r.fileReference l (resourceLocation parent l) none = .ok x
  candidates : Loader.candidates r.loaders = .ok pairs
  plainExtensions : ∀ pair ∈ pairs, isPattern pair.2 = false

/-- The directory that a text stands for. -/
def scannedDirectory? (text : Text) : Option Text :=
  if Path.isDirectoryText text then some text else none

/-- The candidates for a profile: those of a directory, or the file with the profile in its name. -/
def profileCandidates (r : StandardResolver) (pairs : List (Loader × Text)) (l : Location)
    (text profile : Text) : List Reference :=
  if Path.isDirectoryText text then r.scanList pairs l text (some profile)
  else (r.fileReference l text (some profile)).toOption.toList

/-- What a candidate for a profile is called. -/
inductive EntryFor (r : StandardResolver) (pairs : List (Loader × Text)) (l : Location)
    (text profile : Text) (x : Reference) : Prop
  | guessed {name : Text} {pair : Loader × Text} (hname : name ∈ r.names) (hpair : pair ∈ pairs)
      (hdirectory : Path.isDirectoryText text = true) (hguessed : x.directory = some text)
      (htext : x.resourceLocation = text ++ name ++ profileSuffix profile ++ Path.dot :: pair.2)
  | named {y : Reference} (hfile : r.fileReference l text none = .ok y)
      (hopen : Path.isDirectoryText text = false) (hnamed : x.directory = none)
      (htext : x.resourceLocation = y.root ++ profileSuffix profile ++ extensionEnding y.extension)

section Part

variable {pairs : List (Loader × Text)} {text profile : Text} {x : Reference}

theorem of_mem_profileCandidates (hx : x ∈ r.profileCandidates pairs l text profile) :
    x.location = l ∧ r.EntryFor pairs l text profile x := by
  unfold profileCandidates at hx
  split at hx
  · rename_i hdirectory
    obtain ⟨name, hname, pair, hpair, rfl⟩ := mem_scanList hx
    exact ⟨rfl, .guessed hname hpair hdirectory rfl (Reference.resourceLocation_eq _)⟩
  · rename_i hopen
    cases hfile : r.fileReference l text (some profile) with
    | error fault =>
        rw [hfile] at hx
        cases hx
    | ok y =>
        rw [hfile] at hx
        obtain rfl : x = y := by simpa [Except.toOption] using hx
        obtain ⟨hlocation, hnamed, hprofile⟩ := fileReference_eq_ok hfile
        have htext := x.resourceLocation_eq
        rw [hprofile] at htext
        exact ⟨hlocation, .named (of_fileReference hfile).1 (by simpa using hopen) hnamed htext⟩

/-- A candidate has a wildcard in its profile only. -/
theorem OptionalPart.exists_parts_of_entryFor (h : OptionalPart r parent l pairs) (hbuilt : r.IsBuilt)
    (hx : r.EntryFor pairs l (resourceLocation parent l) profile x) :
    ∃ head extension,
      x.resourceLocation = head ++ profileSuffix profile ++ extensionEnding extension
        ∧ isPattern head = false ∧ isPattern (extensionEnding extension) = false := by
  cases hx with
  | @guessed name pair hname hpair _ _ htext =>
      refine ⟨_, some pair.2, htext, ?_, ?_⟩
      · simp only [isPattern_append]
        exact ⟨h.plain, hbuilt.plainNames _ hname⟩
      · exact (isPattern_cons (c := Path.dot) (by decide)).mpr (h.plainExtensions _ hpair)
  | @named y hfile _ _ htext =>
      obtain ⟨hroot, hending⟩ := (of_fileReference hfile).2 h.plain
      exact ⟨y.root, y.extension, htext, hroot, hending⟩

theorem OptionalPart.isPattern_of_entryFor (h : OptionalPart r parent l pairs) (hbuilt : r.IsBuilt)
    (hplain : isPattern profile = false)
    (hx : r.EntryFor pairs l (resourceLocation parent l) profile x) :
    isPattern x.resourceLocation = false := by
  obtain ⟨head, extension, htext, hhead, hending⟩ := h.exists_parts_of_entryFor hbuilt hx
  rw [htext]
  simp only [isPattern_append]
  exact ⟨⟨hhead, isPattern_profileSuffix hplain⟩, hending⟩

/-- A candidate is a pattern that the store takes only if the wildcard ends a segment of the profile. -/
theorem OptionalPart.infix_of_checkPattern (h : OptionalPart r parent l pairs) (hbuilt : r.IsBuilt)
    (hx : r.EntryFor pairs l (resourceLocation parent l) profile x)
    (hcheck : Store.checkPattern .files x.resourceLocation = .ok ()) :
    Store.wildcardSegment <:+: profile := by
  obtain ⟨head, extension, htext, hhead, hending⟩ := h.exists_parts_of_entryFor hbuilt hx
  obtain ⟨-, -, -, hends⟩ := Store.checkPattern_eq_ok_iff.mp hcheck
  have hsegment : Store.wildcardSegment <:+: x.resourceLocation :=
    (Text.endsWith_iff.mp hends).isInfix.trans (Text.prefix_throughLast slash _).isInfix
  rw [htext] at hsegment
  have hfront := infix_of_append_left hsegment (by simpa [isPattern] using hending) fun hslash => by
    unfold extensionEnding at hslash
    split at hslash <;> cases hslash
  exact infix_of_infix_profileSuffix
    (infix_of_append_right hfront (by simpa [isPattern] using hhead))

theorem OptionalPart.plainGroup (h : OptionalPart r parent l pairs) (hbuilt : r.IsBuilt)
    (hplain : isPattern profile = false) :
    PlainGroup l (scannedDirectory? (resourceLocation parent l))
      (r.profileCandidates pairs l (resourceLocation parent l) profile) where
  location := fun _ hx => (of_mem_profileCandidates hx).1
  guessed := fun _ hx => by
    cases (of_mem_profileCandidates hx).2 with
    | guessed _ _ hdirectory hguessed _ => rw [hguessed, scannedDirectory?, if_pos hdirectory]
    | named _ hopen hnamed _ => rw [hnamed, scannedDirectory?, if_neg (by simp [hopen])]
  skippable := fun _ hx => by
    simp [Reference.isSkippable, (of_mem_profileCandidates hx).1, h.optional]
  plain := fun _ hx => h.isPattern_of_entryFor hbuilt hplain (of_mem_profileCandidates hx).2
  optional := fun _ _ _ => h.optional
  plainDirectory := fun d hd => by
    unfold scannedDirectory? at hd
    split at hd <;> cases hd
    exact h.plain
  supported := fun d hd => by
    unfold scannedDirectory? at hd
    split at hd <;> cases hd
    exact h.supported

/-- The candidates of a target are those for its profile. -/
theorem OptionalPart.references (h : OptionalPart r parent l pairs) (profile : Text) :
    ∃ refs, r.references parent ⟨l, some profile⟩ = .ok refs
      ∧ refs.items = r.profileCandidates pairs l (resourceLocation parent l) profile := by
  unfold profileCandidates
  cases hdirectory : Path.isDirectoryText (resourceLocation parent l) with
  | true =>
      obtain ⟨refs, hrefs, hitems⟩ : ∃ refs,
          r.directoryReferences l (resourceLocation parent l) (some profile) = .ok refs
            ∧ refs.items = r.scanList pairs l (resourceLocation parent l) (some profile) :=
        directoryReferences_eq h.candidates
      refine ⟨refs, ?_, hitems⟩
      rw [StandardResolver.references, wrapFaults_eq_ok_iff]
      show (if Path.isDirectoryText (resourceLocation parent l) = true then _ else _) = _
      rw [if_pos hdirectory]
      exact hrefs
  | false =>
      obtain ⟨x, hx⟩ := h.known.resolve_left (by simp [hdirectory])
      obtain ⟨y, hy⟩ := exists_fileReference hx (some profile)
      refine ⟨.ofList [y], ?_, by rw [hy]; rfl⟩
      rw [StandardResolver.references, wrapFaults_eq_ok_iff]
      show (if Path.isDirectoryText (resourceLocation parent l) = true then _ else _) = _
      rw [if_neg (by simp [hdirectory]), hy]
      rfl

/-! ## Outside of packages -/

theorem OptionalPart.groupAnswered_of_file (h : OptionalPart r parent l pairs) (hbuilt : r.IsBuilt)
    (host : Host) (hplain : isPattern profile = false)
    (hfile : Text.startsWith (resourceLocation parent l) packageScheme = false) :
    r.GroupAnswered host (scannedDirectory? (resourceLocation parent l))
      (r.profileCandidates pairs l (resourceLocation parent l) profile) := by
  refine (h.plainGroup hbuilt hplain).answered_of_file r host (fun x hx => ?_) fun d hd => ?_
  · obtain ⟨refs, hrefs, hitems⟩ := h.references profile
    rw [← Bool.not_eq_true] at hfile ⊢
    exact mt (startsWith_of_mem_references hrefs (hitems ▸ hx)) hfile
  · unfold scannedDirectory? at hd
    split at hd <;> cases hd
    exact hfile

end Part

/-! ## The pass -/

section Pass

variable {pairs : List (Loader × Text)} {profiles : List Text}

theorem OptionalPart.resolveProfiles_eq (h : OptionalPart r parent l pairs) (host : Host)
    (profiles : List Text) : r.resolveProfiles host parent l profiles =
      r.resolveTargets host parent (profiles.map fun profile => ⟨l, some profile⟩) := by
  rw [StandardResolver.resolveProfiles, h.single]
  simp only [List.map_eq_flatMap, List.flatMap_singleton]

theorem origin_of_mem_profiles {t : Target}
    (ht : t ∈ profiles.map fun profile => (⟨l, some profile⟩ : Target)) :
    t.location.origin = l.origin := by
  obtain ⟨profile, -, rfl⟩ := List.mem_map.mp ht
  rfl

/-- One location has a target for each distinct profile. -/
theorem firstOccurrences_profiles (l : Location) (profiles : List Text) :
    OrderedSet.firstOccurrences Target.same [] (profiles.map fun profile => ⟨l, some profile⟩) =
      (OrderedSet.firstOccurrences (· == ·) [] profiles).map fun profile => ⟨l, some profile⟩ :=
  OrderedSet.firstOccurrences_map (fun a b => by simp [Target.same, Location.same_refl]) [] profiles

theorem OptionalPart.alone (h : OptionalPart r parent l pairs) (host : Host) (profile : Text) :
    (r.resolveTargets host parent [⟨l, some profile⟩]).outcome =
      r.resolveGroup host (r.profileCandidates pairs l (resourceLocation parent l) profile) := by
  obtain ⟨refs, hrefs, hitems⟩ := h.references profile
  rw [resolveTargets_singleton hrefs, hitems]

/-- The store refuses no question for any of the profiles. -/
def PassAnswered (r : StandardResolver) (host : Host) (pairs : List (Loader × Text)) (l : Location)
    (text : Text) (profiles : List Text) : Prop :=
  ∀ profile ∈ profiles,
    r.GroupAnswered host (scannedDirectory? text) (r.profileCandidates pairs l text profile)

/-- What the pass comes to: the distinct profiles in order, each with its entries or a placeholder, of
which the first stays. -/
def passResult (r : StandardResolver) (host : Host) (pairs : List (Loader × Text)) (l : Location)
    (text : Text) (profiles : List Text) : List Resource :=
  Resource.withoutRepeats host [] <|
    (OrderedSet.firstOccurrences (· == ·) [] profiles).flatMap fun profile =>
      r.groupResult host (scannedDirectory? text) (r.profileCandidates pairs l text profile)

/-- In a pass that returns every profile does. -/
theorem OptionalPart.exists_part_of_ok (h : OptionalPart r parent l pairs) {found : List Resource}
    (hfound : (r.resolveProfiles host parent l profiles).outcome = .ok found) {profile : Text}
    (hprofile : profile ∈ profiles) :
    ∃ part, r.resolveGroup host (r.profileCandidates pairs l (resourceLocation parent l) profile) =
      .ok part := by
  rw [h.resolveProfiles_eq, resolveTargets_eq_ok_iff fun t => origin_of_mem_profiles,
    firstOccurrences_profiles] at hfound
  obtain ⟨parts, hparts, -⟩ := hfound
  rw [List.forall₂_map_left_iff] at hparts
  obtain ⟨first, hfirst, hsame⟩ :
      ∃ first ∈ OrderedSet.firstOccurrences (· == ·) [] profiles, (first == profile) = true :=
    OrderedSet.exists_mem_firstOccurrences (by simp) (by simp) hprofile
  obtain rfl := beq_iff_eq.mp hsame
  obtain ⟨part, -, hpart⟩ := exists_of_mem_results hparts.flip hfirst
  exact ⟨part, h.alone host first ▸ hpart⟩

/-- A wildcard elsewhere in a profile makes a pattern that the store refuses. -/
theorem OptionalPart.exists_fault_of_misplaced (h : OptionalPart r parent l pairs) (hbuilt : r.IsBuilt)
    {profile : Text} (hprofile : profile ∈ profiles) (hpattern : isPattern profile = true)
    (hmisplaced : ¬Store.wildcardSegment <:+: profile) {x : Reference}
    (hx : x ∈ r.profileCandidates pairs l (resourceLocation parent l) profile)
    (hsupported : isSupported x.resourceLocation = true) :
    ∃ fault, (r.resolveProfiles host parent l profiles).outcome = .error fault := by
  obtain ⟨-, hentry⟩ := of_mem_profileCandidates hx
  cases houtcome : (r.resolveProfiles host parent l profiles).outcome with
  | error fault => exact ⟨fault, rfl⟩
  | ok found =>
      obtain ⟨part, hpart⟩ := h.exists_part_of_ok houtcome hprofile
      obtain ⟨all, hall, -⟩ := bind_eq_ok_iff.mp hpart
      obtain ⟨list, hlist⟩ := Probe.exists_of_collect hall hx
      obtain ⟨head, extension, htext, -, -⟩ := h.exists_parts_of_entryFor hbuilt hentry
      have hwildcard : isPattern x.resourceLocation = true := by
        have hmem : wildcard ∈ profile := by simpa [isPattern] using hpattern
        have hsuffix : wildcard ∈ profileSuffix profile := by
          rw [profileSuffix, if_neg (List.ne_nil_of_mem hmem)]
          exact List.mem_cons_of_mem _ hmem
        simp [isPattern, htext, hsuffix]
      have hbeyond : isBeyondStore x = false := by simp [isBeyondStore, hsupported]
      obtain ⟨handles, hhandles, -⟩ := (probe_pattern_eq_ok_iff hbeyond hwildcard).mp hlist
      exact absurd (h.infix_of_checkPattern hbuilt hentry (Store.checkPattern_of_expand hhandles))
        hmisplaced

section Plain

variable (h : OptionalPart r parent l pairs) (hbuilt : r.IsBuilt)
  (hplain : ∀ profile ∈ profiles, isPattern profile = false)

include h hbuilt hplain

theorem OptionalPart.outcome_of_answered
    (hanswered : r.PassAnswered host pairs l (resourceLocation parent l) profiles) :
    (r.resolveProfiles host parent l profiles).outcome =
      .ok (r.passResult host pairs l (resourceLocation parent l) profiles) := by
  rw [h.resolveProfiles_eq, resolveTargets_eq_ok_iff fun t => origin_of_mem_profiles,
    firstOccurrences_profiles]
  refine ⟨(OrderedSet.firstOccurrences (· == ·) [] profiles).map fun profile =>
    r.groupResult host (scannedDirectory? (resourceLocation parent l))
      (r.profileCandidates pairs l (resourceLocation parent l) profile), ?_, by
      rw [passResult, List.flatMap_def]⟩
  rw [List.forall₂_map_left_iff, List.forall₂_map_right_iff, List.forall₂_same]
  intro profile hprofile
  have hmem := OrderedSet.mem_of_mem_firstOccurrences hprofile
  rw [h.alone]
  exact (h.plainGroup hbuilt (hplain profile hmem)).resolveGroup_of_answered
    (hanswered profile hmem)

/-- A profile for which nothing is refused comes to a list by itself. -/
theorem OptionalPart.refused_of_error {profile : Text} (hprofile : profile ∈ profiles) {fault : Fault}
    (hfault : (r.resolveTargets host parent [⟨l, some profile⟩]).outcome = .error fault) :
    ∃ cause, PackageRefusal host cause ∧ fault = cause.wrap l := by
  have hgroup := h.plainGroup hbuilt (hplain profile hprofile)
  rw [h.alone] at hfault
  by_cases hanswered : r.GroupAnswered host (scannedDirectory? (resourceLocation parent l))
      (r.profileCandidates pairs l (resourceLocation parent l) profile)
  · rw [hgroup.resolveGroup_of_answered hanswered] at hfault
    cases hfault
  · obtain ⟨cause, hcause, hrefused⟩ := hgroup.resolveGroup_of_refused hanswered
    exact ⟨cause, hcause, Except.error.inj (hfault.symm.trans hrefused)⟩

theorem OptionalPart.answered_of_ok {found : List Resource}
    (hfound : (r.resolveProfiles host parent l profiles).outcome = .ok found) :
    r.PassAnswered host pairs l (resourceLocation parent l) profiles := by
  intro profile hprofile
  obtain ⟨part, hpart⟩ := h.exists_part_of_ok hfound hprofile
  by_contra hrefused
  obtain ⟨cause, -, hgroup⟩ :=
    (h.plainGroup hbuilt (hplain profile hprofile)).resolveGroup_of_refused hrefused
  rw [hgroup] at hpart
  cases hpart

theorem OptionalPart.outcome_of_refused
    (hrefused : ¬r.PassAnswered host pairs l (resourceLocation parent l) profiles) :
    ∃ cause, PackageRefusal host cause
      ∧ (r.resolveProfiles host parent l profiles).outcome = .error (cause.wrap l) := by
  cases houtcome : (r.resolveProfiles host parent l profiles).outcome with
  | ok found => exact absurd (h.answered_of_ok hbuilt hplain houtcome) hrefused
  | error fault =>
      rw [h.resolveProfiles_eq, resolveTargets_eq_error_iff fun t => origin_of_mem_profiles] at houtcome
      obtain ⟨t, hends⟩ := houtcome
      have ht : t ∈ profiles.map fun profile => (⟨l, some profile⟩ : Target) := by
        cases hends with
        | listing hfails => exact hfails.mem
        | probing _ hfails => exact hfails.mem
      obtain ⟨profile, hprofile, rfl⟩ := List.mem_map.mp ht
      obtain ⟨cause, hcause, rfl⟩ := h.refused_of_error hbuilt hplain hprofile hends.alone
      exact ⟨cause, hcause, rfl⟩

/-- What is returned and no placeholder is the entry of a candidate, which is there. -/
theorem OptionalPart.of_mem_found {found : List Resource}
    (hfound : (r.resolveProfiles host parent l profiles).outcome = .ok found) {x : Resource}
    (hx : x ∈ found) (hfile : x.isPlaceholder = false) :
    ∃ profile ∈ profiles,
      x.reference ∈ r.profileCandidates pairs l (resourceLocation parent l) profile
        ∧ r.store.handle x.reference.resourceLocation = .ok x.handle
        ∧ x.handle.exists? host = .ok true := by
  have hanswered := h.answered_of_ok hbuilt hplain hfound
  rw [h.resolveProfiles_eq] at hfound
  obtain ⟨t, ht, hfor⟩ := foundFor_of_mem_resolveTargets hfound hx
  obtain ⟨profile, hprofile, rfl⟩ := List.mem_map.mp ht
  cases hfor with
  | placeholder _ _ hplaceholder _ _ =>
      rw [hfile] at hplaceholder
      cases hplaceholder
  | probed hrefs hreference _ hlist hin =>
      obtain ⟨refs, hrefs', hitems⟩ := h.references profile
      obtain rfl := Except.ok.inj (hrefs.symm.trans hrefs')
      rw [hitems] at hreference
      rw [(h.plainGroup hbuilt (hplain profile hprofile)).probe hreference
        ((hanswered profile hprofile).1 _ hreference)] at hlist
      obtain rfl := Except.ok.inj hlist
      exact ⟨profile, hprofile, hreference, (of_mem_entryOf hin).2.2⟩

end Plain

end Pass

/-! ## An optional directory -/

theorem isBuilt_sampleResolver : sampleResolver.IsBuilt :=
  ⟨emptyHost, Binder.empty, rfl⟩

/-- The one candidate pair of `sampleResolver`. -/
def samplePairs : List (Loader × Text) := [(⟨1, "yaml", .ok ["yml"], fun _ _ _ => .ok []⟩, "yml")]

theorem optionalPart_directory {text : Text} (hsingle : (⟨text, true, none⟩ : Location).parts =
      [⟨text, true, none⟩]) (hplain : isPattern (resourceLocation none ⟨text, true, none⟩) = false)
    (hsupported : isSupported (resourceLocation none ⟨text, true, none⟩) = true)
    (hdirectory : Path.isDirectoryText (resourceLocation none ⟨text, true, none⟩) = true) :
    OptionalPart sampleResolver none ⟨text, true, none⟩ samplePairs where
  single := hsingle
  optional := rfl
  plain := hplain
  supported := hsupported
  known := Or.inl hdirectory
  candidates := rfl
  plainExtensions := by decide

theorem optionalPart_config : OptionalPart sampleResolver none ⟨"config/a/", true, none⟩ samplePairs :=
  optionalPart_directory (by decide) (by decide) (by decide) (by decide)

end StandardResolver

end ConfigLocator

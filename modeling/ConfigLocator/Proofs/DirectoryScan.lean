import ConfigLocator.Proofs.PlainGroups

/-!
# Scanning a directory

A directory without wildcards is scanned for every name with every extension. The result is known
exactly (`StandardResolver.scanResult`): the candidates that are there, names in order and in each
the pairs in order of `precedence`, or else one placeholder for the directory.

`StandardResolver.pass_plain_directory` says when that is what resolution returns. In the file system
every question has an answer, so it always is. In a package the store can refuse a question
(`PackageRefusal`), and if it refuses one that is asked (`Answered`), resolution fails with a fault
that names the location, unless an interruption passes.
-/

namespace ConfigLocator

namespace StandardResolver

/-! ## What a scan comes to -/

/-- The entry for a name, a profile and an extension in a directory. -/
def entryText (directory name : Text) (profile : Option Text) (extension : Text) : Text :=
  match profile with
  | none => directory ++ name ++ Path.dot :: extension
  | some p => directory ++ name ++ Reference.profileMark :: p ++ Path.dot :: extension

/-- A resource for every name and pair whose entry is there. -/
def scanFound (r : StandardResolver) (host : Host) (pairs : List (Loader × Text)) (l : Location)
    (directory : Text) (profile : Option Text) : List Resource :=
  (OrderedSet.firstOccurrences (· == ·) [] r.names).flatMap fun name =>
    (precedence pairs).filterMap fun pair =>
      (r.store.entry? host (entryText directory name profile pair.2)).map
        (⟨candidate l directory profile name pair, ·, false⟩)

/-- What is found, or else a placeholder for the directory if it is there and any candidate was
built. -/
def scanResult (r : StandardResolver) (host : Host) (pairs : List (Loader × Text)) (l : Location)
    (directory : Text) (profile : Option Text) : List Resource :=
  match r.scanFound host pairs l directory profile with
  | [] =>
    ((r.scanList pairs l directory profile).head?.bind fun x =>
      (r.store.directory? host directory).map (⟨x, ·, true⟩)).toList
  | found => found

/-- The store refuses no question that is asked: about each candidate, and about the directory when
no candidate is there. -/
def Answered (r : StandardResolver) (host : Host) (group : List Reference) (directory : Text) :
    Prop :=
  (∀ x ∈ group, ∃ b, r.store.isThere? host x.resourceLocation = .ok b)
    ∧ (group ≠ [] → (∀ x ∈ group, r.store.isThere? host x.resourceLocation = .ok false) →
      ∃ handle, r.store.handle directory = .ok handle)

/-- A location that scans one supported directory, without a wildcard anywhere. -/
structure PlainDirectory (r : StandardResolver) (parent : Option Reference) (l : Location)
    (pairs : List (Loader × Text)) : Prop where
  single : l.parts = [l]
  isDirectory : Path.isDirectoryText (resourceLocation parent l) = true
  supported : isSupported (resourceLocation parent l) = true
  plain : isPattern (resourceLocation parent l) = false
  plainNames : ∀ name ∈ r.names, isPattern name = false
  candidates : Loader.candidates r.loaders = .ok pairs
  plainExtensions : ∀ pair ∈ pairs, isPattern pair.2 = false

variable {r : StandardResolver} {host : Host} {parent : Option Reference}

/-! ## Scanning -/

section Scan

variable {l : Location} {pairs : List (Loader × Text)} {profile : Option Text}

theorem candidate_resourceLocation (hprofile : profile ≠ some []) (directory name : Text)
    (pair : Loader × Text) :
    (candidate l directory profile name pair).resourceLocation =
      entryText directory name profile pair.2 := by
  match profile with
  | none => simp [Reference.resourceLocation, candidate, entryText]
  | some [] => exact absurd rfl hprofile
  | some (c :: p) => rfl

/-- What every candidate of a scan is. -/
theorem mem_scanList {directory : Text} {x : Reference}
    (hx : x ∈ r.scanList pairs l directory profile) :
    ∃ name ∈ r.names, ∃ pair ∈ pairs, x = candidate l directory profile name pair := by
  obtain ⟨name, hname, hx⟩ := List.mem_flatMap.mp hx
  obtain ⟨pair, hpair, rfl⟩ := List.mem_map.mp hx
  exact ⟨name, OrderedSet.mem_of_mem_firstOccurrences hname, pair,
    OrderedSet.mem_of_mem_firstOccurrences (List.mem_reverse.mp hpair), rfl⟩

theorem entryText_eq_append (directory name : Text) (profile : Option Text) (extension : Text) :
    ∃ more, entryText directory name profile extension = directory ++ more := by
  cases profile with
  | none => exact ⟨_, List.append_assoc ..⟩
  | some p =>
      rw [entryText, List.append_assoc, List.append_assoc]
      exact ⟨_, rfl⟩

/-- Candidates in a plain directory stand behind it, have no wildcard and may be missing. -/
theorem PlainDirectory.candidate_of_mem (h : PlainDirectory r parent l pairs)
    (hprofile : profile ≠ some []) (hplain : ∀ p, profile = some p → isPattern p = false)
    {x : Reference} (hx : x ∈ r.scanList pairs l (resourceLocation parent l) profile) :
    x.location = l ∧ x.directory = some (resourceLocation parent l) ∧ x.isSkippable = true
      ∧ isPattern x.resourceLocation = false
      ∧ ∃ more, x.resourceLocation = resourceLocation parent l ++ more := by
  obtain ⟨name, hname, pair, hpair, rfl⟩ := mem_scanList hx
  have hskip : (candidate l (resourceLocation parent l) profile name pair).isSkippable = true := by
    simp [Reference.isSkippable, candidate]
  have hdot : isPattern (Path.dot :: pair.2) = false := by
    have hne : wildcard ≠ Path.dot := by decide
    simpa [isPattern, hne] using h.plainExtensions pair hpair
  rw [candidate_resourceLocation hprofile]
  refine ⟨rfl, rfl, hskip, ?_, entryText_eq_append ..⟩
  cases profile with
  | none =>
      simp only [entryText, isPattern_append]
      exact ⟨⟨h.plain, h.plainNames name hname⟩, hdot⟩
  | some p =>
      have hmark : isPattern (Reference.profileMark :: p) = false := by
        have hne : wildcard ≠ Reference.profileMark := by decide
        simpa [isPattern, hne] using hplain p rfl
      simp only [entryText, isPattern_append]
      exact ⟨⟨⟨h.plain, h.plainNames name hname⟩, hmark⟩, hdot⟩

theorem PlainDirectory.supported_of_mem (h : PlainDirectory r parent l pairs)
    (hprofile : profile ≠ some []) (hplain : ∀ p, profile = some p → isPattern p = false)
    {x : Reference} (hx : x ∈ r.scanList pairs l (resourceLocation parent l) profile) :
    isSupported x.resourceLocation = true := by
  obtain ⟨-, -, -, -, more, hmore⟩ := h.candidate_of_mem hprofile hplain hx
  rw [hmore]
  exact isSupported_append (Text.mem_of_endsWith h.isDirectory) h.supported more

theorem PlainDirectory.plainGroup (h : PlainDirectory r parent l pairs)
    (hprofile : profile ≠ some []) (hplain : ∀ p, profile = some p → isPattern p = false) :
    PlainGroup l (some (resourceLocation parent l))
      (r.scanList pairs l (resourceLocation parent l) profile) where
  location := fun _ hx => (h.candidate_of_mem hprofile hplain hx).1
  guessed := fun _ hx => (h.candidate_of_mem hprofile hplain hx).2.1
  skippable := fun _ hx => (h.candidate_of_mem hprofile hplain hx).2.2.1
  plain := fun _ hx => (h.candidate_of_mem hprofile hplain hx).2.2.2.1
  optional := fun _ hx hbeyond => by
    rw [h.supported_of_mem hprofile hplain hx] at hbeyond
    cases hbeyond
  plainDirectory := fun _ hd => Option.some.inj hd ▸ h.plain
  supported := fun _ hd => Option.some.inj hd ▸ h.supported

theorem scanFound_eq (hprofile : profile ≠ some []) (directory : Text) :
    r.scanFound host pairs l directory profile =
      (r.scanList pairs l directory profile).flatMap (r.entryOf host) := by
  rw [scanFound, scanList, List.flatMap_assoc]
  refine List.flatMap_congr fun name _ => ?_
  rw [List.flatMap_map, List.filterMap_eq_flatMap_toList]
  refine List.flatMap_congr fun pair _ => ?_
  rw [entryOf, candidate_resourceLocation hprofile]

theorem scanResult_eq (hprofile : profile ≠ some []) (directory : Text) :
    r.scanResult host pairs l directory profile =
      r.groupResult host (some directory) (r.scanList pairs l directory profile) := by
  rw [scanResult, scanFound_eq hprofile, groupResult]
  rfl

/-- All candidates of a supported directory are asked about. -/
theorem answered_iff {group : List Reference} {directory : Text}
    (hsupported : ∀ x ∈ group, isSupported x.resourceLocation = true) :
    r.Answered host group directory ↔ r.GroupAnswered host (some directory) group := by
  have hanswers : (∀ x ∈ group, ∃ b, r.store.isThere? host x.resourceLocation = .ok b) ↔
      ∀ x ∈ group, r.IsAnswered host x :=
    forall₂_congr fun x hx => ⟨fun h _ => h, fun h => h (hsupported x hx)⟩
  rw [Answered, GroupAnswered, hanswers]
  refine and_congr_right fun hall => ?_
  have hnone : (∀ x ∈ group, r.store.isThere? host x.resourceLocation = .ok false) ↔
      group.flatMap (r.entryOf host) = [] := by
    rw [List.flatMap_eq_nil_iff]
    refine forall₂_congr fun x hx => ?_
    obtain ⟨b, hb⟩ := hall x hx (hsupported x hx)
    rw [entryOf_eq_nil_iff hb, hb, Except.ok.injEq]
  rw [hnone]
  simp

theorem PlainDirectory.outcome_pass (h : PlainDirectory r parent l pairs) (profile : Option Text) :
    (r.pass host parent l profile).outcome =
      r.resolveGroup host (r.scanList pairs l (resourceLocation parent l) profile) := by
  obtain ⟨refs, hrefs, hitems⟩ : ∃ refs,
      r.directoryReferences l (resourceLocation parent l) profile = .ok refs
        ∧ refs.items = r.scanList pairs l (resourceLocation parent l) profile :=
    directoryReferences_eq h.candidates
  have hreferences : r.references parent ⟨l, profile⟩ = .ok refs := by
    rw [references, wrapFaults_eq_ok_iff]
    show (if Path.isDirectoryText (resourceLocation parent l) = true then _ else _) = _
    rw [if_pos h.isDirectory]
    exact hrefs
  rw [pass_of_parts h.single, resolveTargets_singleton hreferences, hitems]

section Plain

variable (h : PlainDirectory r parent l pairs) (hprofile : profile ≠ some [])
  (hplain : ∀ p, profile = some p → isPattern p = false)

include h hprofile hplain

theorem PlainDirectory.answered_iff : r.Answered host
      (r.scanList pairs l (resourceLocation parent l) profile) (resourceLocation parent l) ↔
    r.GroupAnswered host (some (resourceLocation parent l))
      (r.scanList pairs l (resourceLocation parent l) profile) :=
  StandardResolver.answered_iff fun _ hx => h.supported_of_mem hprofile hplain hx

/-- Outside packages the store answers everything. -/
theorem PlainDirectory.answered_of_file
    (hfile : Text.startsWith (resourceLocation parent l) packageScheme = false) :
    r.Answered host (r.scanList pairs l (resourceLocation parent l) profile)
      (resourceLocation parent l) := by
  have hslash : slash ∈ resourceLocation parent l := Text.mem_of_endsWith h.isDirectory
  refine (h.answered_iff hprofile hplain).mpr
    ((h.plainGroup hprofile hplain).answered_of_file r host (fun x hx => ?_) fun d hd => ?_)
  · obtain ⟨-, -, -, -, more, hmore⟩ := h.candidate_of_mem hprofile hplain hx
    rw [hmore, Text.startsWith_append hslash (by decide), hfile]
  · rw [← Option.some.inj hd, hfile]

theorem PlainDirectory.resolveGroup_of_answered
    (hanswered : r.Answered host (r.scanList pairs l (resourceLocation parent l) profile)
      (resourceLocation parent l)) :
    r.resolveGroup host (r.scanList pairs l (resourceLocation parent l) profile) =
      .ok (r.scanResult host pairs l (resourceLocation parent l) profile) := by
  rw [scanResult_eq hprofile]
  exact (h.plainGroup hprofile hplain).resolveGroup_of_answered
    ((h.answered_iff hprofile hplain).mp hanswered)

theorem PlainDirectory.resolveGroup_of_refused
    (hrefused : ¬r.Answered host (r.scanList pairs l (resourceLocation parent l) profile)
      (resourceLocation parent l)) :
    ∃ cause, PackageRefusal host cause
      ∧ r.resolveGroup host (r.scanList pairs l (resourceLocation parent l) profile) =
        .error (cause.wrap l) :=
  (h.plainGroup hprofile hplain).resolveGroup_of_refused
    (mt (h.answered_iff hprofile hplain).mpr hrefused)

end Plain

end Scan

/-! ## One directory -/

/-- Reads two kinds of documents, into nothing. -/
def plainLoaders : List Loader :=
  [⟨1, "properties", .ok ["properties"], fun _ _ _ => .ok []⟩,
    ⟨2, "yaml", .ok ["yml", "yaml"], fun _ _ _ => .ok []⟩]

/-- A directory `config` with one file in it. -/
def plainHost : Host where
  tree := ⟨[(["ws"], .directory), (["ws", "config"], .directory),
    (["ws", "config", "app.yml"], .file [])]⟩
  workingDirectory := ["ws"]
  environment := []

/-- The candidate pairs of `plainLoaders`. -/
def plainPairs : List (Loader × Text) :=
  plainLoaders.flatMap fun loader => (loader.extensions.toOption.getD []).map (loader, ·)

theorem plainDirectory_config :
    PlainDirectory ⟨["app"], plainLoaders, {}⟩ none ⟨"config/", false, none⟩ plainPairs where
  single := by decide
  isDirectory := by decide
  supported := by decide
  plain := by decide
  plainNames := by decide
  candidates := rfl
  plainExtensions := by decide

end StandardResolver

end ConfigLocator

import ConfigLocator.Proofs.OptionalMark
import ConfigLocator.Proofs.Subdirectories

/-!
# Mandatory patterns

A mandatory pattern is missed exactly when it stands for nothing
(`StandardResolver.resolve_mandatory_pattern`). The two kinds of patterns are missed in two phases: a
named file while it is probed, since it cannot be passed over, and a directory, whose candidates can,
only when the whole group has found nothing and placeholders are asked for. Both phases list the
subdirectories of the directory before the wildcard (`Store.WildcardRoot`), the one for their files
and the other for themselves, so both come down to which subdirectories there are.

If the store refuses to say whether there is a directory before the wildcard, that is reported, and
not that anything is missing.
-/

namespace ConfigLocator

/-! ## The directory before the wildcard -/

namespace Store

variable {store : Store} {host : Host} {d root : Text} {place : Place}

/-- Asks whether what stands before the wildcard is a directory. -/
def rootIsDirectory? (store : Store) (host : Host) (d : Text) : Except Fault Bool := do
  let handle ← StandardResolver.storeFault
    (store.handle (patternRoot (Text.dropLeading d fileScheme)))
  handle.isDirectory? host

theorem isResolution_of_rootIsDirectory? {fault : Fault}
    (h : store.rootIsDirectory? host d = .error fault) : fault.isResolution = false := by
  rcases bind_eq_error_iff.mp h with hhandle | ⟨handle, -, hdirectory⟩
  · exact StandardResolver.isResolution_of_storeFault hhandle
  · exact Handle.isResolution_of_isDirectory? hdirectory

/-- The directory before the wildcard, with its absolute path. -/
structure WildcardRoot (store : Store) (host : Host) (d root : Text) (place : Place) : Prop where
  leads : ∃ path, store.handle (patternRoot (Text.dropLeading d fileScheme)) = .ok (.file path)
    ∧ host.tree.locate host.workingDirectory path = .ok place ∧ root = host.absolutePath path
  directory : host.tree.entry? place = some .directory

/-- What stands before the wildcard is no directory of a package. -/
def OutsidePackages (store : Store) (host : Host) (d : Text) : Prop :=
  ∀ name path, store.handle (patternRoot (Text.dropLeading d fileScheme)) = .ok (.package name path) →
    (Handle.package name path).isDirectory? host ≠ .ok true

theorem WildcardRoot.unique {root' : Text} {place' : Place}
    (h : store.WildcardRoot host d root place) (h' : store.WildcardRoot host d root' place') :
    root = root' ∧ place = place' := by
  obtain ⟨path, hhandle, hlocate, rfl⟩ := h.leads
  obtain ⟨path', hhandle', hlocate', rfl⟩ := h'.leads
  rw [hhandle] at hhandle'
  cases hhandle'
  rw [hlocate] at hlocate'
  cases hlocate'
  exact ⟨rfl, rfl⟩

theorem wildcardDirectories_of_refused {fault : Fault}
    (h : store.rootIsDirectory? host d = .error fault) :
    store.wildcardDirectories host d = .error fault := by
  unfold wildcardDirectories subdirectories
  dsimp only
  rw [← patternRoot]
  rcases bind_eq_error_iff.mp h with hhandle | ⟨handle, hhandle, hquestion⟩
  · cases hcause : store.handle (patternRoot (Text.dropLeading d fileScheme)) with
    | error cause =>
        rw [hcause] at hhandle
        exact congrArg Except.error (Except.error.inj hhandle)
    | ok handle =>
        rw [hcause] at hhandle
        cases hhandle
  · rw [StandardResolver.storeFault_eq_ok_iff] at hhandle
    simp only [hhandle, hquestion]
    rfl

theorem wildcardDirectories_of_not_directory (h : store.rootIsDirectory? host d = .ok false) :
    store.wildcardDirectories host d = .ok [] ∧ ∀ root place, ¬store.WildcardRoot host d root place := by
  obtain ⟨handle, hhandle, hquestion⟩ := bind_eq_ok_iff.mp h
  rw [StandardResolver.storeFault_eq_ok_iff] at hhandle
  refine ⟨subdirectories_eq_ok_iff.mpr ⟨handle, hhandle, Or.inl ⟨hquestion, rfl⟩⟩, ?_⟩
  intro root place hroot
  obtain ⟨path, hpath, hlocate, -⟩ := hroot.leads
  obtain rfl := Except.ok.inj (hhandle.symm.trans hpath)
  have hlookup : host.lookup path = .ok .directory :=
    FileTree.lookup_eq_ok_iff.mpr ⟨place, hlocate, hroot.directory⟩
  rw [Handle.isDirectory?_file_eq_true.mpr hlookup] at hquestion
  cases hquestion

theorem exists_wildcardRoot (h : store.rootIsDirectory? host d = .ok true)
    (houtside : store.OutsidePackages host d) : ∃ root place, store.WildcardRoot host d root place := by
  obtain ⟨handle, hhandle, hquestion⟩ := bind_eq_ok_iff.mp h
  rw [StandardResolver.storeFault_eq_ok_iff] at hhandle
  cases handle with
  | package name path => exact absurd hquestion (houtside name path hhandle)
  | file path =>
      have hlookup := Handle.isDirectory?_file_eq_true.mp hquestion
      obtain ⟨place, hplace, hentry⟩ := FileTree.lookup_eq_ok_iff.mp hlookup
      exact ⟨host.absolutePath path, place, ⟨path, hhandle, hplace, rfl⟩, hentry⟩

/-- Outside of packages there is a directory before the wildcard, or nothing to list. -/
theorem root_cases {b : Bool} (h : store.rootIsDirectory? host d = .ok b)
    (houtside : store.OutsidePackages host d) :
    (store.wildcardDirectories host d = .ok [] ∧ ∀ root place, ¬store.WildcardRoot host d root place)
      ∨ ∃ root place, store.WildcardRoot host d root place := by
  cases b with
  | false => exact Or.inl (wildcardDirectories_of_not_directory h)
  | true => exact Or.inr (exists_wildcardRoot h houtside)

/-- The subdirectories are listed under the absolute path of the directory. -/
theorem WildcardRoot.wildcardDirectories (hanchored : host.Anchored)
    (h : store.WildcardRoot host d root place) :
    store.wildcardDirectories host d =
      .ok ((subdirectoryNames host place).map (Path.append root)) := by
  obtain ⟨path, hhandle, hlocate, rfl⟩ := h.leads
  have hquestion : (Handle.file path).isDirectory? host = .ok true :=
    Handle.isDirectory?_file_eq_true.mpr (FileTree.lookup_eq_ok_iff.mpr ⟨place, hlocate, h.directory⟩)
  have hplace := Host.ofPath_absolutePath hanchored hlocate
  exact subdirectories_eq_ok_iff.mpr ⟨_, hhandle, Or.inr ⟨path, rfl, hquestion, by rw [hplace]⟩⟩

/-! ## What a pattern stands for -/

/-- A regular file has the name in a subdirectory. -/
def holdsFile (host : Host) (place : Place) (f name : Text) : Bool :=
  (host.tree.entry? (place ++ [name, f])).any Entry.isFile

theorem holdsFile_iff {f name : Text} :
    holdsFile host place f name = true ↔
      ∃ content, host.tree.entry? (place ++ [name, f]) = some (.file content) := by
  unfold holdsFile
  cases host.tree.entry? (place ++ [name, f]) with
  | none => simp
  | some entry => cases entry <;> simp [Entry.isFile]

section Root

variable (htree : host.tree.WellFormed) (hanchored : host.Anchored)
  (hroot : store.WildcardRoot host d root place)

include htree hanchored hroot

/-- The paths of subdirectories are those of their places. -/
theorem exists_rootedPath :
    ∃ count, IsRoot count ∧ ∀ name, host.HasSubdirectory place name →
      Path.append root name = (place ++ [name]).rootedPath count
        ∧ ∀ f, slash ∉ f →
          Path.append (Path.append root name) f = (place ++ [name, f]).rootedPath count := by
  obtain ⟨path, -, hlocate, rfl⟩ := hroot.leads
  obtain ⟨count, hcount, hpath⟩ := host.absolutePath_eq_rootedPath path
  rw [Host.ofPath_absolutePath hanchored hlocate] at hpath
  refine ⟨count, hcount, fun name hname => ?_⟩
  have hsegments : ∀ s ∈ place ++ [name], Path.IsSegment s := fun s hs =>
    (htree.segments_of hname.2 s hs).1
  have hplace : ∀ s ∈ place, Path.IsSegment s := fun s hs =>
    hsegments s (List.mem_append_left _ hs)
  have hslash : slash ∉ name := (hsegments name (by simp)).1.2.2
  have hsub : Path.append (host.absolutePath path) name = (place ++ [name]).rootedPath count := by
    rw [hpath, Place.append_rootedPath hcount hplace hslash]
  refine ⟨hsub, fun f hf => ?_⟩
  rw [hsub, Place.append_rootedPath hcount hsegments hf, List.append_assoc]
  rfl

theorem hasFile_iff {name f : Text} (hname : host.HasSubdirectory place name) (hf : slash ∉ f) :
    host.hasFile (Path.append (Path.append root name) f) = holdsFile host place f name := by
  obtain ⟨count, hcount, hpaths⟩ := exists_rootedPath htree hanchored hroot
  have hassoc : place ++ [name, f] = place ++ [name] ++ [f] := by simp
  rw [(hpaths name hname).2 f hf, hassoc, Bool.eq_iff_iff]
  refine (htree.isFile_lookup_iff (by simp) hname.2 hcount hf).trans ?_
  rw [holdsFile_iff, hassoc]

/-- Subdirectories exist under their paths, which differ. -/
theorem subdirectory_path {name : Text} (hname : host.HasSubdirectory place name) :
    (Handle.file (Path.append root name ++ [slash])).exists? host = .ok true
      ∧ Place.ofPath (host.absolutePath (Path.append root name ++ [slash])) = place ++ [name] := by
  obtain ⟨count, hcount, hpaths⟩ := exists_rootedPath htree hanchored hroot
  have hne : place ++ [name] ≠ [] := by simp
  rw [(hpaths name hname).1]
  refine ⟨?_, Host.ofPath_absolutePath hanchored
    (htree.locate_rootedPath_slash hne hname.2 hcount)⟩
  have hlookup : host.lookup ((place ++ [name]).rootedPath count ++ [slash]) = .ok .directory :=
    htree.lookup_rootedPath_slash hne hname.2 hcount
  rw [Handle.exists?_file, Handle.isThere, hlookup]
  rfl

theorem expand_files (hd : IsPatternDirectory d) {f : Text} (hf : slash ∉ f)
    (hcheck : checkPattern .files (d ++ f) = .ok ()) :
    store.expand host (d ++ f) .files =
      .ok (((subdirectoryNames host place).filter (holdsFile host place f)).map fun name =>
        .file (Path.append (Path.append root name) f)) := by
  rw [IsPatternDirectory.expand store host hd hf hcheck, hroot.wildcardDirectories hanchored]
  have hfilter : ((subdirectoryNames host place).map (Path.append root)).filter
        (fun sub => host.hasFile (Path.append sub f)) =
      ((subdirectoryNames host place).filter (holdsFile host place f)).map (Path.append root) := by
    rw [List.filter_map]
    exact congrArg _ (List.filter_congr fun name hname =>
      hasFile_iff htree hanchored hroot (mem_subdirectoryNames.mp hname) hf)
  show Except.ok ((((subdirectoryNames host place).map (Path.append root)).filter _).map _) = _
  rw [hfilter, List.map_map]
  rfl

end Root

theorem expand_directories (hd : IsPatternDirectory d) :
    store.expand host d .directories =
      (store.wildcardDirectories host d).map fun subs =>
        subs.map fun sub => .file (sub ++ [slash]) := by
  have hcheck : checkPattern .directories d = .ok () :=
    checkPattern_eq_ok_iff.mpr ⟨List.contains_iff_mem.mpr hd.wildcard_mem, hd.no_package,
      hd.count_eq_one, hd.endsWith⟩
  rw [expand, hcheck]
  show (store.wildcardDirectories host d >>= fun subs => _) = _
  cases store.wildcardDirectories host d <;> rfl

end Store

/-- The names of all visible subdirectories, in order. -/
structure Host.ListsSubdirectories (host : Host) (place : Place) (names : List Text) : Prop where
  sorted : names.Pairwise (· < ·)
  mem_iff : ∀ name, name ∈ names ↔ host.HasSubdirectory place name

theorem Store.listsSubdirectories {host : Host} (htree : host.tree.WellFormed) (place : Place) :
    host.ListsSubdirectories place (subdirectoryNames host place) :=
  ⟨subdirectoryNames_sorted htree place, fun _ => mem_subdirectoryNames⟩

/-! ## Candidates of a pattern -/

namespace StandardResolver

/-- A mandatory location that is one pattern, with its candidates, all of them checked patterns. -/
structure MandatoryPattern (r : StandardResolver) (parent : Option Reference) (l : Location)
    (x : Reference) (rest : List Reference) : Prop where
  mandatory : l.isOptional = false
  single : l.parts = [l]
  pattern : isPattern (resourceLocation parent l) = true
  supported : isSupported (resourceLocation parent l) = true
  lists : ∃ refs, r.references parent ⟨l, none⟩ = .ok refs ∧ refs.items = x :: rest
  checked : ∀ y ∈ x :: rest, Store.checkPattern .files y.resourceLocation = .ok ()

/-- A candidate in the directory `d` of a pattern. -/
structure CandidateOf (l : Location) (d : Text) (y : Reference) : Prop where
  location : y.location = l
  profile : y.profile = none
  directory : Text.throughLast slash y.resourceLocation = d
  checked : Store.checkPattern .files y.resourceLocation = .ok ()

/-- Nothing stands behind the directory of a pattern but a name. -/
theorem slash_not_mem_of_checkPattern {t more : Text} (hdirectory : Path.isDirectoryText t = true)
    (hpattern : isPattern t = true) (hcheck : Store.checkPattern .files (t ++ more) = .ok ()) :
    slash ∉ more := by
  obtain ⟨-, -, hcount, hends⟩ := Store.checkPattern_eq_ok_iff.mp hcheck
  have hends : Text.endsWith (Text.throughLast slash (t ++ more)) Store.wildcardSegment = true := hends
  intro hmem
  have hwildcard : wildcard ∉ more := by
    have hpos := List.count_pos_iff.mpr (List.contains_iff_mem.mp hpattern)
    rw [List.count_append] at hcount
    exact List.count_eq_zero.mp (by omega)
  obtain ⟨inner, hinner⟩ : ∃ inner, Text.throughLast slash more = inner ++ [slash] := by
    rcases Text.isDirectoryPart_throughLast more with hnil | hinner
    · have hsplit := Text.throughLast_append_afterLast slash more
      rw [hnil, List.nil_append] at hsplit
      exact absurd (by rw [hsplit]; exact hmem) (Text.not_mem_afterLast slash more)
    · exact hinner
  have hinner_wildcard : wildcard ∉ inner := fun hin => hwildcard
    ((Text.prefix_throughLast slash more).subset (hinner ▸ List.mem_append_left _ hin))
  rw [Text.throughLast_append_of_mem hmem, hinner, Text.endsWith_iff] at hends
  rw [Path.isDirectoryText_iff] at hdirectory
  obtain ⟨start, hstart⟩ := hends
  obtain ⟨above, rfl⟩ := hdirectory
  have hlast : start ++ [wildcard] = above ++ [slash] ++ inner := by
    have hboth : start ++ [wildcard] ++ [slash] = above ++ [slash] ++ inner ++ [slash] := by
      simpa [Store.wildcardSegment] using hstart
    exact List.append_cancel_right hboth
  rcases List.eq_nil_or_concat inner with rfl | ⟨init, c, rfl⟩
  · rw [List.append_nil] at hlast
    exact absurd (List.append_inj' hlast rfl).2 (by decide)
  · rw [List.concat_eq_append, ← List.append_assoc] at hlast
    obtain rfl : wildcard = c := List.singleton_inj.mp (List.append_inj' hlast rfl).2
    exact hinner_wildcard (by simp)

section Group

variable {r : StandardResolver} {host : Host} {parent : Option Reference} {l : Location}
  {x : Reference} {rest : List Reference} (h : r.MandatoryPattern parent l x rest)

include h

/-- The candidates of a directory were guessed in it, that of a file was named. -/
theorem MandatoryPattern.shape :
    (Path.isDirectoryText (resourceLocation parent l) = true ∧ ∀ y ∈ x :: rest,
        y.directory = some (resourceLocation parent l)
          ∧ Text.throughLast slash y.resourceLocation = resourceLocation parent l)
      ∨ (Path.isDirectoryText (resourceLocation parent l) = false ∧ rest = []
        ∧ x.directory = none) := by
  obtain ⟨refs, hrefs, hitems⟩ := h.lists
  rcases references_eq_ok hrefs with ⟨hdirectory, hlist⟩ | ⟨hfile, z, hz, hsingle⟩
  · refine Or.inl ⟨hdirectory, fun y hy => ?_⟩
    obtain ⟨hguessed, more, hmore⟩ := scans_of_directoryReferences hlist y (hitems ▸ hy)
    have hcheck := h.checked y hy
    rw [hmore] at hcheck
    have hslash := slash_not_mem_of_checkPattern hdirectory h.pattern hcheck
    refine ⟨hguessed, ?_⟩
    obtain ⟨above, habove⟩ := Path.isDirectoryText_iff.mp hdirectory
    rw [hmore, ← habove, List.append_assoc]
    exact Text.throughLast_append hslash above
  · rw [hitems] at hsingle
    obtain ⟨rfl, rfl⟩ := List.cons.inj hsingle
    exact Or.inr ⟨hfile, rfl, (fileReference_eq_ok hz).2.1⟩

theorem MandatoryPattern.candidates {y : Reference} (hy : y ∈ x :: rest) :
    CandidateOf l (Text.throughLast slash x.resourceLocation) y := by
  obtain ⟨refs, hrefs, hitems⟩ := h.lists
  obtain ⟨hlocation, hprofile⟩ := mem_references hrefs (hitems ▸ hy)
  refine ⟨hlocation, hprofile, ?_, h.checked y hy⟩
  rcases h.shape with ⟨-, hguessed⟩ | ⟨-, rfl, -⟩
  · rw [(hguessed y hy).2, (hguessed x List.mem_cons_self).2]
  · rw [List.mem_singleton.mp hy]

theorem MandatoryPattern.outcome_resolve (host : Host) :
    (r.resolve host parent l).outcome = r.resolveGroup host (x :: rest) := by
  obtain ⟨refs, hrefs, hitems⟩ := h.lists
  rw [resolve, h.single, List.map_singleton, resolveTargets_singleton hrefs, hitems]

end Group

/-! ## What candidates come to -/

/-- The files that a candidate stands for, one in each of the subdirectories that has it. -/
def patternFiles (host : Host) (root : Text) (place : Place) (names : List Text) (y : Reference) :
    List Resource :=
  let f := Text.afterLast slash y.resourceLocation
  (names.filter (Store.holdsFile host place f)).map fun name =>
    ⟨y, .file (Path.append (Path.append root name) f), false⟩

/-- One placeholder for each subdirectory. -/
def patternDirectories (root : Text) (names : List Text) (x : Reference) : List Resource :=
  names.map fun name => ⟨x, .file (Path.append root name ++ [slash]), true⟩

/-- Files if there are any, and placeholders otherwise. -/
def patternFound (host : Host) (root : Text) (place : Place) (names : List Text) (x : Reference)
    (rest : List Reference) : List Resource :=
  let files := (x :: rest).flatMap (patternFiles host root place names)
  if files.isEmpty then patternDirectories root names x else files

/-- What is raised when a pattern of files matches none. -/
def noFiles (x : Reference) : Fault :=
  .locationNotFound (some x.location) (some ("Config data location '" ++ x.location.toText ++
    "' contains no files matching '" ++ x.resourceLocation ++ "'"))

/-- What is raised when a pattern of directories matches none. -/
def noSubdirectories (l : Location) : Fault :=
  .locationNotFound (some l) (some ("Config data location '" ++ l.toText ++
    "' contains no subdirectories"))

section Candidates

variable {r : StandardResolver} {host : Host} {l : Location} {d : Text} {y : Reference}
  (hmandatory : l.isOptional = false) (hy : CandidateOf l d y)

include hy

theorem CandidateOf.isPatternDirectory : Store.IsPatternDirectory d :=
  hy.directory ▸ Store.isPatternDirectory_of_checkPattern hy.checked

theorem CandidateOf.exists_name :
    ∃ f, slash ∉ f ∧ Text.afterLast slash y.resourceLocation = f ∧ y.resourceLocation = d ++ f := by
  refine ⟨_, Text.not_mem_afterLast slash y.resourceLocation, rfl, ?_⟩
  rw [← hy.directory, Text.throughLast_append_afterLast]

include hmandatory

theorem CandidateOf.lookUp :
    r.lookUp host y = (r.store.expand host y.resourceLocation .files >>= fun handles =>
      if handles.isEmpty && !y.directory.isSome then .error (noFiles y)
      else .ok (handles.map (⟨y, ·, false⟩))) := by
  have hbeyond : isBeyondStore y = false := by simp [isBeyondStore, hy.location, hmandatory]
  have hpattern := (Store.checkPattern_eq_ok_iff.mp hy.checked).1
  have hskippable : y.isSkippable = y.directory.isSome := by
    simp [Reference.isSkippable, hy.location, hmandatory, hy.profile]
  rw [lookUp_of_isPattern hbeyond hpattern, hskippable]
  rfl

/-- What the store refuses to say is the cause. -/
theorem CandidateOf.probe_of_refused {fault : Fault}
    (hrefused : r.store.wildcardDirectories host d = .error fault) :
    (r.probe host y).outcome = .error (fault.wrap l) := by
  have hexpand : r.store.expand host y.resourceLocation .files = .error fault := by
    obtain ⟨f, hf, -, htext⟩ := hy.exists_name
    rw [htext, hy.isPatternDirectory.expand r.store host hf (htext ▸ hy.checked), hrefused]
    rfl
  rw [outcome_probe, hy.lookUp hmandatory, hexpand, hy.location]
  rfl

/-- A named file that nothing matches is missed, a guessed one is not. -/
theorem CandidateOf.probe_of_expand {handles : List Handle}
    (hexpand : r.store.expand host y.resourceLocation .files = .ok handles) :
    (r.probe host y).outcome =
      if handles.isEmpty && !y.directory.isSome then .error (noFiles y)
      else .ok (handles.map (⟨y, ·, false⟩)) := by
  rw [outcome_probe, hy.lookUp hmandatory, hexpand]
  show wrapFaults y.location (if _ then _ else _) = _
  split <;> rfl

/-- Nothing is found where there is no directory. -/
theorem CandidateOf.probe_of_none (hnone : r.store.wildcardDirectories host d = .ok []) :
    (r.probe host y).outcome = if y.directory.isSome then .ok [] else .error (noFiles y) := by
  have hexpand : r.store.expand host y.resourceLocation .files = .ok [] := by
    obtain ⟨f, hf, -, htext⟩ := hy.exists_name
    rw [htext, hy.isPatternDirectory.expand r.store host hf (htext ▸ hy.checked), hnone]
    rfl
  rw [hy.probe_of_expand hmandatory hexpand]
  cases y.directory.isSome <;> rfl

variable {root : Text} {place : Place} (htree : host.tree.WellFormed) (hanchored : host.Anchored)
  (hroot : r.store.WildcardRoot host d root place)

include htree hanchored hroot

/-- In a directory the files of the subdirectories are found. -/
theorem CandidateOf.probe_of_root :
    let found := patternFiles host root place (Store.subdirectoryNames host place) y
    (r.probe host y).outcome =
      if found.isEmpty && !y.directory.isSome then .error (noFiles y) else .ok found := by
  intro found
  obtain ⟨f, hf, hlast, htext⟩ := hy.exists_name
  have hexpand := Store.expand_files htree hanchored hroot hy.isPatternDirectory hf
    (htext ▸ hy.checked)
  rw [← htext] at hexpand
  rw [hy.probe_of_expand hmandatory hexpand]
  simp only [found, patternFiles, hlast, List.isEmpty_map, List.map_map]
  rfl

end Candidates

/-! ## Candidates that were guessed -/

section Guessed

variable {r : StandardResolver} {host : Host} {l : Location} {d : Text} {x y : Reference}
  {rest : List Reference} (hmandatory : l.isOptional = false) (hsupported : isSupported d = true)

include hmandatory hsupported

theorem CandidateOf.placeholders_of_none (hy : CandidateOf l d y) (hguessed : y.directory = some d)
    (hnone : r.store.wildcardDirectories host d = .ok []) :
    r.placeholders host y = .error (noSubdirectories l) := by
  obtain ⟨f, -, -, htext⟩ := hy.exists_name
  have hlacks : r.LacksSubdirectories host d := by
    refine ⟨hsupported, ?_⟩
    rw [Store.expand_directories hy.isPatternDirectory, hnone]
    rfl
  rw [placeholders_eq, standIns_eq_patternPlaceholders hguessed ⟨f, htext⟩ hlacks,
    patternPlaceholders_of_lacks hlacks, hy.location, if_neg (by simp [hmandatory])]
  rfl

variable {root : Text} {place : Place} (htree : host.tree.WellFormed) (hanchored : host.Anchored)
  (hroot : r.store.WildcardRoot host d root place)

include htree hanchored hroot

omit hmandatory in
/-- Every subdirectory is there, so each has its placeholder. -/
theorem CandidateOf.placeholders_of_root (hy : CandidateOf l d y) (hguessed : y.directory = some d)
    (hsome : Store.subdirectoryNames host place ≠ []) :
    r.placeholders host y =
      .ok (patternDirectories root (Store.subdirectoryNames host place) y) := by
  have hpattern := (Store.checkPattern_eq_ok_iff.mp hy.checked).1
  have hexpand : r.store.expand host d .directories =
      .ok ((Store.subdirectoryNames host place).map fun name =>
        .file (Path.append root name ++ [slash])) := by
    rw [Store.expand_directories hy.isPatternDirectory, hroot.wildcardDirectories hanchored]
    exact congrArg Except.ok (List.map_map ..)
  have hexist : ((Store.subdirectoryNames host place).map fun name =>
        Handle.file (Path.append root name ++ [slash])).filterM (Handle.exists? · host) =
      .ok ((Store.subdirectoryNames host place).map fun name =>
        .file (Path.append root name ++ [slash])) := by
    rw [filterM_eq_filter (q := fun _ => true), List.filter_true]
    intro handle hhandle
    obtain ⟨name, hname, rfl⟩ := List.mem_map.mp hhandle
    exact (Store.subdirectory_path htree hanchored hroot (Store.mem_subdirectoryNames.mp hname)).1
  have hstand : r.standIns host y = r.patternPlaceholders host y d := by
    rw [standIns, hguessed]
    simp [hsupported, hpattern]
  rw [placeholders_eq, hstand, patternPlaceholders, hexpand]
  have hfound : ((Store.subdirectoryNames host place).map fun name =>
      Handle.file (Path.append root name ++ [slash])).isEmpty = false := by
    simpa using hsome
  show wrapFaults y.location (if (!y.location.isOptional && List.isEmpty _) = true then _ else _) = _
  rw [hfound, Bool.and_false]
  show wrapFaults y.location (List.filterM _ _ >>= _) = _
  rw [hexist]
  exact congrArg Except.ok (List.map_map ..)

end Guessed

/-! ## Groups of candidates -/

section Group

variable {r : StandardResolver} {host : Host} {l : Location} {d : Text} {x : Reference}
  {rest : List Reference} (hmandatory : l.isOptional = false)
  (hgroup : ∀ y ∈ x :: rest, CandidateOf l d y)

include hmandatory hgroup

theorem resolveGroup_of_refused {fault : Fault}
    (hrefused : r.store.wildcardDirectories host d = .error fault) :
    r.resolveGroup host (x :: rest) = .error (fault.wrap l) := by
  have hprobe := (hgroup x List.mem_cons_self).probe_of_refused hmandatory hrefused
  rw [resolveGroup, Probe.collect_eq_error_iff.mpr
    ((exists_firstFails_cons_iff _).mpr (Or.inl hprobe))]
  rfl

variable (hguessed : ∀ y ∈ x :: rest, y.directory = some d) (hsupported : isSupported d = true)

include hguessed hsupported

theorem resolveGroup_of_none (hnone : r.store.wildcardDirectories host d = .ok []) :
    r.resolveGroup host (x :: rest) = .error (noSubdirectories l) := by
  have hprobes : (Probe.collect (r.probe host) (x :: rest)).outcome = .ok [] :=
    Probe.collect_eq_nil_iff.mpr fun y hy => by
      rw [(hgroup y hy).probe_of_none hmandatory hnone, hguessed y hy]
      rfl
  have hplaceholders : r.groupPlaceholders host (x :: rest) = .error (noSubdirectories l) :=
    groupPlaceholders_eq_error_iff.mpr ((exists_firstFails_cons_iff _).mpr (Or.inl
      ((hgroup x List.mem_cons_self).placeholders_of_none hmandatory hsupported
        (hguessed x List.mem_cons_self) hnone)))
  rw [resolveGroup, hprobes]
  show (r.groupPlaceholders host (x :: rest) >>= fun empty => pure empty.items) = _
  rw [hplaceholders]
  rfl

variable {root : Text} {place : Place} (htree : host.tree.WellFormed) (hanchored : host.Anchored)
  (hroot : r.store.WildcardRoot host d root place)

include htree hanchored hroot

omit hmandatory hgroup hguessed hsupported in
/-- Placeholders of different subdirectories lead to different entries. -/
theorem pairwise_patternDirectories :
    (patternDirectories root (Store.subdirectoryNames host place) x).Pairwise
      fun a b => Resource.same host a b = false := by
  rw [patternDirectories, List.pairwise_map]
  refine (Store.subdirectoryNames_sorted htree place).imp_of_mem fun {name other} hname hother hlt => ?_
  have hpath := (Store.subdirectory_path htree hanchored hroot (Store.mem_subdirectoryNames.mp hname)).2
  have hpath' := (Store.subdirectory_path htree hanchored hroot (Store.mem_subdirectoryNames.mp hother)).2
  have hdiffer : host.absolutePath (Path.append root name ++ [slash]) ≠
      host.absolutePath (Path.append root other ++ [slash]) := by
    intro heq
    rw [heq, hpath'] at hpath
    obtain rfl := List.singleton_inj.mp (List.append_cancel_left hpath)
    exact lt_irrefl _ hlt
  simpa [Resource.same, Handle.same, Handle.canonical] using hdiffer

omit hmandatory in
/-- Each candidate has the same placeholders, and the first one keeps them. -/
theorem groupPlaceholders_of_root (hsome : Store.subdirectoryNames host place ≠ []) :
    ∃ empty, r.groupPlaceholders host (x :: rest) = .ok empty
      ∧ empty.items = patternDirectories root (Store.subdirectoryNames host place) x := by
  have hlists : List.Forall₂ (fun y list => r.placeholders host y = .ok list) (x :: rest)
      ((x :: rest).map (patternDirectories root (Store.subdirectoryNames host place))) := by
    rw [List.forall₂_map_right_iff, List.forall₂_same]
    exact fun y hy => (hgroup y hy).placeholders_of_root hsupported htree hanchored hroot
      (hguessed y hy) hsome
  refine ⟨_, groupPlaceholders_eq_ok_iff.mpr ⟨_, hlists, rfl⟩, ?_⟩
  rw [OrderedSet.items_ofList, List.map_cons, List.flatten_cons, OrderedSet.firstOccurrences_append,
    OrderedSet.firstOccurrences_eq_self (pairwise_patternDirectories htree hanchored hroot)
      (fun _ _ => rfl), OrderedSet.firstOccurrences_eq_nil, List.append_nil]
  intro a ha
  obtain ⟨list, hlist, ha⟩ := List.mem_flatten.mp ha
  obtain ⟨y, -, rfl⟩ := List.mem_map.mp hlist
  obtain ⟨name, hname, rfl⟩ := List.mem_map.mp ha
  refine List.any_eq_true.mpr ⟨⟨x, .file (Path.append root name ++ [slash]), true⟩, ?_, ?_⟩
  · exact List.mem_map.mpr ⟨name, hname, rfl⟩
  · simp [Resource.same, Handle.same]

theorem resolveGroup_of_root (hsome : Store.subdirectoryNames host place ≠ []) :
    r.resolveGroup host (x :: rest) =
      .ok (patternFound host root place (Store.subdirectoryNames host place) x rest) := by
  have hprobes : (Probe.collect (r.probe host) (x :: rest)).outcome =
      .ok ((x :: rest).flatMap (patternFiles host root place (Store.subdirectoryNames host place))) :=
    Probe.collect_eq_flatMap fun y hy => by
      rw [(hgroup y hy).probe_of_root hmandatory htree hanchored hroot, hguessed y hy]
      simp
  obtain ⟨empty, hempty, hitems⟩ :=
    groupPlaceholders_of_root hgroup hguessed hsupported htree hanchored hroot hsome
  rw [resolveGroup, hprobes]
  show (if List.isEmpty _ = true then r.groupPlaceholders host (x :: rest) >>= fun empty =>
    pure empty.items else pure _) = _
  rw [patternFound]
  split
  · rw [hempty]
    exact congrArg Except.ok hitems
  · rfl

end Group

/-! ## Profiles of a named file -/

section Profiles

variable {r : StandardResolver} {host : Host} {parent : Option Reference} {l : Location}

/-- The extension of a file does not depend on the profile. -/
theorem exists_fileReference {file : Text} {profile : Option Text} {x : Reference}
    (h : r.fileReference l file profile = .ok x) (other : Option Text) :
    ∃ y, r.fileReference l file other = .ok y := by
  unfold fileReference at h ⊢
  obtain ⟨found, hfound, h⟩ := bind_eq_ok_iff.mp h
  cases found with
  | none => cases h
  | some pair => exact ⟨_, bind_eq_ok_iff.mpr ⟨some pair, hfound, rfl⟩⟩

/-- With a profile a named file is never missed. -/
theorem neverMissing_resolveProfiles {x : Reference} (hsingle : l.parts = [l])
    (hfile : Path.isDirectoryText (resourceLocation parent l) = false)
    (hx : r.fileReference l (resourceLocation parent l) none = .ok x) (profiles : List Text) :
    NeverMissing (r.resolveProfiles host parent l profiles).outcome := by
  intro fault hfault
  have horigin : ∀ t ∈ l.targets (some profiles), t.location.origin = l.origin :=
    fun t ht => Location.origin_of_mem_targets ht
  have hpass : (r.resolveTargets host parent (l.targets (some profiles))).outcome = .error fault := by
    rw [← resolvePass_eq]
    exact hfault
  obtain ⟨t, hends⟩ := (resolveTargets_eq_error_iff horigin).mp hpass
  have ht : t ∈ l.targets (some profiles) := by
    cases hends with
    | listing hfirst => exact hfirst.mem
    | probing _ hfirst => exact hfirst.mem
  obtain ⟨hpart, hprofile⟩ := Location.mem_targets ht
  have hlocation : t.location = l := by
    rw [hsingle] at hpart
    exact List.mem_singleton.mp hpart
  obtain ⟨y, hy⟩ := exists_fileReference hx t.profile
  have hrefs : r.references parent t = .ok (.ofList [y]) := by
    rw [references, hlocation, if_neg (by simp [hfile]), hy]
    rfl
  have hskip : y.isSkippable = true := by
    simp [Reference.isSkippable, (fileReference_eq_ok hy).2.2, hprofile rfl]
  have halone := hends.alone
  rw [resolveTargets_singleton hrefs] at halone
  have hgroup : r.resolveGroup host [y] = .error fault := halone
  rw [resolveGroup_file (fileReference_eq_ok hy).2.1] at hgroup
  exact neverMissing_probe hskip fault hgroup

end Profiles

/-! ## Mandatory patterns -/

section Outcome

variable {r : StandardResolver} {host : Host} {l : Location} {d : Text} {x : Reference}
  {rest : List Reference}

theorem patternFound_ne_nil {root : Text} {place : Place} {names : List Text} (h : names ≠ []) :
    patternFound host root place names x rest ≠ [] := by
  show (if _ then _ else _) ≠ []
  split
  · simpa [patternDirectories] using h
  · rename_i hfiles
    simpa using hfiles

theorem patternFiles_eq_nil_iff {root : Text} {place : Place} {names : List Text} :
    patternFiles host root place names x = [] ↔ ∀ name ∈ names, ∀ content,
      host.tree.entry? (place ++ [name, Text.afterLast slash x.resourceLocation]) ≠
        some (.file content) := by
  rw [patternFiles, List.map_eq_nil_iff, List.filter_eq_nil_iff]
  refine forall₂_congr fun name _ => ?_
  rw [Store.holdsFile_iff, not_exists]

variable (htree : host.tree.WellFormed) (hanchored : host.Anchored) (hmandatory : l.isOptional = false)
  (hgroup : ∀ y ∈ x :: rest, CandidateOf l d y) {b : Bool}
  (hanswered : r.store.rootIsDirectory? host d = .ok b) (houtside : r.store.OutsidePackages host d)

include htree hanchored hmandatory hgroup hanswered houtside

theorem resolveGroup_directory (hguessed : ∀ y ∈ x :: rest, y.directory = some d)
    (hsupported : isSupported d = true) :
    (r.resolveGroup host (x :: rest) = .error (noSubdirectories l) ↔
        ∀ root place, r.store.WildcardRoot host d root place →
          ∀ name, ¬host.HasSubdirectory place name)
      ∧ ∀ root place name, r.store.WildcardRoot host d root place →
          host.HasSubdirectory place name → ∃ names, host.ListsSubdirectories place names
            ∧ r.resolveGroup host (x :: rest) = .ok (patternFound host root place names x rest)
            ∧ patternFound host root place names x rest ≠ [] := by
  rcases Store.root_cases hanswered houtside with ⟨hnone, hnoroot⟩ | ⟨root, place, hroot⟩
  · have hmissed := resolveGroup_of_none hmandatory hgroup hguessed hsupported hnone
    refine ⟨iff_of_true hmissed fun root place hroot => absurd hroot (hnoroot root place), ?_⟩
    intro root place name hroot
    exact absurd hroot (hnoroot root place)
  · have hlists := Store.listsSubdirectories htree place
    by_cases hnames : Store.subdirectoryNames host place = []
    · have hnone : r.store.wildcardDirectories host d = .ok [] := by
        rw [hroot.wildcardDirectories hanchored, hnames]
        rfl
      have hmissed := resolveGroup_of_none hmandatory hgroup hguessed hsupported hnone
      have hempty : ∀ root place, r.store.WildcardRoot host d root place →
          ∀ name, ¬host.HasSubdirectory place name := by
        intro root' place' hroot' name hname
        obtain ⟨rfl, rfl⟩ := hroot.unique hroot'
        have hmem := (hlists.mem_iff name).mpr hname
        rw [hnames] at hmem
        cases hmem
      exact ⟨iff_of_true hmissed hempty, fun root place name hroot hname =>
        absurd hname (hempty root place hroot name)⟩
    · have hfound := resolveGroup_of_root hmandatory hgroup hguessed hsupported htree hanchored hroot
        hnames
      refine ⟨iff_of_false ?_ ?_, fun root' place' name hroot' _ => ?_⟩
      · rw [hfound]
        exact fun h => by cases h
      · intro hempty
        obtain ⟨name, more, hname⟩ := List.exists_cons_of_ne_nil hnames
        exact hempty root place hroot name
          ((hlists.mem_iff name).mp (by rw [hname]; exact List.mem_cons_self))
      · obtain ⟨rfl, rfl⟩ := hroot.unique hroot'
        exact ⟨_, hlists, hfound, patternFound_ne_nil hnames⟩

theorem resolveGroup_file_pattern (hnamed : x.directory = none) (hrest : rest = []) :
    (r.resolveGroup host (x :: rest) = .error (noFiles x) ↔
        ∀ root place, r.store.WildcardRoot host d root place →
          ∀ name, host.HasSubdirectory place name → ∀ content,
            host.tree.entry? (place ++ [name, Text.afterLast slash x.resourceLocation]) ≠
              some (.file content))
      ∧ ∀ root place name content, r.store.WildcardRoot host d root place →
          host.HasSubdirectory place name →
          host.tree.entry? (place ++ [name, Text.afterLast slash x.resourceLocation]) =
            some (.file content) →
          ∃ names, host.ListsSubdirectories place names
            ∧ r.resolveGroup host (x :: rest) = .ok (patternFiles host root place names x)
            ∧ patternFiles host root place names x ≠ [] := by
  subst hrest
  have hx : CandidateOf l d x := hgroup x List.mem_cons_self
  rw [resolveGroup_file hnamed]
  rcases Store.root_cases hanswered houtside with ⟨hnone, hnoroot⟩ | ⟨root, place, hroot⟩
  · have hmissed : (r.probe host x).outcome = .error (noFiles x) := by
      rw [hx.probe_of_none hmandatory hnone, hnamed]
      rfl
    refine ⟨iff_of_true hmissed fun root place hroot => absurd hroot (hnoroot root place), ?_⟩
    intro root place name content hroot
    exact absurd hroot (hnoroot root place)
  · have hlists := Store.listsSubdirectories htree place
    have hprobe := hx.probe_of_root hmandatory htree hanchored hroot
    simp only [hnamed, Option.isSome_none, Bool.not_false, Bool.and_true] at hprobe
    by_cases hfiles : patternFiles host root place (Store.subdirectoryNames host place) x = []
    · have hmissed : (r.probe host x).outcome = .error (noFiles x) := by
        rw [hprobe, hfiles]
        rfl
      have hempty : ∀ root place, r.store.WildcardRoot host d root place →
          ∀ name, host.HasSubdirectory place name → ∀ content,
            host.tree.entry? (place ++ [name, Text.afterLast slash x.resourceLocation]) ≠
              some (.file content) := by
        intro root' place' hroot' name hname
        obtain ⟨rfl, rfl⟩ := hroot.unique hroot'
        exact patternFiles_eq_nil_iff.mp hfiles name ((hlists.mem_iff name).mpr hname)
      exact ⟨iff_of_true hmissed hempty, fun root place name content hroot hname hfile =>
        absurd hfile (hempty root place hroot name hname content)⟩
    · have hfound : (r.probe host x).outcome =
          .ok (patternFiles host root place (Store.subdirectoryNames host place) x) := by
        rw [hprobe, if_neg (by simpa using hfiles)]
      refine ⟨iff_of_false ?_ ?_, fun root' place' name content hroot' _ _ => ?_⟩
      · rw [hfound]
        exact fun h => by cases h
      · intro hempty
        refine hfiles (patternFiles_eq_nil_iff.mpr fun name hname => ?_)
        exact hempty root place hroot name ((hlists.mem_iff name).mp hname)
      · obtain ⟨rfl, rfl⟩ := hroot.unique hroot'
        exact ⟨_, hlists, hfound, hfiles⟩

end Outcome

/-- A mandatory pattern is missed exactly when it stands for nothing. -/
theorem resolve_mandatory_pattern (r : StandardResolver) {host : Host}
    (htree : host.tree.WellFormed) (hanchored : host.Anchored) {parent : Option Reference}
    {l : Location} {x : Reference} {rest : List Reference}
    (h : r.MandatoryPattern parent l x rest) :
    let text := resourceLocation parent l
    let d := Text.throughLast slash x.resourceLocation
    let f := Text.afterLast slash x.resourceLocation
    let outcome := (r.resolve host parent l).outcome
    (∀ fault, r.store.rootIsDirectory? host d = .error fault →
        fault.isResolution = false ∧ outcome = .error (fault.wrap l))
      ∧ ((∃ b, r.store.rootIsDirectory? host d = .ok b) → r.store.OutsidePackages host d →
        (Path.isDirectoryText text = true → d = text
          ∧ (outcome = .error (noSubdirectories l) ↔
              ∀ root place, r.store.WildcardRoot host d root place →
                ∀ name, ¬host.HasSubdirectory place name)
          ∧ ∀ root place name, r.store.WildcardRoot host d root place →
              host.HasSubdirectory place name → ∃ names, host.ListsSubdirectories place names
                ∧ outcome = .ok (patternFound host root place names x rest)
                ∧ patternFound host root place names x rest ≠ [])
        ∧ (Path.isDirectoryText text = false →
          (outcome = .error (noFiles x) ↔
              ∀ root place, r.store.WildcardRoot host d root place →
                ∀ name, host.HasSubdirectory place name →
                  ∀ content, host.tree.entry? (place ++ [name, f]) ≠ some (.file content))
          ∧ ∀ root place name content, r.store.WildcardRoot host d root place →
              host.HasSubdirectory place name →
              host.tree.entry? (place ++ [name, f]) = some (.file content) →
              ∃ names, host.ListsSubdirectories place names
                ∧ outcome = .ok (patternFiles host root place names x)
                ∧ patternFiles host root place names x ≠ []))
      ∧ (Path.isDirectoryText text = false → ∀ profiles location detail,
          (r.resolveProfiles host parent l profiles).outcome ≠
            .error (.locationNotFound location detail)) := by
  intro text d f outcome
  have houtcome : outcome = r.resolveGroup host (x :: rest) := h.outcome_resolve host
  have hgroup : ∀ y ∈ x :: rest, CandidateOf l d y := fun y hy => h.candidates hy
  rw [houtcome]
  refine ⟨fun fault hrefused => ?_, ?_, ?_⟩
  · exact ⟨Store.isResolution_of_rootIsDirectory? hrefused, resolveGroup_of_refused h.mandatory hgroup
      (Store.wildcardDirectories_of_refused hrefused)⟩
  · rintro ⟨b, hanswered⟩ houtside
    rcases h.shape with ⟨hdirectory, hguessed⟩ | ⟨hfile, hrest, hnamed⟩
    · have hd : d = text := (hguessed x List.mem_cons_self).2
      refine ⟨fun _ => ⟨hd, ?_⟩, fun hfile => by simp [text, hdirectory] at hfile⟩
      exact resolveGroup_directory htree hanchored h.mandatory hgroup hanswered houtside
        (fun y hy => hd ▸ (hguessed y hy).1) (hd ▸ h.supported)
    · refine ⟨fun hdirectory => by simp [text, hfile] at hdirectory, fun _ => ?_⟩
      exact resolveGroup_file_pattern htree hanchored h.mandatory hgroup hanswered houtside hnamed
        hrest
  · intro hfile profiles location detail hmissed
    obtain ⟨refs, hrefs, hitems⟩ := h.lists
    rcases references_eq_ok hrefs with ⟨hdirectory, -⟩ | ⟨-, y, hy, -⟩
    · simp [text, hdirectory] at hfile
    · have hnever := neverMissing_resolveProfiles h.single hfile hy profiles _ hmissed
      cases hnever

/-- A directory with two subdirectories, one of them with a file. -/
def patternHost : Host where
  tree := ⟨[(["ws"], .directory), (["ws", "config"], .directory), (["ws", "config", "b"], .directory),
    (["ws", "config", "a"], .directory), (["ws", "config", "a", "application.yml"], .file [])]⟩
  workingDirectory := ["ws"]
  environment := []

theorem wellFormed_patternHost : patternHost.tree.WellFormed where
  ne_root := by decide
  segments := by decide
  parents := by decide
  distinct := by decide
  reachable := by decide

theorem anchored_patternHost : patternHost.Anchored := by
  unfold Host.Anchored
  decide

/-- The one candidate of a pattern in the sample resolver. -/
def patternCandidate (text : Text) : Reference :=
  candidate ⟨text, false, none⟩ text none "application"
    (⟨1, "yaml", .ok ["yml"], fun _ _ _ => .ok []⟩, "yml")

theorem mandatoryPattern_config :
    sampleResolver.MandatoryPattern none ⟨"config/*/", false, none⟩ (patternCandidate "config/*/") [] where
  mandatory := rfl
  single := rfl
  pattern := by decide
  supported := by decide
  lists := ⟨_, rfl, rfl⟩
  checked := by decide

theorem resolve_mandatory_pattern_config : ∃ names,
    patternHost.ListsSubdirectories ["ws", "config"] names
      ∧ (sampleResolver.resolve patternHost none ⟨"config/*/", false, none⟩).outcome =
        .ok (patternFound patternHost "/ws/config" ["ws", "config"] names
          (patternCandidate "config/*/") []) := by
  have hroot : sampleResolver.store.WildcardRoot patternHost "config/*/" "/ws/config"
      ["ws", "config"] := ⟨⟨"config/", rfl, rfl, rfl⟩, rfl⟩
  have hname : patternHost.HasSubdirectory ["ws", "config"] "a" := ⟨rfl, rfl⟩
  have houtside : sampleResolver.store.OutsidePackages patternHost "config/*/" := by
    intro name path hpackage
    cases hpackage
  obtain ⟨-, hdirectory, -⟩ := resolve_mandatory_pattern sampleResolver wellFormed_patternHost
    anchored_patternHost mandatoryPattern_config
  obtain ⟨names, hnames, hfound, -⟩ :=
    ((hdirectory ⟨true, rfl⟩ houtside).1 rfl).2.2 _ _ _ hroot hname
  exact ⟨names, hnames, hfound⟩

theorem mandatoryPattern_scheme :
    sampleResolver.MandatoryPattern none ⟨"file:http:config/*/", false, none⟩
      (patternCandidate "file:http:config/*/") [] where
  mandatory := rfl
  single := rfl
  pattern := by decide
  supported := by decide
  lists := ⟨_, rfl, rfl⟩
  checked := by decide

/-- A directory that the store refuses to read is no directory, and yet the pattern is not missed: the
refusal is what is reported. -/
theorem not_missed_if_refused :
    ¬∀ (r : StandardResolver) (host : Host) (l : Location) (x : Reference) (rest : List Reference),
      host.tree.WellFormed → host.Anchored → r.MandatoryPattern none l x rest →
      Path.isDirectoryText (resourceLocation none l) = true →
      ((∃ detail, (r.resolve host none l).outcome = .error (.locationNotFound (some l) detail)) ↔
        ∀ root place, r.store.WildcardRoot host (resourceLocation none l) root place →
          ∀ name, ¬host.HasSubdirectory place name) := by
  intro hall
  have hrefused : ∀ root place, ¬sampleResolver.store.WildcardRoot patternHost
      (resourceLocation none ⟨"file:http:config/*/", false, none⟩) root place := by
    intro root place hroot
    obtain ⟨path, hhandle, -⟩ := hroot.leads
    cases hhandle
  obtain ⟨detail, hmissed⟩ := (hall sampleResolver patternHost _ _ _ wellFormed_patternHost
    anchored_patternHost mandatoryPattern_scheme rfl).mpr
      fun root place hroot => absurd hroot (hrefused root place)
  cases hmissed

end StandardResolver

end ConfigLocator

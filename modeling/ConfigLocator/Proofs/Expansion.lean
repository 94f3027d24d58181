import ConfigLocator.Proofs.Following
import ConfigLocator.Proofs.PatternScan

/-!
# Patterns of whole segments

A text passes the check of patterns when it is a directory, `*/` and a name (`Store.IsPatternOf`). If
the wildcard is a segment of its own, the pattern stands for the subdirectories of that directory, or
for the files of the name in them: each once, in the order of their paths
(`Store.expand_whole_segment`).

Whether there is anything to list is asked of the path before the wildcard as it is written. If the
base directory is there, that is the same as asking for a directory at its absolute path.
-/

namespace ConfigLocator

namespace Store

variable {store : Store} {host : Host} {kind : PatternKind} {d f : Text}

/-! ## The form of patterns -/

/-- The pieces of a pattern, before and behind `*/`. For directories nothing stands behind it. -/
structure IsPatternOf (kind : PatternKind) (d f : Text) : Prop where
  no_wildcard : wildcard ∉ d
  no_wildcard_behind : wildcard ∉ f
  no_slash : slash ∉ f
  ends : kind = .directories → f = []

/-- A leading piece without a wildcard begins a pattern before its wildcard. -/
theorem startsWith_pattern {head : Text} (hhead : wildcard ∉ head) (d f : Text) :
    Text.startsWith (d ++ wildcardSegment ++ f) head = Text.startsWith d head := by
  have hassoc : d ++ wildcardSegment ++ f = d ++ wildcard :: slash :: f := by
    simp [wildcardSegment]
  rw [Bool.eq_iff_iff, Text.startsWith_iff, Text.startsWith_iff, hassoc]
  exact ⟨fun h => Text.prefix_of_prefix_append_cons h hhead, fun h => h.trans (List.prefix_append _ _)⟩

theorem IsPatternOf.count_eq_one (h : IsPatternOf kind d f) :
    (d ++ wildcardSegment ++ f).count wildcard = 1 := by
  rw [List.count_append, List.count_append, List.count_eq_zero.mpr h.no_wildcard,
    List.count_eq_zero.mpr h.no_wildcard_behind]
  rfl

theorem IsPatternOf.patternDirectory_eq (h : IsPatternOf kind d f) :
    patternDirectory kind (d ++ wildcardSegment ++ f) = d ++ wildcardSegment := by
  cases kind with
  | directories =>
      obtain rfl := h.ends rfl
      exact List.append_nil _
  | files =>
      have hassoc : d ++ wildcardSegment = d ++ [wildcard] ++ [slash] := by simp [wildcardSegment]
      show Text.throughLast slash _ = _
      rw [hassoc, List.append_assoc _ [slash], List.singleton_append,
        Text.throughLast_append h.no_slash]

/-- Outside packages exactly the texts of that form pass the check. -/
theorem checkPattern_eq_ok_iff_exists {t : Text} :
    checkPattern kind t = .ok () ↔
      Text.startsWith t packageScheme = false
        ∧ ∃ d f, IsPatternOf kind d f ∧ t = d ++ wildcardSegment ++ f := by
  rw [checkPattern_eq_ok_iff]
  constructor
  · rintro ⟨-, hpackage, hcount, hends⟩
    refine ⟨hpackage, ?_⟩
    obtain ⟨d, hd⟩ := Text.endsWith_iff.mp hends
    obtain ⟨f, hf, hempty, ht⟩ : ∃ f, slash ∉ f ∧ (kind = .directories → f = [])
        ∧ t = d ++ wildcardSegment ++ f := by
      cases kind with
      | directories => exact ⟨[], by simp, fun _ => rfl, by rw [hd]; exact (List.append_nil t).symm⟩
      | files =>
          refine ⟨Text.afterLast slash t, Text.not_mem_afterLast slash t, fun h => ?_, ?_⟩
          · cases h
          · rw [hd]
            exact (Text.throughLast_append_afterLast slash t).symm
    subst ht
    rw [List.count_append, List.count_append, show List.count wildcard wildcardSegment = 1 from rfl]
      at hcount
    exact ⟨d, f, ⟨List.count_eq_zero.mp (by omega), List.count_eq_zero.mp (by omega), hf, hempty⟩, rfl⟩
  · rintro ⟨hpackage, d, f, hpattern, rfl⟩
    refine ⟨by simp [isPattern, wildcardSegment], hpackage, hpattern.count_eq_one, ?_⟩
    rw [hpattern.patternDirectory_eq, Text.endsWith_iff]
    exact List.suffix_append d wildcardSegment

theorem isPatternDirectory_append (hpackage : Text.startsWith d packageScheme = false)
    (hd : wildcard ∉ d) : IsPatternDirectory (d ++ wildcardSegment) where
  no_package := by
    have h : Text.startsWith _ packageScheme = _ := startsWith_pattern (by decide) d []
    rwa [List.append_nil, hpackage] at h
  count_eq_one := by
    rw [List.count_append, List.count_eq_zero.mpr hd]
    rfl
  endsWith := Text.endsWith_iff.mpr (List.suffix_append d wildcardSegment)

/-! ## The directory before the wildcard -/

/-- Nothing that is read as a scheme stands at the start; a drive letter does not count. -/
structure SchemeLess (t : Text) : Prop where
  no_file : Text.startsWith t fileScheme = false
  no_package : Text.startsWith t packageScheme = false
  no_other : hasScheme t = false ∨ hasDrive t = true

/-- What stands before the wildcard as a location. -/
def rootOf (d : Text) : Text := if d = [] then "./" else d

theorem rootOf_ne_nil (d : Text) : rootOf d ≠ [] := by
  unfold rootOf
  split
  · exact List.cons_ne_nil _ _
  · assumption

theorem SchemeLess.rootOf (h : SchemeLess d) : SchemeLess (rootOf d) := by
  unfold Store.rootOf
  split
  · exact ⟨rfl, rfl, Or.inl rfl⟩
  · exact h

/-- A location without a scheme names its path. -/
theorem SchemeLess.handle_eq (h : SchemeLess d) (hd : wildcard ∉ d) (store : Store) :
    store.handle d = .ok (.file (store.pathOf d)) := by
  have hplain : isPattern d = false := by
    rw [isPattern, ← Bool.not_eq_true, List.contains_iff_mem]
    exact hd
  have hsupported : isSupported d = true := by
    rcases h.no_other with hscheme | hdrive
    · simp [isSupported, hscheme]
    · simp [isSupported, hdrive]
  have hpath : withoutFileScheme d = d := by
    rw [withoutFileScheme, Text.dropLeading?_eq_none_iff.mpr h.no_file]
  rw [handle_eq_file hplain hsupported h.no_package, hpath]
  rfl

/-- The wildcard ends what stands before it. -/
theorem takeWhile_pattern (hd : wildcard ∉ d) (f : Text) :
    (d ++ wildcardSegment ++ f).takeWhile (· != wildcard) = d := by
  have hall : ∀ c ∈ d, (c != wildcard) = true := by
    intro c hc
    simp only [bne_iff_ne]
    rintro rfl
    exact hd hc
  rw [List.append_assoc, List.takeWhile_append_of_pos hall]
  exact List.append_nil d

theorem patternRoot_append (hd : wildcard ∉ d) : patternRoot (d ++ wildcardSegment) = rootOf d := by
  have htake := takeWhile_pattern hd []
  rw [List.append_nil] at htake
  rw [patternRoot, htake]
  rfl

theorem patternRoot_eq (hfile : Text.startsWith d fileScheme = false) (hd : wildcard ∉ d) :
    patternRoot (Text.dropLeading (d ++ wildcardSegment) fileScheme) = rootOf d := by
  have hstarts : Text.startsWith (d ++ wildcardSegment) fileScheme = false := by
    have h : Text.startsWith _ fileScheme = _ := startsWith_pattern (by decide) d []
    rwa [List.append_nil, hfile] at h
  rw [Text.dropLeading, Text.dropLeading?_eq_none_iff.mpr hstarts]
  exact patternRoot_append hd

theorem not_mem_rootOf (hd : wildcard ∉ d) : wildcard ∉ rootOf d := by
  unfold rootOf
  split
  · decide
  · exact hd

section Root

variable (hscheme : SchemeLess d) (hd : wildcard ∉ d)

include hscheme hd

theorem handle_patternRoot : store.handle
    (patternRoot (Text.dropLeading (d ++ wildcardSegment) fileScheme)) =
      .ok (.file (store.pathOf (rootOf d))) := by
  rw [patternRoot_eq hscheme.no_file hd]
  exact hscheme.rootOf.handle_eq (not_mem_rootOf hd) store

/-- Nothing is listed unless the path leads to a directory. -/
theorem wildcardDirectories_eq_nil (h : host.lookup (store.pathOf (rootOf d)) ≠ .ok .directory) :
    store.wildcardDirectories host (d ++ wildcardSegment) = .ok [] := by
  exact subdirectories_eq_ok_iff.mpr
    ⟨_, handle_patternRoot hscheme hd, Or.inl ⟨Handle.isDirectory?_file_eq_false.mpr h, rfl⟩⟩

/-- Where the path leads to a directory, that is at its absolute path. -/
theorem wildcardRoot_of_lookup (hanchored : host.Anchored)
    (h : host.lookup (store.pathOf (rootOf d)) = .ok .directory) :
    store.WildcardRoot host (d ++ wildcardSegment) (store.absolutePathOf host (rootOf d))
      (Place.ofPath (store.absolutePathOf host (rootOf d))) := by
  obtain ⟨place, hlocate, hentry⟩ := FileTree.lookup_eq_ok_iff.mp h
  have hplace : Place.ofPath (store.absolutePathOf host (rootOf d)) = place :=
    Host.ofPath_absolutePath hanchored hlocate
  rw [hplace]
  exact ⟨⟨_, handle_patternRoot hscheme hd, hlocate, rfl⟩, hentry⟩

end Root

/-! ## What is listed -/

/-- Names in order make paths in order. -/
theorem pairwise_append {root : Text} {names : List Text} (hnames : ∀ name ∈ names, slash ∉ name)
    (h : names.Pairwise (· < ·)) : (names.map (Path.append root)).Pairwise (· < ·) := by
  rw [List.pairwise_map]
  refine h.imp_of_mem fun ha hb hlt => ?_
  rw [Path.append_of_relative (Path.isAbsolute_of_not_mem (hnames _ ha)),
    Path.append_of_relative (Path.isAbsolute_of_not_mem (hnames _ hb))]
  exact List.Lex.append_left _ hlt _

/-- What the patterns with `d` before the wildcard stand for when `root`, the absolute path of that, is
a directory: its subdirectories, which are visible and come in order, and the files in them. -/
structure Expands (store : Store) (host : Host) (d f root : Text) (names : List Text) : Prop where
  there : host.lookup root = .ok .directory
  lists : host.ListsSubdirectories (Place.ofPath root) names
  ordered : (names.map (Path.append root)).Pairwise (· < ·)
  directories : store.expand host (d ++ wildcardSegment) .directories =
    .ok (names.map fun name => .file (Path.append root name ++ [slash]))
  files : store.expand host (d ++ wildcardSegment ++ f) .files =
    .ok ((names.filter (holdsFile host (Place.ofPath root) f)).map fun name =>
      .file (Path.append (Path.append root name) f))

theorem expands_of_lookup (htree : host.tree.WellFormed) (hanchored : host.Anchored)
    (hscheme : SchemeLess d) (hpattern : IsPatternOf .files d f)
    (h : host.lookup (store.pathOf (rootOf d)) = .ok .directory) :
    Expands store host d f (store.absolutePathOf host (rootOf d))
      (subdirectoryNames host (Place.ofPath (store.absolutePathOf host (rootOf d)))) := by
  have hroot := wildcardRoot_of_lookup hscheme hpattern.no_wildcard hanchored h
  have hdirectory := isPatternDirectory_append hscheme.no_package hpattern.no_wildcard
  have hlists := listsSubdirectories htree (Place.ofPath (store.absolutePathOf host (rootOf d)))
  have hnames : ∀ name ∈ subdirectoryNames host _, slash ∉ name := fun name hname =>
    (htree.segments_of ((hlists.mem_iff name).mp hname).2 name (by simp)).1.1.2.2
  have hpackage : Text.startsWith (d ++ wildcardSegment ++ f) packageScheme = false := by
    rw [startsWith_pattern (by decide), hscheme.no_package]
  refine ⟨(Host.lookup_absolutePath_iff htree hanchored _).mpr hroot.directory, hlists,
    pairwise_append hnames hlists.sorted, ?_, ?_⟩
  · rw [expand_directories hdirectory, hroot.wildcardDirectories hanchored]
    exact congrArg Except.ok (List.map_map ..)
  · exact expand_files htree hanchored hroot hdirectory hpattern.no_slash
      (checkPattern_eq_ok_iff_exists.mpr ⟨hpackage, d, f, hpattern, rfl⟩)

/-- A pattern whose wildcard is a segment of its own. -/
structure IsWholeSegment (d f : Text) : Prop where
  directory : d.IsDirectoryPart
  schemeLess : SchemeLess d
  pattern : IsPatternOf .files d f

/-- What stands before the wildcard is followed as it is written, and its subdirectories are listed by
its absolute path. That is a directory as well, and the other way round if the path is absolute or the
base directory is there. Whatever has not the form of a pattern is refused. -/
theorem expand_whole_segment (store : Store) {host : Host} (htree : host.tree.WellFormed)
    (hanchored : host.Anchored) :
    (∀ d f, IsWholeSegment d f →
      (host.lookup (store.pathOf (rootOf d)) ≠ .ok .directory →
        store.expand host (d ++ wildcardSegment) .directories = .ok []
          ∧ store.expand host (d ++ wildcardSegment ++ f) .files = .ok [])
      ∧ (host.lookup (store.pathOf (rootOf d)) = .ok .directory →
        ∃ names, Expands store host d f (store.absolutePathOf host (rootOf d)) names)
      ∧ ((Path.isAbsolute (Path.clean (rootOf d)) = true ∨ ∃ base, store.StartsAt host base) →
        (store.pathOf (rootOf d)).utf8Length ≤ FileTree.pathLimit →
        host.lookup (store.absolutePathOf host (rootOf d)) = .ok .directory →
        host.lookup (store.pathOf (rootOf d)) = .ok .directory))
    ∧ ∀ kind t, (¬∃ d f, IsPatternOf kind d f ∧ t = d ++ wildcardSegment ++ f) →
      ∃ fault, store.expand host t kind = .error (.store fault) := by
  constructor
  · intro d f h
    have hdirectory := isPatternDirectory_append h.schemeLess.no_package h.pattern.no_wildcard
    refine ⟨fun hnone => ?_, fun hleads => ?_, fun hstarts hlength =>
      leads_of_directory htree hanchored (rootOf_ne_nil d) hstarts hlength⟩
    · have hnil := wildcardDirectories_eq_nil h.schemeLess h.pattern.no_wildcard hnone
      have hpackage : Text.startsWith (d ++ wildcardSegment ++ f) packageScheme = false := by
        rw [startsWith_pattern (by decide), h.schemeLess.no_package]
      have hcheck : checkPattern .files (d ++ wildcardSegment ++ f) = .ok () :=
        checkPattern_eq_ok_iff_exists.mpr ⟨hpackage, d, f, h.pattern, rfl⟩
      constructor
      · rw [expand_directories hdirectory, hnil]
        rfl
      · rw [hdirectory.expand store host h.pattern.no_slash hcheck, hnil]
        rfl
    · exact ⟨_, expands_of_lookup htree hanchored h.schemeLess h.pattern hleads⟩
  · intro kind t hform
    have hrefused : checkPattern kind t ≠ .ok () := fun hcheck =>
      hform (checkPattern_eq_ok_iff_exists.mp hcheck).2
    unfold expand
    split
    · exact ⟨_, rfl⟩
    · rename_i hcheck
      exact absurd hcheck hrefused

/-! ## Samples -/

theorem isWholeSegment_config : IsWholeSegment "config/" "application.yml" where
  directory := Or.inr ⟨"config", rfl⟩
  schemeLess := ⟨rfl, rfl, Or.inl rfl⟩
  pattern := ⟨by decide, by decide, by decide, nofun⟩

/-- The subdirectories of a directory are listed, and a lone wildcard is refused. -/
theorem expand_whole_segment_config :
    (∃ names, Expands ⟨none⟩ StandardResolver.patternHost "config/" "application.yml" "/ws/config" names)
      ∧ ∃ fault, Store.expand ⟨none⟩ StandardResolver.patternHost "config/*" .directories =
        .error (.store fault) := by
  have hform : ¬∃ d f, IsPatternOf .directories d f ∧ ("config/*" : Text) = d ++ wildcardSegment ++ f := by
    rintro ⟨d, f, hpattern, hsame⟩
    obtain rfl := hpattern.ends rfl
    have hlast := congrArg List.getLast? hsame
    rw [List.append_nil, wildcardSegment, List.getLast?_append] at hlast
    cases hlast
  obtain ⟨hwhole, hrefused⟩ := expand_whole_segment ⟨none⟩ StandardResolver.wellFormed_patternHost
    StandardResolver.anchored_patternHost
  exact ⟨(hwhole "config/" "application.yml" isWholeSegment_config).2.1 rfl, hrefused _ _ hform⟩

/-- A base directory that is not there is not left by a step outwards, so nothing is listed although
there is a directory at the absolute path. -/
theorem not_expands_behind_missing :
    ¬∀ (store : Store) (host : Host) (d f : Text), host.tree.WellFormed → host.Anchored →
      IsWholeSegment d f → host.lookup (store.absolutePathOf host (rootOf d)) = .ok .directory →
      ∃ names, Expands store host d f (store.absolutePathOf host (rootOf d)) names := by
  intro hall
  have hwhole : IsWholeSegment [] [] :=
    ⟨Or.inl rfl, ⟨rfl, rfl, Or.inl rfl⟩, ⟨by simp, by simp, by simp, nofun⟩⟩
  obtain ⟨names, hnames⟩ := hall ⟨some "missing/.."⟩ StandardResolver.patternHost [] []
    StandardResolver.wellFormed_patternHost StandardResolver.anchored_patternHost hwhole rfl
  have hnone : Store.expand ⟨some "missing/.."⟩ StandardResolver.patternHost
      ([] ++ wildcardSegment) .directories = .ok [] := rfl
  have hnil := Except.ok.inj (hnone.symm.trans hnames.directories)
  have hmem : ("config" : Text) ∈ names := (hnames.lists.mem_iff "config").mpr ⟨rfl, rfl⟩
  rw [List.map_eq_nil_iff.mp hnil.symm] at hmem
  cases hmem

end Store

end ConfigLocator

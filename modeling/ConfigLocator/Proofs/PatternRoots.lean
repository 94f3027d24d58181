import ConfigLocator.Proofs.Beside
import ConfigLocator.Proofs.PatternMatches

/-!
# The directory before a wildcard

The text before the wildcard of a pattern is a location of its own, so a pattern can be compared with
the lookup of that location (`Store.Agrees`): one of them is refused when the other is, nothing is
listed unless the lookup leads to a directory, and whatever is found lies in it.

Without the scheme `file:` the two agree. Behind it they need not: the lookup takes what follows for a
path, with two slashes at its start as part of the scheme, and the pattern takes it for a location
again. `Store.ReadsAlike` says which texts mean the same in both readings, and `Store.expand_agrees`
that a pattern agrees with its own reading in any case.
-/

namespace ConfigLocator

/-! ## Paths from the root -/

namespace Place

variable {place : Place} {count : Nat}

/-- A rooted path names its place, by the text alone. -/
theorem ofPath_rootedPath (host : Host) (hplace : ∀ s ∈ place, Path.IsSegment s)
    (hcount : IsRoot count) : ofPath (host.absolutePath (place.rootedPath count)) = place := by
  have habsolute : Path.isAbsolute (place.rootedPath count) = true := by
    rcases hcount with rfl | rfl <;> rfl
  have hslashes : Path.pushAll true [] (place.rootedPath count) =
      Path.pushAll true [] (Text.join [slash] place) := by
    rcases hcount with rfl | rfl
    · exact Path.pushAll_append_slash [] _
    · exact (Path.pushAll_append_slash [] _).trans (Path.pushAll_append_slash [] _)
  show (Path.pushAll true [] (Path.normalize (Path.append _ _))).reverse = place
  rw [Path.append, if_pos habsolute, Path.pushAll_normalize_of_isAbsolute habsolute, hslashes,
    Path.pushAll_join fun s hs => (hplace s hs).1.2.2, Path.foldl_of_isSegment hplace,
    List.append_nil, List.reverse_reverse]

end Place

/-- A directory is found under its rooted path, with or without a slash at the end. -/
theorem FileTree.WellFormed.lookup_directory {tree : FileTree} (htree : tree.WellFormed)
    {workingDirectory place : Place} {count : Nat} (hcount : IsRoot count)
    (h : tree.entry? place = some .directory) {ending : Text} (hending : ending = [] ∨ ending = [slash]) :
    tree.lookup workingDirectory (place.rootedPath count ++ ending) = .ok .directory := by
  by_cases hroot : place = []
  · subst hroot
    rcases hcount with rfl | rfl <;> rcases hending with rfl | rfl <;> rfl
  · rcases hending with rfl | rfl
    · rw [List.append_nil]
      exact htree.lookup_rootedPath hroot h hcount
    · exact htree.lookup_rootedPath_slash hroot h hcount

namespace Store

variable {store : Store} {host : Host} {kind : PatternKind} {d f p q t : Text}

/-- The place of a location that starts at the root is read off its segments. -/
theorem ofPath_absolutePathOf (habsolute : Path.isAbsolute (Path.withSlashes p) = true) :
    Place.ofPath (store.absolutePathOf host p) = (Path.pushAll true [] (Path.withSlashes p)).reverse := by
  rw [absolutePathOf_eq, append_anchor_of_isAbsolute habsolute]
  exact congrArg List.reverse (Path.pushAll_normalize_of_isAbsolute habsolute)

/-- A location that starts at the root leads to the directory that is at its place. -/
theorem lookup_pathOf_iff (htree : host.tree.WellFormed) (hanchored : host.Anchored)
    (habsolute : Path.isAbsolute (Path.withSlashes p) = true) :
    host.lookup (store.pathOf p) = .ok .directory ↔
      host.tree.entry? (Place.ofPath (store.absolutePathOf host p)) = some .directory := by
  constructor
  · intro h
    obtain ⟨place, hlocate, hentry⟩ := FileTree.lookup_eq_ok_iff.mp h
    rwa [show Place.ofPath (store.absolutePathOf host p) = place from
      Host.ofPath_absolutePath hanchored hlocate]
  · intro h
    have hne : p ≠ [] := by
      rintro rfl
      cases habsolute
    have hclean : Path.isAbsolute (Path.clean p) = true := (Path.isAbsolute_clean p).trans habsolute
    have hnormal : Path.normalize (Path.withSlashes p) =
        (Place.ofPath (store.absolutePathOf host p)).rootedPath
          (Path.rootSlashes (Path.withSlashes p)) := by
      rw [Path.normalize_of_isAbsolute habsolute, ofPath_absolutePathOf habsolute]
      rfl
    obtain ⟨ending, hending, hpath⟩ : ∃ ending : Text, (ending = [] ∨ ending = [slash])
        ∧ Path.clean p = Path.normalize (Path.withSlashes p) ++ ending := by
      rcases Path.clean_eq hne with hopen | ⟨hclosed, -⟩
      · exact ⟨[], Or.inl rfl, by rw [hopen, List.append_nil]⟩
      · exact ⟨[slash], Or.inr rfl, hclosed⟩
    rw [pathOf, anchor_of_isAbsolute hclean, hpath, hnormal]
    exact htree.lookup_directory (Path.rootSlashes_of_isAbsolute habsolute) h hending

/-- Two slashes more at the root lead to the same place. -/
theorem ofPath_absolutePathOf_slashes (store : Store) (host : Host)
    (habsolute : Path.isAbsolute (Path.withSlashes q) = true) :
    Place.ofPath (store.absolutePathOf host ([slash, slash] ++ q)) =
      Place.ofPath (store.absolutePathOf host q) := by
  have hmore : Path.withSlashes ([slash, slash] ++ q) = [] ++ slash :: ([] ++ slash :: Path.withSlashes q) :=
    rfl
  rw [ofPath_absolutePathOf habsolute, ofPath_absolutePathOf (by rw [hmore]; rfl), hmore,
    Path.pushAll_append_slash, Path.pushAll_append_slash]
  rfl

/-! ## What lies in a directory -/

/-- A visible subdirectory of a place, or a file in one. -/
inductive LiesIn (host : Host) (place : Place) : PatternKind → Handle → Prop
  | subdirectory {name path : Text} (hname : host.HasSubdirectory place name)
      (hlookup : host.lookup path = .ok .directory)
      (hplace : Place.ofPath (host.absolutePath path) = place ++ [name]) :
      LiesIn host place .directories (.file path)
  | entry {name f path : Text} {content : List UInt8} (hname : host.HasSubdirectory place name)
      (hlookup : host.lookup path = .ok (.file content))
      (hplace : Place.ofPath (host.absolutePath path) = place ++ [name, f]) :
      LiesIn host place .files (.file path)

/-- What a pattern comes to goes with what the location before its wildcard comes to. -/
structure Agrees (store : Store) (host : Host) (kind : PatternKind) (t : Text)
    (named : Except StoreFault Handle) : Prop where
  refused_iff : (∃ fault, store.expand host t kind = .error fault) ↔ ∃ fault, named = .error fault
  none_there : ∀ handle, named = .ok handle → handle.isDirectory? host ≠ .ok true →
    store.expand host t kind = .ok []
  lies_in : ∀ handle, named = .ok handle → handle.isDirectory? host = .ok true →
    ∃ path found, handle = .file path ∧ store.expand host t kind = .ok found
      ∧ ∀ x ∈ found, LiesIn host (Place.ofPath (host.absolutePath path)) kind x

theorem Agrees.of_directory {path : Text} (hlookup : host.lookup path = .ok .directory)
    {found : List Handle} (hfound : store.expand host t kind = .ok found)
    (hall : ∀ x ∈ found, LiesIn host (Place.ofPath (host.absolutePath path)) kind x) :
    store.Agrees host kind t (.ok (.file path)) where
  refused_iff := iff_of_false (by simp [hfound]) (by simp)
  none_there := by
    rintro _ ⟨⟩ hnone
    exact absurd (Handle.isDirectory?_file_eq_true.mpr hlookup) hnone
  lies_in := by
    rintro _ ⟨⟩ -
    exact ⟨path, found, rfl, hfound, hall⟩

theorem Agrees.of_not_directory {path : Text} (hlookup : host.lookup path ≠ .ok .directory)
    (hnone : store.expand host t kind = .ok []) : store.Agrees host kind t (.ok (.file path)) where
  refused_iff := iff_of_false (by simp [hnone]) (by simp)
  none_there := by
    rintro _ ⟨⟩ -
    exact hnone
  lies_in := by
    rintro _ ⟨⟩ hdirectory
    exact absurd (Handle.isDirectory?_file_eq_true.mp hdirectory) hlookup

/-- Only the directory that a path leads to matters. -/
theorem Agrees.of_same_directory {path other : Text} (h : store.Agrees host kind t (.ok (.file path)))
    (hlookup : host.lookup path = .ok .directory ↔ host.lookup other = .ok .directory)
    (hplace : Place.ofPath (host.absolutePath path) = Place.ofPath (host.absolutePath other)) :
    store.Agrees host kind t (.ok (.file other)) := by
  by_cases hother : host.lookup other = .ok .directory
  · obtain ⟨_, found, hsame, hfound, hall⟩ :=
      h.lies_in _ rfl (Handle.isDirectory?_file_eq_true.mpr (hlookup.mpr hother))
    cases hsame
    exact .of_directory hother hfound (hplace ▸ hall)
  · refine .of_not_directory hother (h.none_there _ rfl fun hdirectory => hother ?_)
    exact hlookup.mp (Handle.isDirectory?_file_eq_true.mp hdirectory)

section Root

variable {root : Text} {place : Place} (htree : host.tree.WellFormed) (hanchored : host.Anchored)
  (hroot : store.WildcardRoot host (d ++ wildcardSegment) root place)

include htree hanchored hroot

theorem liesIn_subdirectory {name : Text} (hname : host.HasSubdirectory place name) :
    LiesIn host place .directories (.file (Path.append root name ++ [slash])) := by
  obtain ⟨hexists, hplace⟩ := subdirectory_path htree hanchored hroot hname
  refine .subdirectory hname ?_ hplace
  cases hlookup : host.lookup (Path.append root name ++ [slash]) with
  | error fault =>
      rw [Handle.exists?, Handle.entry?, hlookup] at hexists
      cases hexists
  | ok entry => rw [FileTree.lookup_append_slash hlookup]

/-- Entries of a subdirectory are found under their paths, which differ. -/
theorem entry_path {name : Text} (hname : host.HasSubdirectory place name) {entry : Entry}
    (hentry : host.tree.entry? (place ++ [name, f]) = some entry) :
    host.lookup (Path.append (Path.append root name) f) = .ok entry
      ∧ Place.ofPath (host.absolutePath (Path.append (Path.append root name) f)) =
        place ++ [name, f] := by
  have hsegments : ∀ s ∈ place ++ [name, f], Path.IsSegment s := fun s hs =>
    (htree.segments_of hentry s hs).1
  obtain ⟨count, hcount, hpaths⟩ := exists_rootedPath htree hanchored hroot
  rw [(hpaths name hname).2 f (hsegments f (by simp)).1.2.2]
  exact ⟨htree.lookup_rootedPath (by simp) hentry hcount,
    Place.ofPath_rootedPath host hsegments hcount⟩

theorem liesIn_entry {name : Text} (hname : host.HasSubdirectory place name)
    (hholds : holdsFile host place f name = true) :
    LiesIn host place .files (.file (Path.append (Path.append root name) f)) := by
  obtain ⟨content, hentry⟩ := holdsFile_iff.mp hholds
  obtain ⟨hlookup, hplace⟩ := entry_path htree hanchored hroot hname hentry
  exact .entry hname hlookup hplace

/-- Below a directory everything that is found lies in it. -/
theorem exists_found (hcheck : checkPattern kind (d ++ wildcardSegment ++ f) = .ok ())
    (hpattern : IsPatternOf kind d f) :
    ∃ found, store.expand host (d ++ wildcardSegment ++ f) kind = .ok found
      ∧ ∀ x ∈ found, LiesIn host place kind x := by
  have hdirectory := isPatternDirectory_append (no_package_of_checkPattern hcheck) hpattern.no_wildcard
  cases kind with
  | directories =>
      obtain rfl := hpattern.ends rfl
      rw [List.append_nil, expand_directories hdirectory, hroot.wildcardDirectories hanchored]
      refine ⟨_, rfl, fun x hx => ?_⟩
      obtain ⟨sub, hsub, rfl⟩ := List.mem_map.mp hx
      obtain ⟨name, hname, rfl⟩ := List.mem_map.mp hsub
      exact liesIn_subdirectory htree hanchored hroot (mem_subdirectoryNames.mp hname)
  | files =>
      refine ⟨_, expand_files htree hanchored hroot hdirectory hpattern.no_slash hcheck, fun x hx => ?_⟩
      obtain ⟨name, hname, rfl⟩ := List.mem_map.mp hx
      obtain ⟨hname, hholds⟩ := List.mem_filter.mp hname
      exact liesIn_entry htree hanchored hroot (mem_subdirectoryNames.mp hname) hholds

end Root

/-! ## The reading of the pattern -/

/-- A pattern agrees with the lookup of what it takes for the directory before the wildcard, unless
that is in a package. -/
theorem agrees_of_patternRoot (htree : host.tree.WellFormed) (hanchored : host.Anchored)
    (hcheck : checkPattern kind (d ++ wildcardSegment ++ f) = .ok ()) (hpattern : IsPatternOf kind d f)
    {named : Except StoreFault Handle}
    (hnamed : store.handle (patternRoot (Text.dropLeading (d ++ wildcardSegment) fileScheme)) = named)
    (hpackage : ∀ name path, named ≠ .ok (.package name path)) :
    store.Agrees host kind (d ++ wildcardSegment ++ f) named := by
  obtain ⟨select, hnone, hselect⟩ := exists_select store host hpattern hcheck
  cases named with
  | error refusal =>
      have hrefused : store.rootIsDirectory? host (d ++ wildcardSegment) = .error (.store refusal) := by
        rw [rootIsDirectory?, hnamed]
        rfl
      have hexpand : store.expand host (d ++ wildcardSegment ++ f) kind = .error (.store refusal) := by
        rw [hselect, wildcardDirectories_of_refused hrefused]
        rfl
      exact ⟨iff_of_true ⟨_, hexpand⟩ ⟨_, rfl⟩, nofun, nofun⟩
  | ok handle =>
      cases handle with
      | package name path => exact absurd rfl (hpackage name path)
      | file path =>
          by_cases hlookup : host.lookup path = .ok .directory
          · obtain ⟨place, hlocate, hentry⟩ := FileTree.lookup_eq_ok_iff.mp hlookup
            obtain ⟨found, hfound, hall⟩ := exists_found htree hanchored
              ⟨⟨path, hnamed, hlocate, rfl⟩, hentry⟩ hcheck hpattern
            rw [← Host.ofPath_absolutePath hanchored hlocate] at hall
            exact .of_directory hlookup hfound hall
          · have hanswered : store.rootIsDirectory? host (d ++ wildcardSegment) = .ok false := by
              rw [rootIsDirectory?, hnamed]
              exact Handle.isDirectory?_file_eq_false.mpr hlookup
            refine .of_not_directory hlookup ?_
            rw [hselect, (wildcardDirectories_of_not_directory hanswered).1]
            exact congrArg Except.ok hnone

/-- Of a directory in a package nothing is listed. -/
theorem eq_nil_of_package (hcheck : checkPattern kind (d ++ wildcardSegment ++ f) = .ok ())
    (hpattern : IsPatternOf kind d f) {name path : Text}
    (hnamed : store.handle (patternRoot (Text.dropLeading (d ++ wildcardSegment) fileScheme)) =
      .ok (.package name path))
    {found : List Handle} (h : store.expand host (d ++ wildcardSegment ++ f) kind = .ok found) :
    found = [] := by
  obtain ⟨select, hnone, hselect⟩ := exists_select store host hpattern hcheck
  rw [hselect] at h
  cases hsubs : store.wildcardDirectories host (d ++ wildcardSegment) with
  | error fault =>
      rw [hsubs] at h
      cases h
  | ok subs =>
      rw [hsubs] at h
      obtain ⟨handle, hhandle, hlisted⟩ := subdirectories_eq_ok_iff.mp hsubs
      obtain rfl := Except.ok.inj (hnamed.symm.trans hhandle)
      rcases hlisted with ⟨-, rfl⟩ | ⟨_, hfile, -⟩
      · exact (Except.ok.inj h).symm.trans hnone
      · cases hfile

/-! ## Both readings of a path -/

/-- What stands behind `file:` means the same as a path, without the two slashes of the scheme, and as
a location. -/
structure ReadsAlike (p : Text) : Prop where
  schemeLess : SchemeLess p
  rooted : ∀ q, p = [slash, slash] ++ q → Path.isAbsolute (Path.withSlashes q) = true

theorem ReadsAlike.same_directory (h : ReadsAlike p) (store : Store) (htree : host.tree.WellFormed)
    (hanchored : host.Anchored) :
    let q := Text.dropLeading p [slash, slash]
    (host.lookup (store.pathOf p) = .ok .directory ↔ host.lookup (store.pathOf q) = .ok .directory)
      ∧ Place.ofPath (store.absolutePathOf host p) = Place.ofPath (store.absolutePathOf host q) := by
  intro q
  cases hroot : Text.startsWith p [slash, slash] with
  | false =>
      have hsame : q = p := by
        show Text.dropLeading p [slash, slash] = p
        rw [Text.dropLeading, Text.dropLeading?_eq_none_iff.mpr hroot]
        rfl
      rw [hsame]
      exact ⟨Iff.rfl, rfl⟩
  | true =>
      obtain ⟨rest, rfl⟩ := Text.startsWith_iff.mp hroot
      have hrest : q = rest := by
        show Text.dropLeading ([slash, slash] ++ rest) [slash, slash] = rest
        rw [Text.dropLeading, Text.dropLeading?_append]
        rfl
      have habsolute := h.rooted rest rfl
      have hplace := ofPath_absolutePathOf_slashes store host habsolute
      rw [hrest, lookup_pathOf_iff htree hanchored habsolute,
        lookup_pathOf_iff htree hanchored (p := [slash, slash] ++ rest) rfl, hplace]
      exact ⟨Iff.rfl, rfl⟩

/-- Behind `file:` a lookup names a path whatever that looks like. -/
theorem handle_fileScheme (store : Store) (hp : wildcard ∉ p) :
    store.handle (fileScheme ++ p) = .ok (.file (store.pathOf (Text.dropLeading p [slash, slash]))) := by
  have hplain : isPattern (fileScheme ++ p) = false := by
    rw [isPattern, ← Bool.not_eq_true, List.contains_iff_mem]
    exact List.not_mem_append (by decide) hp
  have hscheme : Text.startsWith (fileScheme ++ p) fileScheme = true :=
    Text.startsWith_iff.mpr (List.prefix_append fileScheme p)
  have hpackage : Text.startsWith (fileScheme ++ p) packageScheme = false := rfl
  rw [handle_eq_file hplain (by simp [isSupported, hscheme]) hpackage, withoutFileScheme_fileScheme]
  rfl

/-- What stands before the wildcard as it is written. -/
def beforeWildcard (t : Text) : Text := t.takeWhile (· != wildcard)

/-- A pattern agrees with the lookup of what stands before its wildcard, unless that has the scheme
`file:`. Behind the scheme the lookup has a path and the pattern a location, with which it agrees; so
it agrees with the lookup if the two readings mean the same. -/
theorem expand_agrees (store : Store) {host : Host} (htree : host.tree.WellFormed)
    (hanchored : host.Anchored) {kind : PatternKind} {t : Text} (hcheck : checkPattern kind t = .ok ())
    (hpath : withoutFileScheme (beforeWildcard t) ≠ []) :
    (Text.startsWith (beforeWildcard t) fileScheme = false →
      store.Agrees host kind t (store.handle (beforeWildcard t)))
    ∧ ∀ p, beforeWildcard t = fileScheme ++ p →
        store.handle (beforeWildcard t) =
          .ok (.file (store.pathOf (Text.dropLeading p [slash, slash])))
        ∧ (ReadsAlike p → store.Agrees host kind t (store.handle (beforeWildcard t)))
        ∧ ((∀ name path, store.handle p ≠ .ok (.package name path)) →
          store.Agrees host kind t (store.handle p))
        ∧ ∀ name path, store.handle p = .ok (.package name path) →
          ∀ found, store.expand host t kind = .ok found → found = [] := by
  obtain ⟨hpackage, d, f, hpattern, rfl⟩ := checkPattern_eq_ok_iff_exists.mp hcheck
  have hd : beforeWildcard (d ++ wildcardSegment ++ f) = d := takeWhile_pattern hpattern.no_wildcard f
  rw [hd] at hpath ⊢
  constructor
  · intro hfile
    have hne : d ≠ [] := by rwa [withoutFileScheme_of_startsWith hfile] at hpath
    have hroot : patternRoot (Text.dropLeading (d ++ wildcardSegment) fileScheme) = d := by
      rw [patternRoot_eq hfile hpattern.no_wildcard, rootOf, if_neg hne]
    refine agrees_of_patternRoot htree hanchored hcheck hpattern (by rw [hroot]) fun name path h => ?_
    have hstarts := startsWith_of_handle_eq_package h
    rw [no_package_of_checkPattern hcheck] at hstarts
    cases hstarts
  · rintro p rfl
    have hp : wildcard ∉ p := fun hmem => hpattern.no_wildcard (List.mem_append_right _ hmem)
    have hne : p ≠ [] := by
      rintro rfl
      exact hpath rfl
    have hroot : patternRoot (Text.dropLeading (fileScheme ++ p ++ wildcardSegment) fileScheme) = p := by
      rw [List.append_assoc, Text.dropLeading, Text.dropLeading?_append]
      show patternRoot (p ++ wildcardSegment) = p
      rw [patternRoot_append hp, rootOf, if_neg hne]
    refine ⟨handle_fileScheme store hp, fun halike => ?_, fun hnamed => ?_, fun name path h found => ?_⟩
    · have hnamed := halike.schemeLess.handle_eq hp store
      have hagrees : store.Agrees host kind _ (.ok (.file (store.pathOf p))) :=
        agrees_of_patternRoot htree hanchored hcheck hpattern (by rw [hroot, hnamed]) (by simp)
      obtain ⟨hlookup, hplace⟩ := halike.same_directory store htree hanchored
      rw [handle_fileScheme store hp]
      exact hagrees.of_same_directory hlookup hplace
    · exact agrees_of_patternRoot htree hanchored hcheck hpattern (by rw [hroot]) hnamed
    · exact eq_nil_of_package hcheck hpattern (by rw [hroot, h])

/-- With three slashes both readings start at the root. -/
theorem expand_agrees_three_slashes :
    Store.Agrees ⟨none⟩ StandardResolver.patternHost .directories "file:///ws/config/*/"
      (.ok (.file "/ws/config/")) := by
  have halike : ReadsAlike "///ws/config/" := by
    refine ⟨⟨rfl, rfl, Or.inl rfl⟩, fun q hq => ?_⟩
    obtain rfl : ("/ws/config/" : Text) = q :=
      List.append_cancel_left (show [slash, slash] ++ ("/ws/config/" : Text) = [slash, slash] ++ q from hq)
    rfl
  have hcheck : checkPattern .directories "file:///ws/config/*/" = .ok () := rfl
  obtain ⟨-, hfile⟩ := expand_agrees ⟨none⟩ StandardResolver.wellFormed_patternHost
    StandardResolver.anchored_patternHost hcheck (by decide)
  exact (hfile "///ws/config/" rfl).2.1 halike

/-- With two slashes the lookup leads nowhere, and the pattern reads them as the root. -/
example : Store.handle ⟨none⟩ "file://ws/config/" = .ok (.file "ws/config/")
    ∧ StandardResolver.patternHost.lookup "ws/config/" = .error .missing
    ∧ Store.expand ⟨none⟩ StandardResolver.patternHost "file://ws/config/*/" .directories =
      .ok [.file "//ws/config/a/", .file "//ws/config/b/"] := ⟨rfl, rfl, rfl⟩

end Store

end ConfigLocator

import ConfigLocator.Proofs.Subdirectories

/-!
# Base directories

A base directory takes the place of the working directory: a store that has one answers in every host
as a store without one does where that directory is worked in (`Store.baseDirectory_agrees`). Both
make the same absolute path of a location, one by joining before the host joins and the other by
leaving it to the host, and both follow the same segments from the same place
(`Host.lookup_append`).

The two part where the text of a path matters. An empty path names nothing from a working directory
and the directory itself behind a base directory, and a path that is within the limit of the host can
be beyond it behind a base directory (`Store.FitsBehind`).
-/

namespace ConfigLocator

/-! ## Working elsewhere -/

namespace Host

/-- The host, working in another directory. -/
def workingIn (host : Host) (place : Place) : Host := { host with workingDirectory := place }

/-- A directory that exists, in the form in which a host says where it works. -/
structure HasDirectory (host : Host) (base : Place) : Prop where
  segments : ∀ s ∈ base, Path.IsSegment s
  lookup : host.lookup base.toPath = .ok .directory

variable {host : Host} {base : Place} {path : Text}

theorem isAbsolute_toPath (base : Place) : Path.isAbsolute base.toPath = true := by
  simp [Place.toPath, Path.isAbsolute, Text.startsWith]

theorem HasDirectory.locate (h : host.HasDirectory base) :
    host.tree.locate host.workingDirectory base.toPath = .ok base := by
  obtain ⟨place, hlocate, -⟩ := FileTree.lookup_eq_ok_iff.mp h.lookup
  obtain ⟨-, -, -, hfollow⟩ := FileTree.locate_eq_ok_iff.mp hlocate
  rw [if_pos (isAbsolute_toPath base)] at hfollow
  have hplace : place = (Path.pushAll true [] base.toPath).reverse :=
    FileTree.eq_of_follow (by simp) (fun _ => Text.not_mem_of_mem_split) hfollow
  rw [Place.pushAll_toPath h.segments, List.reverse_reverse] at hplace
  rw [hlocate, hplace]

/-- From the base directory on, segments are followed as they are from its place. -/
theorem HasDirectory.follow_append (h : host.HasDirectory base)
    (hrelative : Path.isAbsolute path = false) :
    host.tree.follow [] (Text.split slash (Path.append base.toPath path)) =
      host.tree.follow base (Text.split slash path) := by
  obtain ⟨-, -, -, hfollow⟩ := FileTree.locate_eq_ok_iff.mp h.locate
  rw [if_pos (isAbsolute_toPath base)] at hfollow
  rw [Path.append, if_neg (by simp [hrelative])]
  by_cases hroot : base = []
  · subst hroot
    rfl
  · have hopen : Text.endsWith base.toPath [slash] = false :=
      Path.not_isDirectoryText_join hroot (fun s hs => (h.segments s hs).1) [slash]
    have hne : base.toPath ≠ [] := by simp [Place.toPath]
    rw [if_neg (by simp [hopen, hne]), List.append_assoc, List.singleton_append,
      Text.split_append_sep, FileTree.follow_append, hfollow]
    rfl

theorem le_utf8Length_append (p q : Text) : q.utf8Length ≤ (Path.append p q).utf8Length := by
  rw [Path.append]
  split
  · exact Nat.le_refl _
  · split
    · rw [Text.utf8Length_append]
      exact Nat.le_add_left _ _
    · rw [Text.utf8Length_append]
      exact Nat.le_add_left _ _

theorem HasDirectory.contains_zero (h : host.HasDirectory base)
    (hrelative : Path.isAbsolute path = false) :
    (Path.append base.toPath path).contains 0 = path.contains 0 := by
  obtain ⟨hnul, -, -, -⟩ := FileTree.locate_eq_ok_iff.mp h.locate
  have hnul : 0 ∉ base.toPath := by simpa using hnul
  rw [Path.append, if_neg (by simp [hrelative]), Bool.eq_iff_iff, List.contains_iff_mem,
    List.contains_iff_mem]
  split <;> simp [hnul, slash]

/-- What stands at a relative path is found behind the base directory as it is from there, as long as
the path behind the base directory is not too long. -/
theorem HasDirectory.lookup_append (h : host.HasDirectory base) (hne : path ≠ [])
    (hrelative : Path.isAbsolute path = false)
    (hlimit : (Path.append base.toPath path).utf8Length ≤ FileTree.pathLimit) :
    host.lookup (Path.append base.toPath path) = (host.workingIn base).lookup path := by
  have hshort : path.utf8Length ≤ FileTree.pathLimit :=
    (le_utf8Length_append base.toPath path).trans hlimit
  have habsolute : Path.isAbsolute (Path.append base.toPath path) = true :=
    (host.workingIn base).isAbsolute_append path
  have hbehind : Path.append base.toPath path ≠ [] := by
    intro hnil
    rw [hnil] at habsolute
    cases habsolute
  have hlocate : host.tree.locate host.workingDirectory (Path.append base.toPath path) =
      host.tree.locate base path := by
    rw [FileTree.locate, FileTree.locate, h.contains_zero hrelative]
    cases path.contains 0 with
    | true => rfl
    | false =>
        simp only [Bool.false_eq_true, if_false, hbehind, hne, Nat.not_lt.mpr hlimit,
          Nat.not_lt.mpr hshort, habsolute, hrelative, if_true]
        exact h.follow_append hrelative
  exact congrArg (· >>= _) hlocate

/-- An absolute path does not depend on where a host works. -/
theorem lookup_workingIn (habsolute : Path.isAbsolute path = true) (base : Place) :
    (host.workingIn base).lookup path = host.lookup path := by
  have hlocate : ∀ start, host.tree.locate start path = host.tree.locate host.workingDirectory path := by
    intro start
    rw [FileTree.locate, FileTree.locate, if_pos habsolute, if_pos habsolute]
  exact congrArg (· >>= _) (hlocate base)

theorem absolutePath_workingIn (habsolute : Path.isAbsolute path = true) (base : Place) :
    (host.workingIn base).absolutePath path = host.absolutePath path := by
  rw [absolutePath, absolutePath, Path.absolute, Path.absolute, Path.append, Path.append,
    if_pos habsolute, if_pos habsolute]

end Host

/-! ## Entries -/

/-- The store whose relative paths start at a directory. -/
def Store.behind (base : Place) : Store := ⟨some base.toPath⟩

/-- The handle on the same entry behind the base directory of a store. -/
def Handle.anchored (store : Store) : Handle → Handle
  | file path => file (store.anchor path)
  | h => h

namespace Store

/-- Of a base directory only paths take notice. -/
theorem handle_eq_map (store : Store) (location : Text) :
    store.handle location = (Store.handle ⟨none⟩ location).map (Handle.anchored store) := by
  unfold handle
  split
  · rfl
  · split
    · rfl
    · split
      · unfold packageHandle
        dsimp only
        split <;> rfl
      · rfl

/-- The location has a path part, and the path that it names is not too long behind the base
directory. -/
structure FitsBehind (base : Place) (location : Text) : Prop where
  nonempty : withoutFileScheme location ≠ []
  within : ∀ path, Store.handle ⟨none⟩ location = .ok (.file path) → Path.isAbsolute path = false →
    (Path.append base.toPath path).utf8Length ≤ FileTree.pathLimit

/-- Two stores, each in a host of its own, know a location in the same way: they fail alike, or name
the same entry, and say the same of it. -/
structure SameEntry (store other : Store) (host here : Host) (location : Text) : Prop where
  named : (store.handle location).map (Handle.canonical host) =
    (other.handle location).map (Handle.canonical here)
  answers : ∀ h h', store.handle location = .ok h → other.handle location = .ok h' →
    h.exists? host = h'.exists? here ∧ h.isDirectory? host = h'.isDirectory? here

/-- Two stores expand a pattern in the same way: they fail alike, or find entries with the same
absolute paths in the same order. -/
def SameExpansion (store other : Store) (host here : Host) (location : Text) (kind : PatternKind) :
    Prop :=
  (store.expand host location kind).map (·.map (Handle.canonical host)) =
    (other.expand here location kind).map (·.map (Handle.canonical here))

end Store

section Agreement

variable {host : Host} {base : Place} {location : Text}

theorem Handle.canonical_anchored (host : Host) (base : Place) (h : Handle) :
    (h.anchored (.behind base)).canonical host = h.canonical (host.workingIn base) := by
  cases h with
  | package name path => rfl
  | file path =>
      show Handle.file _ = Handle.file _
      cases habsolute : Path.isAbsolute path with
      | true =>
          rw [Store.anchor_of_isAbsolute habsolute, Host.absolutePath_workingIn habsolute]
      | false =>
          have hbehind : Path.isAbsolute (Path.append base.toPath path) = true :=
            (host.workingIn base).isAbsolute_append path
          have hanchor : (Store.behind base).anchor path = Path.append base.toPath path := by
            rw [Store.anchor, Store.behind]
            exact if_neg (by simp [habsolute])
          rw [hanchor, Host.absolutePath, Path.absolute, Path.append, if_pos hbehind]
          rfl

variable (hbase : host.HasDirectory base)

include hbase

theorem Handle.entry?_anchored (hfits : Store.FitsBehind base location) {h : Handle}
    (hnamed : Store.handle ⟨none⟩ location = .ok h) :
    Handle.entry? host (h.anchored (.behind base)) = h.entry? (host.workingIn base) := by
  cases h with
  | package name path => rfl
  | file path =>
      show Except.ok (host.lookup _).toOption = Except.ok (Host.lookup _ path).toOption
      cases habsolute : Path.isAbsolute path with
      | true =>
          rw [Store.anchor_of_isAbsolute habsolute, Host.lookup_workingIn habsolute]
      | false =>
          have hanchor : (Store.behind base).anchor path = Path.append base.toPath path := by
            rw [Store.anchor, Store.behind]
            exact if_neg (by simp [habsolute])
          have hne : path ≠ [] := by
            obtain ⟨-, -, -, rfl⟩ := Store.of_handle_eq_file hnamed
            exact Path.clean_ne_nil hfits.nonempty
          rw [hanchor, hbase.lookup_append hne habsolute (hfits.within path hnamed habsolute)]

theorem Store.sameEntry_behind (hfits : FitsBehind base location) :
    SameEntry (.behind base) ⟨none⟩ host (host.workingIn base) location := by
  rw [Store.behind]
  constructor
  · rw [handle_eq_map]
    cases Store.handle ⟨none⟩ location with
    | error fault => rfl
    | ok h => exact congrArg Except.ok (Handle.canonical_anchored host base h)
  · intro h h' hh hh'
    rw [handle_eq_map, hh'] at hh
    obtain rfl := Except.ok.inj hh
    have hentry := Handle.entry?_anchored hbase hfits hh'
    exact ⟨congrArg (· >>= _) hentry, congrArg (· >>= _) hentry⟩

/-! ## Patterns -/

/-- The directory before the wildcard is found alike, so its subdirectories are listed alike. -/
theorem Store.subdirectories_behind {pattern : Text} (hfits : FitsBehind base (patternRoot pattern)) :
    Store.subdirectories (.behind base) host pattern =
      Store.subdirectories ⟨none⟩ (host.workingIn base) pattern := by
  unfold subdirectories
  dsimp only
  rw [← patternRoot, handle_eq_map]
  cases hnamed : Store.handle ⟨none⟩ (patternRoot pattern) with
  | error fault => rfl
  | ok h =>
      have hentry := Handle.entry?_anchored hbase hfits hnamed
      have hdirectory : (h.anchored (.behind base)).isDirectory? host =
          h.isDirectory? (host.workingIn base) := congrArg (· >>= _) hentry
      cases h with
      | package name path => rfl
      | file path =>
          have hroot : host.absolutePath ((Store.behind base).anchor path) =
              (host.workingIn base).absolutePath path :=
            Handle.file.inj (Handle.canonical_anchored host base (.file path))
          simp only [Except.map, Handle.anchored, hroot]
          exact congrArg (· >>= _) hdirectory

end Agreement

/-- What is seen from an absolute directory has an absolute path. -/
theorem Path.isAbsolute_append_left {p : Text} (h : isAbsolute p = true) (q : Text) :
    isAbsolute (append p q) = true := by
  have hne := ne_nil_of_isAbsolute h
  rw [append]
  split
  · assumption
  · split
    · rw [isAbsolute_append_of_ne_nil hne, h]
    · rw [List.append_assoc, isAbsolute_append_of_ne_nil hne, h]

theorem Store.isAbsolute_of_mem_subdirectories {store : Store} {host : Host} {pattern : Text}
    {found : List Text} (h : store.subdirectories host pattern = .ok found) {path : Text}
    (hpath : path ∈ found) : Path.isAbsolute path = true := by
  obtain ⟨handle, -, ⟨-, rfl⟩ | ⟨root, -, -, rfl⟩⟩ := subdirectories_eq_ok_iff.mp h
  · cases hpath
  · obtain ⟨name, -, rfl⟩ := List.mem_map.mp hpath
    exact Path.isAbsolute_append_left (host.isAbsolute_absolutePath root) name

/-- Handles on absolute paths stand for the same wherever a host works. -/
theorem Handle.canonical_workingIn {host : Host} (base : Place) {paths : List Text}
    (habsolute : ∀ path ∈ paths, Path.isAbsolute path = true) :
    (paths.map Handle.file).map (canonical host) =
      (paths.map Handle.file).map (canonical (host.workingIn base)) := by
  rw [List.map_map, List.map_map]
  exact List.map_congr_left fun path hpath =>
    congrArg Handle.file (Host.absolutePath_workingIn (habsolute path hpath) base).symm

theorem Store.sameExpansion_behind {host : Host} {base : Place} (hbase : host.HasDirectory base)
    {location : Text} {kind : PatternKind}
    (hfits : checkPattern kind location = .ok () →
      FitsBehind base (patternRoot (Text.dropLeading location fileScheme))) :
    SameExpansion (.behind base) ⟨none⟩ host (host.workingIn base) location kind := by
  unfold SameExpansion expand
  split
  · rfl
  · rename_i hcheck
    dsimp only
    rw [subdirectories_behind hbase (hfits hcheck)]
    cases hsubs : Store.subdirectories ⟨none⟩ (host.workingIn base)
        (Text.dropLeading location fileScheme) with
    | error fault => rfl
    | ok subs =>
        have habsolute : ∀ path ∈ subs, Path.isAbsolute path = true := fun path =>
          isAbsolute_of_mem_subdirectories hsubs
        cases kind with
        | directories =>
            have hslash : ∀ path ∈ subs.map (· ++ [slash]), Path.isAbsolute path = true := by
              intro _ hpath
              obtain ⟨path, hmem, rfl⟩ := List.mem_map.mp hpath
              rw [Path.isAbsolute_append_of_ne_nil (Path.ne_nil_of_isAbsolute (habsolute path hmem))]
              exact habsolute path hmem
            have hfiles : (subs.map fun path => Handle.file (path ++ [slash])) =
                (subs.map (· ++ [slash])).map .file := (List.map_map).symm
            refine congrArg Except.ok ?_
            rw [hfiles]
            exact Handle.canonical_workingIn base hslash
        | files =>
            have hfiles : ∀ path ∈ subs.map (Path.append · (Text.afterLast slash
                (Text.dropLeading location fileScheme))), Path.isAbsolute path = true := by
              intro _ hpath
              obtain ⟨path, hmem, rfl⟩ := List.mem_map.mp hpath
              exact Path.isAbsolute_append_left (habsolute path hmem) _
            refine congrArg Except.ok ?_
            rw [List.filter_congr fun path hpath => by
              rw [← Host.lookup_workingIn (hfiles path hpath) base]]
            exact Handle.canonical_workingIn base fun path hpath =>
              hfiles path (List.mem_of_mem_filter hpath)

/-! ## Steps outwards -/

namespace Path

/-- A path of steps outwards. -/
def outwards (n : Nat) : Text := Text.join [slash] (List.replicate n parent)

theorem proper_replicate_parent (n : Nat) : ∀ s ∈ List.replicate n parent, Proper s := by
  intro s hs
  rw [List.eq_of_mem_replicate hs]
  exact proper_parent

theorem split_outwards (n : Nat) :
    Text.split slash (outwards (n + 1)) = List.replicate (n + 1) parent :=
  Text.split_join (by simp) fun s hs => (proper_replicate_parent _ s hs).2.2

theorem exists_outwards (n : Nat) : ∃ rest, outwards (n + 1) = dot :: dot :: rest := by
  cases n <;> exact ⟨_, rfl⟩

theorem not_mem_outwards {n c : Nat} (hslash : c ≠ slash) (hdot : c ≠ dot) : c ∉ outwards n := by
  intro h
  rcases Text.mem_join h with h | ⟨s, hs, hc⟩
  · exact hslash (List.mem_singleton.mp h)
  · rw [List.eq_of_mem_replicate hs] at hc
    simp [parent, hdot] at hc

/-- Steps outwards take nothing back. -/
theorem foldl_replicate_parent (k n : Nat) :
    (List.replicate n parent).foldl (pushSegment false) (List.replicate k parent) =
      List.replicate (k + n) parent := by
  induction n generalizing k with
  | zero => rfl
  | succ n ih =>
      have hpush : pushSegment false (List.replicate k parent) parent =
          List.replicate (k + 1) parent := by
        cases k with
        | zero => rfl
        | succ k => exact pushSegment_parent_parent
      rw [List.replicate_succ, List.foldl_cons, hpush, ih]
      congr 1
      omega

theorem normalize_outwards (n : Nat) : normalize (outwards (n + 1)) = outwards (n + 1) := by
  have hroot : rootSlashes (outwards (n + 1)) = 0 :=
    rootSlashes_of_relative (isAbsolute_join (proper_replicate_parent _))
  have hsegments : normalSegments false (Text.split slash (outwards (n + 1))) =
      List.replicate (n + 1) parent := by
    rw [split_outwards, normalSegments, ← List.replicate_zero, foldl_replicate_parent,
      List.reverse_replicate, Nat.zero_add]
  have hne : outwards (n + 1) ≠ [] := by
    obtain ⟨rest, hrest⟩ := exists_outwards n
    simp [hrest]
  rw [normalize, hroot]
  show (if Text.join _ (normalSegments false _) = [] then _ else Text.join _ (normalSegments false _)) = _
  rw [hsegments]
  exact if_neg hne

theorem clean_outwards (n : Nat) : clean (outwards (n + 1)) = outwards (n + 1) := by
  have hslashes : withSlashes (outwards (n + 1)) = outwards (n + 1) :=
    withSlashes_of_not_mem (not_mem_outwards (by decide) (by decide))
  obtain ⟨rest, hrest⟩ := exists_outwards n
  rw [clean, if_neg (by simp [hrest])]
  show (if isDirectoryText (withSlashes _) && !isDirectoryText (normalize (withSlashes _)) then _
    else normalize (withSlashes _)) = _
  rw [hslashes, normalize_outwards]
  simp

theorem utf8Length_outwards (n : Nat) : (outwards (n + 1)).utf8Length = 3 * n + 2 := by
  induction n with
  | zero => rfl
  | succ n ih =>
      have hcons : outwards (n + 2) = parent ++ [slash] ++ outwards (n + 1) := rfl
      have hstep : (parent ++ [slash]).utf8Length = 3 := rfl
      rw [hcons, Text.utf8Length_append, hstep, ih]
      omega

end Path

theorem FileTree.follow_outwards (tree : FileTree) (n : Nat) :
    tree.follow [] (List.replicate n Path.parent) = .ok [] := by
  induction n with
  | zero => rfl
  | succ n ih => exact ih

theorem Store.handle_outwards (n : Nat) :
    Store.handle ⟨none⟩ (Path.outwards (n + 1)) = .ok (.file (Path.outwards (n + 1))) := by
  obtain ⟨rest, hrest⟩ := Path.exists_outwards n
  have hplain : isPattern (Path.outwards (n + 1)) = false := by
    rw [isPattern, ← Bool.not_eq_true, List.contains_iff_mem]
    exact Path.not_mem_outwards (by decide) (by decide)
  have hsupported : isSupported (Path.outwards (n + 1)) = true := by
    have hscheme : hasScheme (Path.outwards (n + 1)) = false := by
      rw [hrest]
      rfl
    simp [isSupported, hscheme]
  have hpackage : Text.dropLeading? packageScheme (Path.outwards (n + 1)) = none := by
    rw [hrest]
    rfl
  have hfile : withoutFileScheme (Path.outwards (n + 1)) = Path.outwards (n + 1) := by
    rw [withoutFileScheme, hrest]
    rfl
  rw [handle, hplain, hsupported, hpackage, hfile, Path.clean_outwards]
  rfl

/-! ## Agreement -/

namespace Store

/-- Behind a base directory a store answers as it does where that directory is worked in. -/
theorem baseDirectory_agrees {host : Host} {base : Place} (hbase : host.HasDirectory base)
    (location : Text) :
    (FitsBehind base location →
      SameEntry (.behind base) ⟨none⟩ host (host.workingIn base) location)
    ∧ ∀ kind, (checkPattern kind location = .ok () →
        FitsBehind base (patternRoot (Text.dropLeading location fileScheme))) →
      SameExpansion (.behind base) ⟨none⟩ host (host.workingIn base) location kind :=
  ⟨sameEntry_behind hbase, fun _ => sameExpansion_behind hbase⟩

/-- A directory to work in, and another one that has a subdirectory. -/
def nestedHost : Host where
  tree := ⟨[(["home"], .directory), (["ws"], .directory), (["ws", "config"], .directory)]⟩
  workingDirectory := ["home"]
  environment := []

theorem hasDirectory_nestedHost : nestedHost.HasDirectory ["ws"] := ⟨by decide, rfl⟩

theorem baseDirectory_agrees_ws :
    SameEntry (.behind ["ws"]) ⟨none⟩ nestedHost (nestedHost.workingIn ["ws"]) "config/"
      ∧ SameExpansion (.behind ["ws"]) ⟨none⟩ nestedHost (nestedHost.workingIn ["ws"]) "*/"
        .directories := by
  have hentry : FitsBehind ["ws"] "config/" := by
    refine ⟨by decide, fun path hnamed _ => ?_⟩
    cases hnamed
    decide
  have hroot : FitsBehind ["ws"] (patternRoot "*/") := by
    refine ⟨by decide, fun path hnamed _ => ?_⟩
    cases hnamed
    decide
  exact ⟨(baseDirectory_agrees hasDirectory_nestedHost "config/").1 hentry,
    (baseDirectory_agrees hasDirectory_nestedHost "*/").2 .directories fun _ => hroot⟩

theorem outwards_hasPath (n : Nat) :
    Text.startsWith (Path.outwards (n + 1)) packageScheme = false
      ∧ withoutFileScheme (Path.outwards (n + 1)) ≠ [] := by
  obtain ⟨rest, hrest⟩ := Path.exists_outwards n
  rw [hrest]
  exact ⟨rfl, List.cons_ne_nil _ _⟩

/-- Steps outwards that only just fit into a path are too many behind a base directory. -/
theorem not_sameEntry_outwards {n : Nat} (hshort : 3 * n + 2 ≤ FileTree.pathLimit)
    (hlong : FileTree.pathLimit < 3 * n + 6) :
    ¬SameEntry (.behind ["ws"]) ⟨none⟩ nestedHost (nestedHost.workingIn ["ws"])
      (Path.outwards (n + 1)) := by
  intro hsame
  have hrelative : Path.isAbsolute (Path.outwards (n + 1)) = false :=
    Path.isAbsolute_join (Path.proper_replicate_parent _)
  have hnul : (Path.outwards (n + 1)).contains 0 = false := by
    rw [← Bool.not_eq_true, List.contains_iff_mem]
    exact Path.not_mem_outwards (by decide) (by decide)
  have hne : Path.outwards (n + 1) ≠ [] := by
    obtain ⟨rest, hrest⟩ := Path.exists_outwards n
    simp [hrest]
  have hhere : (nestedHost.workingIn ["ws"]).lookup (Path.outwards (n + 1)) = .ok .directory := by
    refine FileTree.lookup_eq_ok_iff.mpr ⟨[], FileTree.locate_eq_ok_iff.mpr ⟨hnul, hne, ?_, ?_⟩, rfl⟩
    · rwa [Path.utf8Length_outwards]
    · rw [Path.split_outwards, hrelative]
      exact FileTree.follow_outwards _ n
  have hbehind : Path.append (Place.toPath ["ws"]) (Path.outwards (n + 1)) =
      "/ws/" ++ Path.outwards (n + 1) := by
    rw [Path.append, hrelative]
    rfl
  have hthere : nestedHost.lookup ("/ws/" ++ Path.outwards (n + 1)) = .error .tooLong := by
    have hlength : FileTree.pathLimit < Text.utf8Length ("/ws/" ++ Path.outwards (n + 1)) := by
      have hlead : Text.utf8Length "/ws/" = 4 := rfl
      rw [Text.utf8Length_append, Path.utf8Length_outwards, hlead]
      omega
    have hnul' : ("/ws/" ++ Path.outwards (n + 1)).contains 0 = false := hnul
    rw [Host.lookup, FileTree.lookup, FileTree.locate, hnul', if_neg (by simp), if_neg (by simp [hne]),
      if_pos hlength]
    rfl
  have hnamed : (Store.behind ["ws"]).handle (Path.outwards (n + 1)) =
      .ok (.file ("/ws/" ++ Path.outwards (n + 1))) := by
    rw [behind, handle_eq_map, handle_outwards, ← hbehind]
    show Except.ok (Handle.file (if Path.isAbsolute _ then _ else _)) = _
    rw [hrelative]
    rfl
  have hexists := (hsame.answers _ _ hnamed (handle_outwards n)).1
  simp only [Handle.exists?, Handle.entry?, hhere, hthere] at hexists
  cases hexists

/-- The two differ on a path that is too long only behind the base directory, and on a pattern whose
root, read as a location, is an empty path: from the working directory that leads nowhere, and the base
directory is one. -/
theorem not_baseDirectory_agrees :
    (¬∀ (host : Host) (base : Place) (location : Text), host.HasDirectory base →
      Text.startsWith location packageScheme = false → withoutFileScheme location ≠ [] →
      SameEntry (.behind base) ⟨none⟩ host (host.workingIn base) location)
    ∧ ¬∀ (host : Host) (base : Place) (location : Text) (kind : PatternKind),
      host.HasDirectory base → Text.startsWith location packageScheme = false →
      withoutFileScheme location ≠ [] →
      SameExpansion (.behind base) ⟨none⟩ host (host.workingIn base) location kind := by
  constructor
  · intro hall
    obtain ⟨hpackage, hpath⟩ := outwards_hasPath 1364
    exact not_sameEntry_outwards (by decide) (by decide)
      (hall nestedHost ["ws"] (Path.outwards (1364 + 1)) hasDirectory_nestedHost hpackage hpath)
  · intro hall
    have hsame := hall nestedHost ["ws"] "file:file:*/" .directories hasDirectory_nestedHost rfl
      (by decide)
    cases hsame

end Store

end ConfigLocator

import ConfigLocator.Proofs.Subdirectories

/-!
# Following clean paths

A clean path goes outwards first and then down through names (`Path.isStraight_clean`). So in a tree
without gaps it can be followed from a directory as soon as there is a directory at the place that it
names by the text alone (`FileTree.WellFormed.follow_straight`): what it passes on the way lies on the
way to that place, or around the place where it starts.

A store anchors relative paths at its base directory. Where that is there, following an anchored path
is following it from the base directory (`Store.follow_anchor`), and a location leads to a directory
when there is one at its absolute path (`Store.leads_of_directory`).
-/

namespace ConfigLocator

/-! ## The form of clean paths -/

namespace Path

/-- Segments that stay where they are. -/
def AreIdle (segments : List Text) : Prop := ∀ s ∈ segments, s = [] ∨ s = current

/-- Steps outwards before names, and nothing else but segments that stay. -/
inductive IsStraight : List Text → Prop
  | intro (before : List Text) (outwards : Nat) (names behind : List Text) (hbefore : AreIdle before)
      (hnames : ∀ s ∈ names, IsSegment s) (hbehind : AreIdle behind) :
      IsStraight (before ++ (List.replicate outwards parent ++ (names ++ behind)))

theorem areIdle_nil : AreIdle [] := by simp [AreIdle]

theorem areIdle_empty : AreIdle [[]] := by simp [AreIdle]

theorem IsStraight.concat_nil {segments : List Text} (h : IsStraight segments) :
    IsStraight (segments ++ [[]]) := by
  obtain ⟨before, outwards, names, behind, hbefore, hnames, hbehind⟩ := h
  have hmore : AreIdle (behind ++ [[]]) := List.forall_mem_append.mpr ⟨hbehind, areIdle_empty⟩
  have h := IsStraight.intro before outwards names _ hbefore hnames hmore
  simpa using h

theorem IsStraight.append_left {idle segments : List Text} (hidle : AreIdle idle)
    (h : IsStraight segments) : IsStraight (idle ++ segments) := by
  obtain ⟨before, outwards, names, behind, hbefore, hnames, hbehind⟩ := h
  rw [← List.append_assoc]
  exact .intro _ outwards names behind (List.forall_mem_append.mpr ⟨hidle, hbefore⟩) hnames hbehind

theorem IsStraight.of_idle {segments : List Text} (h : AreIdle segments) : IsStraight segments := by
  have h := IsStraight.intro segments 0 [] [] h (by simp) areIdle_nil
  simpa using h

/-- On a stack of steps outwards below names, a segment leaves such a stack. -/
theorem exists_pushSegment (names : List Text) (outwards : Nat) (hnames : ∀ s ∈ names, IsSegment s)
    {segment : Text} (hsegment : slash ∉ segment) :
    ∃ names' outwards', pushSegment false (names ++ List.replicate outwards parent) segment =
        names' ++ List.replicate outwards' parent ∧ ∀ s ∈ names', IsSegment s := by
  by_cases hstay : segment = [] ∨ segment = current
  · exact ⟨names, outwards, pushSegment_of_stay hstay, hnames⟩
  · by_cases hparent : segment = parent
    · subst hparent
      cases names with
      | nil =>
          cases outwards with
          | zero => exact ⟨[], 1, rfl, by simp⟩
          | succ n => exact ⟨[], n + 2, pushSegment_parent_parent, by simp⟩
      | cons name rest =>
          obtain ⟨hname, hrest⟩ := List.forall_mem_cons.mp hnames
          exact ⟨rest, outwards, pushSegment_parent hname, hrest⟩
    · obtain ⟨hne, hcurrent⟩ := not_or.mp hstay
      refine ⟨segment :: names, outwards, pushSegment_of_name hstay hparent, ?_⟩
      exact List.forall_mem_cons.mpr ⟨⟨⟨hne, hcurrent, hsegment⟩, hparent⟩, hnames⟩

theorem exists_foldl_pushSegment {segments : List Text} (h : ∀ s ∈ segments, slash ∉ s)
    (names : List Text) (outwards : Nat) (hnames : ∀ s ∈ names, IsSegment s) :
    ∃ names' outwards', segments.foldl (pushSegment false) (names ++ List.replicate outwards parent) =
        names' ++ List.replicate outwards' parent ∧ ∀ s ∈ names', IsSegment s := by
  induction segments generalizing names outwards with
  | nil => exact ⟨names, outwards, rfl, hnames⟩
  | cons segment rest ih =>
      obtain ⟨hsegment, hrest⟩ := List.forall_mem_cons.mp h
      obtain ⟨names', outwards', hpush, hnames'⟩ :=
        exists_pushSegment names outwards hnames hsegment
      rw [List.foldl_cons, hpush]
      exact ih hrest names' outwards' hnames'

/-- The normal form of a relative path goes outwards before it goes down. -/
theorem exists_normalSegments (p : Text) :
    ∃ outwards names, normalSegments false (Text.split slash p) =
        List.replicate outwards parent ++ names ∧ ∀ s ∈ names, IsSegment s := by
  have hsegments : ∀ s ∈ Text.split slash p, slash ∉ s := fun _ => Text.not_mem_of_mem_split
  obtain ⟨names, outwards, hfold, hnames⟩ := exists_foldl_pushSegment hsegments [] 0 (by simp)
  refine ⟨outwards, names.reverse, ?_, fun s hs => hnames s (List.mem_reverse.mp hs)⟩
  rw [normalSegments, ← List.reverse_replicate, ← List.reverse_append, ← hfold]
  rfl

theorem isStraight_normalSegments (rooted : Bool) (p : Text) :
    IsStraight (normalSegments rooted (Text.split slash p)) := by
  cases rooted with
  | true =>
      have hnames : ∀ s ∈ normalSegments true (Text.split slash p), IsSegment s := fun s hs =>
        isSegment_pushAll p s (List.mem_reverse.mp hs)
      have h := IsStraight.intro [] 0 _ [] areIdle_nil hnames areIdle_nil
      simpa using h
  | false =>
      obtain ⟨outwards, names, hnormal, hnames⟩ := exists_normalSegments p
      have h := IsStraight.intro [] outwards names [] areIdle_nil hnames areIdle_nil
      rw [hnormal]
      simpa using h

theorem isStraight_split_normalize (p : Text) : IsStraight (Text.split slash (normalize p)) := by
  have hproper := proper_normalSegments (0 < rootSlashes p) p
  unfold normalize
  dsimp only
  split
  · exact .of_idle (by simp [AreIdle, current, dot, slash, Text.split, Text.consFirst])
  · have hroot : AreIdle (List.replicate (rootSlashes p) []) := fun s hs =>
      Or.inl (List.eq_of_mem_replicate hs)
    rw [FileTree.split_replicate_append]
    refine .append_left hroot ?_
    by_cases hnil : normalSegments (0 < rootSlashes p) (Text.split slash p) = []
    · rw [hnil]
      exact .of_idle areIdle_empty
    · rw [Text.split_join hnil fun s hs => (hproper s hs).2.2]
      exact isStraight_normalSegments _ p

theorem isStraight_clean {p : Text} (hne : p ≠ []) : IsStraight (Text.split slash (clean p)) := by
  rcases clean_eq hne with hclean | ⟨hclean, -⟩
  · rw [hclean]
    exact isStraight_split_normalize _
  · rw [hclean, Text.split_append_sep]
    exact (isStraight_split_normalize _).concat_nil

end Path

/-! ## Following them -/

namespace FileTree

variable {tree : FileTree} {place : Place}

theorem follow_of_idle {segments : List Text} (hidle : Path.AreIdle segments)
    (h : tree.entry? place = some .directory) (more : List Text) :
    tree.follow place (segments ++ more) = tree.follow place more := by
  induction segments with
  | nil => rfl
  | cons s rest ih =>
      obtain ⟨hs, hrest⟩ := List.forall_mem_cons.mp hidle
      rw [List.cons_append, follow, h, Option.any_some, if_pos (by rfl), if_pos hs]
      exact ih hrest

theorem foldl_of_idle {segments : List Text} (hidle : Path.AreIdle segments) (stack : List Text) :
    segments.foldl (Path.pushSegment true) stack = stack := by
  induction segments with
  | nil => rfl
  | cons s rest ih =>
      obtain ⟨hs, hrest⟩ := List.forall_mem_cons.mp hidle
      rw [List.foldl_cons, Path.pushSegment_of_stay hs]
      exact ih hrest

variable (htree : tree.WellFormed)

include htree

theorem WellFormed.directory_dropLast (h : tree.entry? place = some .directory) :
    tree.entry? place.dropLast = some .directory := by
  by_cases hroot : place = []
  · subst hroot
    rfl
  · exact htree.parents _ (mem_entries hroot h)

/-- Outwards from a directory and down to a directory every segment can be followed. -/
theorem WellFormed.follow_names_outwards (h : tree.entry? place = some .directory) (outwards : Nat)
    {names : List Text} (hnames : ∀ s ∈ names, Path.IsSegment s) {reached : Place}
    (hreached : (List.replicate outwards Path.parent ++ names).foldl (Path.pushSegment true)
      place.reverse = reached.reverse)
    (hend : tree.entry? reached = some .directory) :
    tree.follow place (List.replicate outwards Path.parent ++ names) = .ok reached
      ∧ ∀ s ∈ names, s ∈ reached := by
  induction outwards generalizing place with
  | zero =>
      rw [List.replicate_zero, List.nil_append] at hreached ⊢
      rw [Path.foldl_of_isSegment hnames, ← List.reverse_append] at hreached
      obtain rfl : place ++ names = reached := List.reverse_injective hreached
      exact ⟨htree.follow_names hend, fun s hs => List.mem_append_right _ hs⟩
  | succ n ih =>
      have habove := htree.directory_dropLast h
      have hpush : Path.pushSegment true place.reverse Path.parent = place.dropLast.reverse := by
        rcases List.eq_nil_or_concat place with rfl | ⟨init, last, rfl⟩
        · rfl
        · have hlast : Path.IsSegment last := (htree.segments_of h last (by simp)).1
          simpa using Path.pushSegment_parent hlast
      rw [List.replicate_succ, List.cons_append, List.foldl_cons, hpush] at hreached
      rw [List.replicate_succ, List.cons_append, follow, h]
      exact ih habove hreached

/-- A straight path is followed to the directory that it names. -/
theorem WellFormed.follow_straight {segments : List Text} (hstraight : Path.IsStraight segments)
    (h : tree.entry? place = some .directory) {reached : Place}
    (hreached : segments.foldl (Path.pushSegment true) place.reverse = reached.reverse)
    (hend : tree.entry? reached = some .directory) :
    tree.follow place segments = .ok reached ∧ ∀ s ∈ segments, 0 ∉ s := by
  obtain ⟨before, outwards, names, behind, hbefore, hnames, hbehind⟩ := hstraight
  have hidle : ∀ {idle : List Text}, Path.AreIdle idle → ∀ s ∈ idle, 0 ∉ s := by
    intro idle hidle s hs
    rcases hidle s hs with rfl | rfl <;> decide
  rw [List.foldl_append, foldl_of_idle hbefore, ← List.append_assoc, List.foldl_append,
    foldl_of_idle hbehind] at hreached
  obtain ⟨hfollow, hin⟩ := htree.follow_names_outwards h outwards hnames hreached hend
  constructor
  · rw [follow_of_idle hbefore h, ← List.append_assoc, follow_append, hfollow]
    have hstay := follow_of_idle hbehind hend []
    rw [List.append_nil] at hstay
    exact hstay
  · refine List.forall_mem_append.mpr ⟨hidle hbefore, List.forall_mem_append.mpr ⟨fun s hs => ?_,
      List.forall_mem_append.mpr ⟨fun s hs => (htree.segments_of hend s (hin s hs)).2.1,
        hidle hbehind⟩⟩⟩
    rw [List.eq_of_mem_replicate hs]
    decide

end FileTree

/-! ## Absolute paths -/

namespace Host

variable {host : Host}

theorem absolutePath_absolutePath (host : Host) (path : Text) :
    host.absolutePath (host.absolutePath path) = host.absolutePath path := by
  show Path.normalize (Path.append _ (host.absolutePath path)) = _
  rw [Path.append, if_pos (host.isAbsolute_absolutePath path)]
  exact Path.normalize_normalize (host.isAbsolute_append path)

/-- A directory is found at an absolute path exactly when it is at the place that the path names. -/
theorem lookup_absolutePath_iff (htree : host.tree.WellFormed) (hanchored : host.Anchored)
    (path : Text) :
    host.lookup (host.absolutePath path) = .ok .directory ↔
      host.tree.entry? (Place.ofPath (host.absolutePath path)) = some .directory := by
  constructor
  · intro h
    obtain ⟨place, hlocate, hentry⟩ := FileTree.lookup_eq_ok_iff.mp h
    have hplace := ofPath_absolutePath hanchored hlocate
    rw [absolutePath_absolutePath] at hplace
    rwa [hplace]
  · intro h
    obtain ⟨count, hcount, hpath⟩ := host.absolutePath_eq_rootedPath path
    rw [hpath]
    by_cases hroot : Place.ofPath (host.absolutePath path) = []
    · rw [hroot]
      rcases hcount with rfl | rfl <;> rfl
    · exact htree.lookup_rootedPath hroot h hcount

end Host

/-! ## Anchored paths -/

theorem FileTree.eq_of_follow_stay {tree : FileTree} {place reached : Place} {segment : Text}
    (hstay : segment = [] ∨ segment = Path.current)
    (h : tree.follow place [segment] = .ok reached) : place = reached := by
  rw [follow, if_pos hstay] at h
  split at h
  · exact Except.ok.inj h
  · split at h <;> cases h

namespace Store

variable {store : Store} {host : Host} {base : Place}

/-- The path that a location without a scheme names. -/
def pathOf (store : Store) (location : Text) : Text := store.anchor (Path.clean location)

/-- The absolute path of a location without a scheme. -/
def absolutePathOf (store : Store) (host : Host) (location : Text) : Text :=
  host.absolutePath (store.pathOf location)

/-- Relative paths start at the base directory, which is there. -/
structure StartsAt (store : Store) (host : Host) (base : Place) : Prop where
  leads : host.tree.locate host.workingDirectory (store.anchor Path.current) = .ok base
  directory : host.tree.entry? base = some .directory

/-- The same text stands before all relative paths. -/
theorem exists_anchor_eq (store : Store) :
    ∃ lead : Text, lead.IsDirectoryPart
      ∧ ∀ c, Path.isAbsolute c = false → store.anchor c = lead ++ c := by
  unfold anchor
  cases store.baseDirectory with
  | none => exact ⟨[], Or.inl rfl, fun c _ => rfl⟩
  | some b =>
      have hlead : ∀ c, Path.isAbsolute c = false →
          (if Path.isAbsolute c then c else Path.append b c) = Path.append b [] ++ c := fun c hc => by
        rw [if_neg (by simp [hc]), Path.append_of_relative hc]
      refine ⟨Path.append b [], ?_, hlead⟩
      by_cases hb : b = []
      · subst hb
        exact Or.inl rfl
      · exact Or.inr (Path.exists_append_nil hb)

theorem anchor_ne_nil (store : Store) {c : Text} (hne : c ≠ []) : store.anchor c ≠ [] := by
  cases hc : Path.isAbsolute c with
  | true => rwa [anchor_of_isAbsolute hc]
  | false =>
      obtain ⟨lead, -, hanchor⟩ := store.exists_anchor_eq
      rw [hanchor c hc]
      exact List.append_ne_nil_of_right_ne_nil lead hne

theorem StartsAt.follow_anchor (h : store.StartsAt host base) {c : Text}
    (hc : Path.isAbsolute c = false) :
    host.tree.follow (if Path.isAbsolute (store.anchor c) then [] else host.workingDirectory)
        (Text.split slash (store.anchor c)) =
      host.tree.follow base (Text.split slash c) := by
  obtain ⟨lead, hlead, hanchor⟩ := store.exists_anchor_eq
  obtain ⟨-, -, -, hbase⟩ := FileTree.locate_eq_ok_iff.mp h.leads
  have hcurrent : Text.split slash Path.current = [Path.current] := by decide
  rw [hanchor Path.current rfl] at hbase
  rw [hanchor c hc]
  rcases hlead with rfl | ⟨s, rfl⟩
  · rw [List.nil_append, hcurrent] at hbase
    have hworking : host.workingDirectory = base := FileTree.eq_of_follow_stay (Or.inr rfl) hbase
    rw [List.nil_append, if_neg (by simp [hc]), hworking]
  · have hassoc : ∀ c : Text, s ++ [slash] ++ c = s ++ slash :: c := by simp
    have habsolute : ∀ c, Path.isAbsolute (s ++ slash :: c) = Path.isAbsolute (s ++ [slash]) := by
      intro c
      rw [← hassoc]
      exact Path.isAbsolute_append_of_ne_nil (by simp) c
    rw [hassoc, habsolute, Text.split_append_sep, FileTree.follow_append, hcurrent] at hbase
    obtain ⟨reached, hreached, hstay⟩ := bind_eq_ok_iff.mp hbase
    rw [hassoc, habsolute, Text.split_append_sep, FileTree.follow_append, hreached,
      ← FileTree.eq_of_follow_stay (Or.inr rfl) hstay]
    rfl

/-- The absolute path of a relative path names what is reached from the base directory. -/
theorem StartsAt.pushAll_anchor (hanchored : host.Anchored) (h : store.StartsAt host base) {c : Text}
    (hc : Path.isAbsolute c = false) :
    Path.pushAll true [] (Path.append host.workingDirectory.toPath (store.anchor c)) =
      Path.pushAll true base.reverse c := by
  obtain ⟨start, hstart, hanchor⟩ := store.exists_anchor host
  have hbase : Place.ofPath (host.absolutePath (store.anchor Path.current)) = base :=
    Host.ofPath_absolutePath hanchored h.leads
  have hcurrent : (Path.pushAll true [] (host.absolutePath (store.anchor Path.current))).reverse =
      base := hbase
  rw [Host.absolutePath, Path.absolute,
    Path.pushAll_normalize_of_isAbsolute (host.isAbsolute_append _), hanchor Path.current rfl,
    Path.pushAll_append_slash] at hcurrent
  have hstay : Path.pushAll true (Path.pushAll true [] start) Path.current =
      Path.pushAll true [] start := rfl
  rw [hanchor c hc, Path.pushAll_append_slash, ← hcurrent, List.reverse_reverse, hstay]

theorem StartsAt.not_mem_anchor (h : store.StartsAt host base) {c : Text}
    (hc : Path.isAbsolute c = false) (hnul : 0 ∉ c) : 0 ∉ store.anchor c := by
  obtain ⟨lead, -, hanchor⟩ := store.exists_anchor_eq
  obtain ⟨hbase, -, -, -⟩ := FileTree.locate_eq_ok_iff.mp h.leads
  have hbase : 0 ∉ store.anchor Path.current := by simpa using hbase
  rw [hanchor Path.current rfl] at hbase
  rw [hanchor c hc]
  exact fun hmem => (List.mem_append.mp hmem).elim
    (fun hlead => hbase (List.mem_append_left _ hlead)) hnul

/-- Where following the path of a location starts: at the root, or in the base directory. -/
theorem exists_start (hanchored : host.Anchored) {c : Text}
    (h : Path.isAbsolute c = true ∨ ∃ base, store.StartsAt host base) :
    ∃ start, host.tree.entry? start = some .directory
      ∧ host.tree.follow (if Path.isAbsolute (store.anchor c) then [] else host.workingDirectory)
          (Text.split slash (store.anchor c)) = host.tree.follow start (Text.split slash c)
      ∧ Path.pushAll true [] (Path.append host.workingDirectory.toPath (store.anchor c)) =
        Path.pushAll true start.reverse c
      ∧ (0 ∉ c → 0 ∉ store.anchor c) := by
  cases hc : Path.isAbsolute c with
  | true =>
      refine ⟨[], rfl, ?_, ?_, ?_⟩
      · rw [anchor_of_isAbsolute hc, if_pos hc]
      · rw [append_anchor_of_isAbsolute hc]
        rfl
      · rw [anchor_of_isAbsolute hc]
        exact id
  | false =>
      obtain ⟨base, hbase⟩ := h.resolve_left (by simp [hc])
      exact ⟨base, hbase.directory, hbase.follow_anchor hc, hbase.pushAll_anchor hanchored hc,
        hbase.not_mem_anchor hc⟩

/-- A location leads to the directory that is at its absolute path, if it is absolute or the base
directory is there. -/
theorem leads_of_directory (htree : host.tree.WellFormed) (hanchored : host.Anchored) {p : Text}
    (hne : p ≠ [])
    (hstarts : Path.isAbsolute (Path.clean p) = true ∨ ∃ base, store.StartsAt host base)
    (hlength : (store.pathOf p).utf8Length ≤ FileTree.pathLimit)
    (h : host.lookup (store.absolutePathOf host p) = .ok .directory) :
    host.lookup (store.pathOf p) = .ok .directory := by
  obtain ⟨start, hstart, hfollow, hpush, hnul⟩ := exists_start hanchored hstarts
  have hdirectory := (Host.lookup_absolutePath_iff htree hanchored _).mp h
  have hreached : (Text.split slash (Path.clean p)).foldl (Path.pushSegment true) start.reverse =
      (Place.ofPath (store.absolutePathOf host p)).reverse := by
    have hnormal := Path.pushAll_normalize_of_isAbsolute (host.isAbsolute_append (store.pathOf p))
    exact (hpush.symm.trans hnormal.symm).trans (List.reverse_reverse _).symm
  obtain ⟨hreaches, hpieces⟩ :=
    htree.follow_straight (Path.isStraight_clean hne) hstart hreached hdirectory
  have hclean : 0 ∉ Path.clean p := by
    rw [← Text.join_split slash (Path.clean p)]
    intro hmem
    rcases Text.mem_join hmem with hslash | ⟨piece, hpiece, hin⟩
    · exact absurd hslash (by decide)
    · exact hpieces piece hpiece hin
  have hplain : (store.pathOf p).contains 0 = false := by
    rw [← Bool.not_eq_true, List.contains_iff_mem]
    exact hnul hclean
  exact FileTree.lookup_eq_ok_iff.mpr ⟨_, FileTree.locate_eq_ok_iff.mpr
    ⟨hplain, store.anchor_ne_nil (Path.clean_ne_nil hne), hlength, hfollow.trans hreaches⟩, hdirectory⟩

end Store

end ConfigLocator

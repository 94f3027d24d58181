import ConfigLocator.Proofs.FileTree
import ConfigLocator.Proofs.Growth

/-!
# Subdirectories

In a tree whose directories lead to every entry (`FileTree.WellFormed`) the path of a place is found
there (`WellFormed.lookup_rootedPath`), and the path under which a place is reached says which place
it is, by the text alone (`Host.ofPath_absolutePath`). Trees that are built entry by entry are of
this kind (`WellFormed.addDirectory`, `WellFormed.addFile`). So the subdirectories that are listed under the
absolute path of a directory are those of the directory itself, and the paths made of their names
lead to them.
-/

namespace ConfigLocator

namespace FileTree

variable {tree : FileTree} {place : Place}

/-! ## Where a path leads -/

theorem lookup_eq_ok_iff {workingDirectory : Place} {path : Text} {entry : Entry} :
    tree.lookup workingDirectory path = .ok entry ↔
      ∃ place, tree.locate workingDirectory path = .ok place ∧ tree.entry? place = some entry := by
  rw [lookup, bind_eq_ok_iff]
  refine exists_congr fun place => and_congr_right fun _ => ?_
  cases tree.entry? place <;> simp

/-- A path that can be followed leads where its segments say, taken one after the other. -/
theorem eq_of_follow {segments : List Text} {reached : Place} (hplace : ∀ s ∈ place, Path.IsSegment s)
    (hsegments : ∀ s ∈ segments, slash ∉ s) (h : tree.follow place segments = .ok reached) :
    reached = (segments.foldl (Path.pushSegment true) place.reverse).reverse := by
  induction segments generalizing place with
  | nil =>
      obtain rfl := Except.ok.inj h
      exact (List.reverse_reverse place).symm
  | cons segment rest ih =>
      obtain ⟨hsegment, hrest⟩ := List.forall_mem_cons.mp hsegments
      rw [follow] at h
      rw [List.foldl_cons]
      split at h
      · split at h
        · rename_i hstay
          rw [Path.pushSegment_of_stay hstay]
          exact ih hplace hrest h
        · rename_i hstay
          split at h
          · rename_i hparent
            have hpush : Path.pushSegment true place.reverse segment = place.dropLast.reverse := by
              subst hparent
              rcases List.eq_nil_or_concat place with rfl | ⟨below, top, rfl⟩
              · rfl
              · have htop : Path.IsSegment top := hplace top (by simp)
                simp [Path.pushSegment_parent htop]
            rw [hpush]
            exact ih (fun s hs => hplace s (List.mem_of_mem_dropLast hs)) hrest h
          · rename_i hparent
            split at h
            · cases h
            · split at h
              · have hname : Path.IsSegment segment := by
                  obtain ⟨hne, hcurrent⟩ := not_or.mp hstay
                  exact ⟨⟨hne, hcurrent, hsegment⟩, hparent⟩
                have hplace' : ∀ s ∈ place ++ [segment], Path.IsSegment s := by
                  intro s hs
                  rcases List.mem_append.mp hs with hs | hs
                  · exact hplace s hs
                  · exact List.mem_singleton.mp hs ▸ hname
                rw [ih hplace' hrest h, Path.pushSegment_of_isSegment hname, List.reverse_append]
                rfl
              · cases h
      · split at h <;> cases h

end FileTree

/-- The working directory is a place that a path can name. -/
def Host.Anchored (host : Host) : Prop := ∀ s ∈ host.workingDirectory, Path.IsSegment s

theorem Place.pushAll_toPath {place : Place} (h : ∀ s ∈ place, Path.IsSegment s) :
    Path.pushAll true [] place.toPath = place.reverse := by
  have hslash : ∀ s ∈ place, slash ∉ s := fun s hs => (h s hs).1.2.2
  show Path.pushAll true [] ([] ++ slash :: Text.join [slash] place) = _
  rw [Path.pushAll_append_slash]
  show Path.pushAll true [] _ = _
  rw [Path.pushAll_join hslash, Path.foldl_of_isSegment h, List.append_nil]

theorem Host.pushAll_append {host : Host} (hanchored : host.Anchored) {path : Text}
    (hrelative : Path.isAbsolute path = false) :
    Path.pushAll true [] (Path.append host.workingDirectory.toPath path) =
      Path.pushAll true host.workingDirectory.reverse path := by
  rw [Path.append, if_neg (by simp [hrelative])]
  by_cases hroot : host.workingDirectory = []
  · have hends : (host.workingDirectory.toPath = []
        || Text.endsWith host.workingDirectory.toPath [slash]) = true := by rw [hroot]; rfl
    rw [if_pos hends, hroot]
    exact Path.pushAll_append_slash [] path
  · have hends : (host.workingDirectory.toPath = []
        || Text.endsWith host.workingDirectory.toPath [slash]) = false := by
      have hjoin : Text.endsWith host.workingDirectory.toPath [slash] = false :=
        Path.not_isDirectoryText_join hroot (fun s hs => (hanchored s hs).1) [slash]
      rw [hjoin, Bool.or_false]
      rfl
    rw [if_neg (by simp [hends]), List.append_assoc, List.singleton_append,
      Path.pushAll_append_slash, Place.pushAll_toPath hanchored]

theorem Host.isAbsolute_append (host : Host) (path : Text) :
    Path.isAbsolute (Path.append host.workingDirectory.toPath path) = true := by
  rw [Path.append]
  split
  · assumption
  · split <;> simp [Place.toPath, Path.isAbsolute, Text.startsWith]

theorem Host.isAbsolute_absolutePath (host : Host) (path : Text) :
    Path.isAbsolute (host.absolutePath path) = true :=
  (Path.isAbsolute_normalize _).trans (host.isAbsolute_append path)

/-- The absolute path of what a path leads to names the place, by the text alone. -/
theorem Host.ofPath_absolutePath {host : Host} (hanchored : host.Anchored) {path : Text}
    {place : Place} (h : host.tree.locate host.workingDirectory path = .ok place) :
    Place.ofPath (host.absolutePath path) = place := by
  obtain ⟨-, -, -, hfollow⟩ := FileTree.locate_eq_ok_iff.mp h
  have hsegments : ∀ s ∈ Text.split slash path, slash ∉ s := fun _ => Text.not_mem_of_mem_split
  show (Path.pushAll true [] (Path.normalize _)).reverse = place
  rw [Path.pushAll_normalize_of_isAbsolute (host.isAbsolute_append path)]
  cases habsolute : Path.isAbsolute path with
  | true =>
      rw [if_pos habsolute] at hfollow
      rw [Path.append, if_pos habsolute]
      exact (FileTree.eq_of_follow (by simp) hsegments hfollow).symm
  | false =>
      rw [if_neg (by simp [habsolute])] at hfollow
      rw [Host.pushAll_append hanchored habsolute]
      exact (FileTree.eq_of_follow hanchored hsegments hfollow).symm

/-! ## Trees without gaps -/

/-- The text of a place behind slashes at the root. -/
def Place.rootedPath (count : Nat) (place : Place) : Text :=
  List.replicate count slash ++ Text.join [slash] place

namespace FileTree

/-- Every entry has a name that a path can spell, and the directories on the way to it are there. -/
structure WellFormed (tree : FileTree) : Prop where
  ne_root : ∀ e ∈ tree.entries, e.1 ≠ []
  segments : ∀ e ∈ tree.entries, ∀ s ∈ e.1, Path.IsSegment s ∧ 0 ∉ s ∧ s.utf8Length ≤ nameLimit
  parents : ∀ e ∈ tree.entries, tree.entry? e.1.dropLast = some .directory
  distinct : (tree.entries.map (·.1)).Nodup
  /-- An absolute path has at most two slashes at its root, and that of a directory one at its end. -/
  reachable : ∀ e ∈ tree.entries, (e.1.rootedPath 2).utf8Length < pathLimit

variable {tree : FileTree} {place names : Place} {entry : Entry}

theorem mem_entries (hne : place ≠ []) (h : tree.entry? place = some entry) :
    (place, entry) ∈ tree.entries := by
  rw [entry?_eq_lookup hne] at h
  obtain ⟨before, behind, hentries, -⟩ := List.lookup_eq_some_iff.mp h
  rw [hentries]
  exact List.mem_append_right before List.mem_cons_self

section WellFormed

variable (htree : tree.WellFormed)

include htree

theorem WellFormed.segments_of (h : tree.entry? place = some entry) :
    ∀ s ∈ place, Path.IsSegment s ∧ 0 ∉ s ∧ s.utf8Length ≤ nameLimit := by
  intro s hs
  exact htree.segments _ (mem_entries (List.ne_nil_of_mem hs) h) s hs

/-- The way to an entry goes through directories. -/
theorem WellFormed.directory_on_way (hne : names ≠ [])
    (h : tree.entry? (place ++ names) = some entry) : tree.entry? place = some .directory := by
  induction names using List.reverseRecOn generalizing entry with
  | nil => exact absurd rfl hne
  | append_singleton init last ih =>
      have hplace : place ++ (init ++ [last]) ≠ [] := by simp
      have hparent := htree.parents _ (mem_entries hplace h)
      rw [← List.append_assoc, List.dropLast_concat] at hparent
      by_cases hinit : init = []
      · rw [hinit, List.append_nil] at hparent
        exact hparent
      · exact ih hinit hparent

/-- From a directory an entry is reached by its names. -/
theorem WellFormed.follow_names (h : tree.entry? (place ++ names) = some entry) :
    tree.follow place names = .ok (place ++ names) := by
  induction names generalizing place with
  | nil => rw [follow, List.append_nil]
  | cons name rest ih =>
      have hplace := htree.directory_on_way (List.cons_ne_nil name rest) h
      obtain ⟨hname, -, hlength⟩ := htree.segments_of h name (by simp)
      have hassoc : place ++ name :: rest = place ++ [name] ++ rest := by simp
      rw [hassoc] at h ⊢
      have hthere : (tree.entry? (place ++ [name])).isSome = true := by
        by_cases hrest : rest = []
        · rw [hrest, List.append_nil] at h
          rw [h]
          rfl
        · rw [htree.directory_on_way hrest h]
          rfl
      have hstay : ¬(name = [] ∨ name = Path.current) := not_or.mpr ⟨hname.1.1, hname.1.2.1⟩
      rw [follow, hplace]
      simp only [Option.any_some, Entry.isDirectory, if_true]
      rw [if_neg hstay, if_neg hname.2, if_neg (Nat.not_lt.mpr hlength), if_pos hthere]
      exact ih h

end WellFormed

/-! ## Paths of places -/

theorem split_replicate_append (count : Nat) (t : Text) :
    Text.split slash (List.replicate count slash ++ t) =
      List.replicate count [] ++ Text.split slash t := by
  induction count with
  | zero => rfl
  | succ count ih => simp [List.replicate_succ, Text.split, ih]

theorem follow_replicate_nil (tree : FileTree) (count : Nat) (names : List Text) :
    tree.follow [] (List.replicate count [] ++ names) = tree.follow [] names := by
  induction count with
  | zero => rfl
  | succ count ih => simpa [List.replicate_succ, follow, entry?, Entry.isDirectory] using ih

/-- One segment leads from a directory to itself, to the one above or to what it has of the name. -/
theorem follow_segment_cases (h : tree.entry? place = some .directory) {name : Text}
    {reached : Place} (hfollow : tree.follow place [name] = .ok reached) :
    reached = place ∨ reached = place.dropLast ∨ reached = place ++ [name] := by
  simp only [follow, h, Option.any_some, Entry.isDirectory, if_true] at hfollow
  split at hfollow
  · exact Or.inl (Except.ok.inj hfollow).symm
  · split at hfollow
    · exact Or.inr (Or.inl (Except.ok.inj hfollow).symm)
    · split at hfollow
      · cases hfollow
      · split at hfollow
        · exact Or.inr (Or.inr (Except.ok.inj hfollow).symm)
        · cases hfollow

/-- From the root the path of a place with one segment more is followed segment by segment. -/
theorem follow_rootedPath (hne : place ≠ []) (hplace : ∀ s ∈ place, slash ∉ s) (count : Nat)
    {last : Text} (hlast : slash ∉ last) :
    tree.follow [] (Text.split slash (place.rootedPath count ++ slash :: last)) =
      (tree.follow [] place >>= fun reached => tree.follow reached [last]) := by
  rw [Place.rootedPath, List.append_assoc, split_replicate_append, follow_replicate_nil,
    Text.split_append_sep, Text.split_join hne hplace, Text.split_of_not_mem hlast, follow_append]

end FileTree

theorem Text.utf8Length_append (s t : Text) :
    Text.utf8Length (s ++ t) = s.utf8Length + t.utf8Length := by
  induction s with
  | nil => simp [utf8Length]
  | cons c rest ih =>
      simp only [List.cons_append, utf8Length, ih]
      omega

theorem Text.mem_join {sep : Text} {pieces : List Text} {c : Nat} (h : c ∈ join sep pieces) :
    c ∈ sep ∨ ∃ piece ∈ pieces, c ∈ piece := by
  induction pieces with
  | nil => cases h
  | cons piece rest ih =>
      cases rest with
      | nil => exact Or.inr ⟨piece, List.mem_cons_self, h⟩
      | cons other more =>
          rw [join, List.mem_append, List.mem_append] at h
          · rcases h with (h | h) | h
            · exact Or.inr ⟨piece, List.mem_cons_self, h⟩
            · exact Or.inl h
            · rcases ih h with h | ⟨mine, hmine, h⟩
              · exact Or.inl h
              · exact Or.inr ⟨mine, List.mem_cons_of_mem piece hmine, h⟩
          · simp

/-- One or two slashes stand at the root of an absolute path. -/
def IsRoot (count : Nat) : Prop := count = 1 ∨ count = 2

theorem Place.rootedPath_concat {place : Place} (hne : place ≠ []) (count : Nat) (name : Text) :
    (place ++ [name]).rootedPath count = place.rootedPath count ++ slash :: name := by
  rw [rootedPath, rootedPath, List.append_assoc, Text.join_append_singleton hne]

/-- The path of what is in a directory. -/
theorem Place.append_rootedPath {place : Place} {count : Nat} (hcount : IsRoot count)
    (hplace : ∀ s ∈ place, Path.IsSegment s) {name : Text} (hname : slash ∉ name) :
    Path.append (place.rootedPath count) name = (place ++ [name]).rootedPath count := by
  rw [Path.append, if_neg (by simp [Path.isAbsolute_of_not_mem hname])]
  by_cases hroot : place = []
  · subst hroot
    rcases hcount with rfl | rfl <;> rfl
  · have hends : Text.endsWith (place.rootedPath count) [slash] = false :=
      Path.not_isDirectoryText_join hroot (fun s hs => (hplace s hs).1) _
    have hpath : place.rootedPath count ≠ [] := by rcases hcount with rfl | rfl <;> simp [rootedPath]
    rw [if_neg (by simp [hends, hpath]), rootedPath_concat hroot, List.append_assoc]
    rfl

theorem Host.absolutePath_eq_rootedPath (host : Host) (path : Text) :
    ∃ count, IsRoot count
      ∧ host.absolutePath path = (Place.ofPath (host.absolutePath path)).rootedPath count := by
  have habsolute := host.isAbsolute_append path
  refine ⟨_, Path.rootSlashes_of_isAbsolute habsolute, ?_⟩
  show Path.normalize _ = _
  rw [Path.normalize_of_isAbsolute habsolute]
  show _ = List.replicate _ slash ++ Text.join [slash] (Path.pushAll true [] (Path.normalize _)).reverse
  rw [Path.pushAll_normalize_of_isAbsolute habsolute]

namespace FileTree.WellFormed

variable {tree : FileTree} {place : Place} {entry : Entry} {workingDirectory : Place} {count : Nat}
  (htree : tree.WellFormed)

include htree

/-- Neither a character nor the length stands against following the path of an entry. -/
theorem spells (hne : place ≠ []) (h : tree.entry? place = some entry) (hcount : IsRoot count)
    {ending : Text} (hending : ending = [] ∨ ending = [slash]) :
    (place.rootedPath count ++ ending).contains 0 = false
      ∧ (place.rootedPath count ++ ending).utf8Length ≤ pathLimit
      ∧ Path.isAbsolute (place.rootedPath count ++ ending) = true := by
  have hreach : (place.rootedPath 2).utf8Length < pathLimit :=
    htree.reachable _ (mem_entries hne h)
  have hslash : Text.utf8Length [slash] = 1 := rfl
  refine ⟨?_, ?_, ?_⟩
  · rw [← Bool.not_eq_true, List.contains_iff_mem, List.mem_append, Place.rootedPath, List.mem_append]
    rintro ((hroot | hjoin) | hend)
    · exact absurd (List.eq_of_mem_replicate hroot) (by decide)
    · rcases Text.mem_join hjoin with hsep | ⟨s, hs, hmem⟩
      · exact absurd hsep (by decide)
      · exact (htree.segments_of h s hs).2.1 hmem
    · rcases hending with rfl | rfl <;> exact absurd hend (by decide)
  · have hroot : (place.rootedPath count).utf8Length ≤ (place.rootedPath 2).utf8Length := by
      rw [Place.rootedPath, Place.rootedPath, Text.utf8Length_append, Text.utf8Length_append]
      have hmore : Text.utf8Length (List.replicate count slash) ≤
          Text.utf8Length (List.replicate 2 slash) := by
        rcases hcount with rfl | rfl <;> decide
      omega
    rw [Text.utf8Length_append]
    rcases hending with rfl | rfl
    · have hnil : Text.utf8Length [] = 0 := rfl
      omega
    · omega
  · rcases hcount with rfl | rfl <;> rfl

/-- The path of an entry leads to it. -/
theorem lookup_rootedPath (hne : place ≠ []) (h : tree.entry? place = some entry)
    (hcount : IsRoot count) : tree.lookup workingDirectory (place.rootedPath count) = .ok entry := by
  have hsegments : ∀ s ∈ place, slash ∉ s := fun s hs =>
    (htree.segments_of h s hs).1.1.2.2
  have hspells := htree.spells hne h hcount (Or.inl rfl)
  rw [List.append_nil] at hspells
  obtain ⟨hnul, hlength, habsolute⟩ := hspells
  have hlocate : tree.locate workingDirectory (place.rootedPath count) = .ok place := by
    have hnonempty : place.rootedPath count ≠ [] := by
      intro hnil
      rw [hnil] at habsolute
      cases habsolute
    refine locate_eq_ok_iff.mpr ⟨hnul, hnonempty, hlength, ?_⟩
    rw [if_pos habsolute, Place.rootedPath, split_replicate_append, follow_replicate_nil,
      Text.split_join hne hsegments]
    exact htree.follow_names h
  exact lookup_eq_ok_iff.mpr ⟨place, hlocate, h⟩

/-- The path of a directory may end in a slash. -/
theorem locate_rootedPath_slash (hne : place ≠ []) (h : tree.entry? place = some .directory)
    (hcount : IsRoot count) :
    tree.locate workingDirectory (place.rootedPath count ++ [slash]) = .ok place := by
  have hsegments : ∀ s ∈ place, slash ∉ s := fun s hs =>
    (htree.segments_of h s hs).1.1.2.2
  obtain ⟨hnul, hlength, habsolute⟩ := htree.spells hne h hcount (Or.inr rfl)
  refine locate_eq_ok_iff.mpr ⟨hnul, by simp, hlength, ?_⟩
  have hway : tree.follow [] place = .ok place := htree.follow_names h
  rw [if_pos habsolute, follow_rootedPath hne hsegments count List.not_mem_nil, hway]
  simp [bind, Except.bind, follow, h, Entry.isDirectory]

theorem lookup_rootedPath_slash (hne : place ≠ []) (h : tree.entry? place = some .directory)
    (hcount : IsRoot count) :
    tree.lookup workingDirectory (place.rootedPath count ++ [slash]) = .ok .directory :=
  lookup_eq_ok_iff.mpr ⟨place, htree.locate_rootedPath_slash hne h hcount, h⟩

/-- In a directory the file of a name is found by its path. -/
theorem isFile_lookup_iff (hne : place ≠ []) (h : tree.entry? place = some .directory)
    (hcount : IsRoot count) {name : Text} (hname : slash ∉ name) :
    (tree.lookup workingDirectory ((place ++ [name]).rootedPath count)).toOption.any
        Entry.isFile = true ↔
      ∃ content, tree.entry? (place ++ [name]) = some (.file content) := by
  have hsegments : ∀ s ∈ place, slash ∉ s := fun s hs =>
    (htree.segments_of h s hs).1.1.2.2
  have hway : tree.follow [] place = .ok place := htree.follow_names h
  constructor
  · rw [Place.rootedPath_concat hne]
    intro hfile
    cases hlookup : tree.lookup workingDirectory (place.rootedPath count ++ slash :: name) with
    | error fault =>
        rw [hlookup] at hfile
        cases hfile
    | ok entry =>
        rw [hlookup] at hfile
        cases entry with
        | directory => cases hfile
        | file content =>
            obtain ⟨reached, hlocate, hreached⟩ := lookup_eq_ok_iff.mp hlookup
            obtain ⟨-, -, -, hfollow⟩ := locate_eq_ok_iff.mp hlocate
            have habsolute : Path.isAbsolute (place.rootedPath count ++ slash :: name) = true := by
              rcases hcount with rfl | rfl <;> rfl
            rw [if_pos habsolute, follow_rootedPath hne hsegments count hname, hway] at hfollow
            rcases follow_segment_cases h hfollow with rfl | rfl | rfl
            · rw [h] at hreached
              cases hreached
            · have hparent := htree.parents _ (mem_entries hne h)
              rw [hparent] at hreached
              cases hreached
            · exact ⟨content, hreached⟩
  · rintro ⟨content, hentry⟩
    rw [htree.lookup_rootedPath (by simp) hentry hcount]
    rfl

end FileTree.WellFormed

/-! ## Trees that are built -/

namespace FileTree

variable {tree : FileTree} {place names : Place} {entry : Entry}

/-- A place that a path can spell. -/
structure Spellable (place : Place) : Prop where
  segments : ∀ s ∈ place, Path.IsSegment s ∧ 0 ∉ s ∧ s.utf8Length ≤ nameLimit
  reachable : (place.rootedPath 2).utf8Length < pathLimit

theorem Spellable.of_append (h : Spellable (place ++ names)) : Spellable place := by
  induction names using List.reverseRecOn with
  | nil => rwa [List.append_nil] at h
  | append_singleton init last ih =>
      refine ih ⟨fun s hs => h.segments s ?_, ?_⟩
      · rw [← List.append_assoc]
        exact List.mem_append_left [last] hs
      · by_cases hroot : place ++ init = []
        · rw [hroot]
          decide
        · have hlonger := h.reachable
          rw [← List.append_assoc, Place.rootedPath_concat hroot, Text.utf8Length_append] at hlonger
          omega

theorem Spellable.take (h : Spellable place) (n : Nat) : Spellable (place.take n) := by
  rw [← List.take_append_drop n place] at h
  exact h.of_append

theorem wellFormed_empty : empty.WellFormed :=
  ⟨by simp [empty], by simp [empty], by simp [empty], by simp [empty], by simp [empty]⟩

/-- Something new in a directory leaves no gap. -/
theorem WellFormed.put (htree : tree.WellFormed) (hspellable : Spellable place)
    (hparent : tree.entry? place.dropLast = some .directory) (hfree : tree.entry? place = none) :
    (tree.put place entry).WellFormed := by
  have hroot : place ≠ [] := ne_nil_of_entry?_eq_none hfree
  have hextends : tree.Extends (tree.put place entry) := extends_put hfree
  have hmem : ∀ e ∈ (tree.put place entry).entries, e ∈ tree.entries ∨ e = (place, entry) := by
    intro e he
    rw [entries_put hfree] at he
    rcases List.mem_append.mp he with he | he
    · exact Or.inl he
    · exact Or.inr (List.mem_singleton.mp he)
  constructor
  · intro e he
    rcases hmem e he with he | rfl
    · exact htree.ne_root e he
    · exact hroot
  · intro e he
    rcases hmem e he with he | rfl
    · exact htree.segments e he
    · exact hspellable.segments
  · intro e he
    rcases hmem e he with he | rfl
    · exact hextends.entry? (htree.parents e he)
    · exact hextends.entry? hparent
  · rw [entries_put hfree, List.map_append, List.nodup_append]
    refine ⟨htree.distinct, by simp, fun p hp q hq => ?_⟩
    obtain ⟨e, he, rfl⟩ := List.mem_map.mp hp
    obtain rfl : q = place := by simpa using hq
    rw [entry?_eq_lookup hroot] at hfree
    have hother := List.lookup_eq_none_iff.mp hfree e he
    rintro rfl
    simp at hother
  · intro e he
    rcases hmem e he with he | rfl
    · exact htree.reachable e he
    · exact hspellable.reachable

theorem WellFormed.ensureDirectory (htree : tree.WellFormed) (hspellable : Spellable place)
    (hparent : tree.entry? place.dropLast = some .directory) :
    (tree.ensureDirectory place).WellFormed := by
  unfold FileTree.ensureDirectory
  split
  · exact htree
  · next hnew => exact htree.put hspellable hparent (by simpa using hnew)

theorem entry?_ensureDirectory_self (hfree : ∀ content, tree.entry? place ≠ some (.file content)) :
    FileTree.entry? (tree.ensureDirectory place) place = some .directory := by
  unfold ensureDirectory
  cases hentry : tree.entry? place with
  | none =>
      have hroot : place ≠ [] := ne_nil_of_entry?_eq_none hentry
      have hnone := (entry?_eq_lookup hroot).symm.trans hentry
      simp [entry?_eq_lookup hroot, entries_put hentry, List.lookup_append, hnone]
  | some entry =>
      cases entry with
      | file content => exact absurd hentry (hfree content)
      | directory => simpa using hentry

/-- With no file on the way, the directories of a place can be made one below the other. -/
theorem WellFormed.addDirectory (htree : tree.WellFormed) (hspellable : Spellable place)
    (hway : ∀ n content, tree.entry? (place.take n) ≠ some (.file content)) :
    (tree.addDirectory place).WellFormed
      ∧ FileTree.entry? (tree.addDirectory place) place = some .directory := by
  -- After `n` steps the first `n` directories are there, and below them nothing has changed.
  have hsteps : ∀ n ≤ place.length + 1,
      let built := (List.range n).foldl (fun t n => t.ensureDirectory (place.take n)) tree
      built.WellFormed ∧ (∀ k < n, built.entry? (place.take k) = some .directory)
        ∧ ∀ k, n ≤ k → k ≤ place.length →
          built.entry? (place.take k) = tree.entry? (place.take k) := by
    intro n hn
    induction n with
    | zero => exact ⟨htree, fun k hk => absurd hk (Nat.not_lt_zero k), fun k _ _ => rfl⟩
    | succ n ih =>
        obtain ⟨hbuilt, habove, hbelow⟩ := ih (by omega)
        rw [List.range_succ, List.foldl_append]
        generalize (List.range n).foldl (fun t n => t.ensureDirectory (place.take n)) tree =
          built at *
        have hparent : built.entry? (place.take n).dropLast = some .directory := by
          cases n with
          | zero => rfl
          | succ m =>
              have hshort : (place.take (m + 1)).dropLast = place.take m := by
                have hlength : m < place.length := by omega
                rw [List.take_succ_eq_append_getElem hlength, List.dropLast_concat]
              rw [hshort]
              exact habove m (Nat.lt_succ_self m)
        have hhere : ∀ content, built.entry? (place.take n) ≠ some (.file content) := by
          intro content
          rw [hbelow n (Nat.le_refl n) (by omega)]
          exact hway n content
        refine ⟨hbuilt.ensureDirectory (hspellable.take n) hparent, fun k hk => ?_,
          fun k hk hlength => ?_⟩
        · rcases Nat.lt_succ_iff_lt_or_eq.mp hk with hk | rfl
          · exact Extends.entry? (built.extends_ensureDirectory _) (habove k hk)
          · exact entry?_ensureDirectory_self hhere
        · have hne : place.take n ≠ place.take k := by
            intro heq
            have := congrArg List.length heq
            rw [List.length_take, List.length_take] at this
            omega
          exact (entry?_ensureDirectory_of_ne hne).trans (hbelow k (by omega) hlength)
  obtain ⟨hbuilt, hthere, -⟩ := hsteps (place.length + 1) (Nat.le_refl _)
  have hlast := hthere place.length (Nat.lt_succ_self _)
  rw [List.take_length] at hlast
  exact ⟨hbuilt, hlast⟩

theorem WellFormed.addFile (htree : tree.WellFormed) (hspellable : Spellable place)
    (hfree : tree.entry? place = none)
    (hway : ∀ n content, tree.entry? (place.dropLast.take n) ≠ some (.file content))
    (content : List UInt8) : (tree.addFile place content).WellFormed := by
  have hroot : place ≠ [] := ne_nil_of_entry?_eq_none hfree
  have hdirectory : Spellable place.dropLast := by
    rw [List.dropLast_eq_take]
    exact hspellable.take _
  obtain ⟨hbuilt, hparent⟩ := htree.addDirectory hdirectory hway
  have hlength : place.dropLast.length < place.length := by
    have hpos := List.length_pos_iff.mpr hroot
    rw [List.length_dropLast]
    omega
  refine hbuilt.put hspellable hparent ?_
  rw [(tree.addDirectory_keeps place.dropLast).2 place hlength, hfree]

end FileTree

/-! ## Names of subdirectories -/

/-- A directory at a place that can be seen in a listing. -/
def Host.HasSubdirectory (host : Host) (place : Place) (name : Text) : Prop :=
  Text.startsWith name Path.parent = false ∧ host.tree.entry? (place ++ [name]) = some .directory

namespace FileTree

variable {tree : FileTree} {place : Place} {name : Text}

/-- The name of a place directly inside another. -/
def childName? (place p : Place) : Option Text :=
  if p.dropLast = place ∧ p ≠ [] then p.getLast? else none

theorem childName?_eq_some_iff {p : Place} : childName? place p = some name ↔ p = place ++ [name] := by
  unfold childName?
  rcases List.eq_nil_or_concat p with rfl | ⟨init, last, rfl⟩
  · simp
  · simp only [List.concat_eq_append, List.dropLast_concat, List.getLast?_concat, ne_eq,
      List.append_eq_nil_iff, List.cons_ne_self, and_false, not_false_eq_true, and_true]
    constructor
    · intro h
      split at h
      · rename_i hinit
        rw [hinit, Option.some.inj h]
      · cases h
    · intro h
      obtain ⟨rfl, hlast⟩ := List.append_inj' h rfl
      rw [if_pos rfl, (List.cons.inj hlast).1]

theorem children_eq (tree : FileTree) (place : Place) :
    tree.children place = (tree.entries.map (·.1)).filterMap (childName? place) := by
  rw [List.filterMap_map]
  rfl

theorem mem_children {entry : Entry} (h : tree.entry? (place ++ [name]) = some entry) :
    name ∈ tree.children place := by
  rw [children_eq, List.mem_filterMap]
  have hentry := mem_entries (by simp) h
  exact ⟨_, List.mem_map.mpr ⟨_, hentry, rfl⟩, childName?_eq_some_iff.mpr rfl⟩

theorem WellFormed.nodup_children (htree : tree.WellFormed) : (tree.children place).Nodup := by
  rw [children_eq]
  refine htree.distinct.filterMap fun p q other hp hq => ?_
  rw [childName?_eq_some_iff.mp hp, childName?_eq_some_iff.mp hq]

end FileTree

namespace Store

variable {host : Host} {place : Place} {name : Text}

theorem mem_subdirectoryNames :
    name ∈ subdirectoryNames host place ↔ host.HasSubdirectory place name := by
  unfold subdirectoryNames Host.HasSubdirectory
  rw [sortNames_eq, List.mem_insertionSort, List.mem_filter, Bool.and_eq_true, Bool.not_eq_true']
  constructor
  · rintro ⟨-, hvisible, hdirectory⟩
    refine ⟨hvisible, ?_⟩
    cases hentry : host.tree.entry? (place ++ [name]) with
    | none =>
        rw [hentry] at hdirectory
        cases hdirectory
    | some entry =>
        rw [hentry] at hdirectory
        cases entry with
        | directory => rfl
        | file content => cases hdirectory
  · rintro ⟨hvisible, hentry⟩
    exact ⟨FileTree.mem_children hentry, hvisible, by rw [hentry]; rfl⟩

/-- The names come in order, none twice. -/
theorem subdirectoryNames_sorted (htree : host.tree.WellFormed) (place : Place) :
    (subdirectoryNames host place).Pairwise (· < ·) := by
  have hnodup : (subdirectoryNames host place).Nodup := by
    unfold subdirectoryNames
    rw [sortNames_eq]
    exact (List.perm_insertionSort _ _).nodup_iff.mpr (htree.nodup_children.filter _)
  have hsorted : (subdirectoryNames host place).Pairwise (· ≤ ·) := by
    unfold subdirectoryNames
    rw [sortNames_eq]
    exact List.pairwise_insertionSort _ _
  exact (hsorted.and hnodup).imp fun ⟨hle, hne⟩ => lt_of_le_of_ne hle hne

end Store

end ConfigLocator

import ConfigLocator.FileTree
import ConfigLocator.Proofs.Outcome
import ConfigLocator.Proofs.PathNormal

/-!
# Paths in a file tree

A path is followed segment by segment (`FileTree.follow_append`), and one with a trailing slash can
only lead to a directory (`FileTree.lookup_append_slash`). Adding a file keeps what is there
(`FileTree.extends_addFile`) and makes no other file (`FileTree.file_of_entry?_addFile`).
-/

namespace ConfigLocator

/-! ## Paths with a trailing slash -/

namespace FileTree

variable {tree : FileTree}

theorem follow_append (place : Place) (segments more : List Text) :
    tree.follow place (segments ++ more) =
      (tree.follow place segments >>= fun reached => tree.follow reached more) := by
  induction segments generalizing place with
  | nil => rfl
  | cons segment rest ih =>
      simp only [List.cons_append, follow, ih]
      repeat' split
      all_goals rfl

theorem locate_eq_ok_iff {workingDirectory reached : Place} {path : Text} :
    tree.locate workingDirectory path = .ok reached ↔
      path.contains 0 = false ∧ path ≠ [] ∧ path.utf8Length ≤ pathLimit
        ∧ tree.follow (if Path.isAbsolute path then [] else workingDirectory)
          (Text.split slash path) = .ok reached := by
  unfold locate
  cases path.contains 0 with
  | true => simp
  | false =>
      by_cases hempty : path = []
      · simp [hempty]
      · by_cases hlength : pathLimit < path.utf8Length
        · simp [hempty, hlength, Nat.not_le.mpr hlength]
        · simp [hempty, hlength, Nat.not_lt.mp hlength]

/-- The end of a path with a trailing slash is entered, so it is a directory. -/
theorem lookup_append_slash {workingDirectory : Place} {path : Text} {entry : Entry}
    (h : tree.lookup workingDirectory (path ++ [slash]) = .ok entry) : entry = .directory := by
  obtain ⟨place, hplace, hentry⟩ := bind_eq_ok_iff.mp h
  obtain ⟨-, -, -, hfollow⟩ := locate_eq_ok_iff.mp hplace
  rw [Text.split_append_sep, follow_append] at hfollow
  obtain ⟨reached, -, hend⟩ := bind_eq_ok_iff.mp hfollow
  rw [Text.split, follow] at hend
  cases hreached : tree.entry? reached with
  | none =>
      rw [hreached] at hend
      cases hend
  | some other =>
      rw [hreached] at hend
      cases other with
      | file content => cases hend
      | directory =>
          obtain rfl : reached = place := Except.ok.inj hend
          rw [hreached] at hentry
          exact (Except.ok.inj hentry).symm

/-! ## Trees with more entries -/

/-- Another tree has all entries of this one, and may have further ones behind them. -/
def Extends (tree other : FileTree) : Prop := tree.entries <+: other.entries

variable {other : FileTree} {place : Place} {entry : Entry}

theorem Extends.refl (tree : FileTree) : tree.Extends tree := List.prefix_refl tree.entries

theorem Extends.trans {last : FileTree} (h : tree.Extends other) (h' : other.Extends last) :
    tree.Extends last :=
  List.IsPrefix.trans h h'

theorem entry?_eq_lookup (h : place ≠ []) : tree.entry? place = tree.entries.lookup place := by
  cases place with
  | nil => exact absurd rfl h
  | cons segment rest => rfl

theorem ne_nil_of_entry?_eq_none (h : tree.entry? place = none) : place ≠ [] := by
  rintro rfl
  cases h

/-- Where nothing stands, an entry is put behind all others. -/
theorem entries_put (h : tree.entry? place = none) :
    (tree.put place entry).entries = tree.entries ++ [(place, entry)] := by
  have hplace : tree.entries.lookup place = none :=
    (entry?_eq_lookup (ne_nil_of_entry?_eq_none h)).symm.trans h
  have hkeep : tree.entries.filter (·.1 != place) = tree.entries := by
    refine List.filter_eq_self.mpr fun pair hpair => ?_
    simpa [bne_comm] using List.lookup_eq_none_iff.mp hplace pair hpair
  rw [put, hkeep]

theorem extends_put (h : tree.entry? place = none) : tree.Extends (tree.put place entry) := by
  rw [Extends, entries_put h]
  exact List.prefix_append _ _

theorem extends_ensureDirectory (tree : FileTree) (place : Place) :
    tree.Extends (tree.ensureDirectory place) := by
  unfold ensureDirectory
  split
  · exact .refl tree
  · rename_i hnew
    exact extends_put (by simpa using hnew)

theorem entry?_put_self (hnew : tree.entry? place = none) :
    FileTree.entry? (tree.put place entry) place = some entry := by
  have hroot := ne_nil_of_entry?_eq_none hnew
  have hnone : tree.entries.lookup place = none := (entry?_eq_lookup hroot).symm.trans hnew
  rw [entry?_eq_lookup hroot, entries_put hnew, List.lookup_append, hnone, List.lookup_cons_self,
    Option.none_or]

/-- A new entry is made at one place only. -/
theorem entry?_put_of_ne {p : Place} (hnew : tree.entry? p = none) (h : p ≠ place) :
    FileTree.entry? (tree.put p entry) place = tree.entry? place := by
  by_cases hroot : place = []
  · rw [hroot]
    rfl
  · have hother : [(p, entry)].lookup place = none :=
      List.lookup_eq_none_iff.mpr (by simpa using Ne.symm h)
    rw [entry?_eq_lookup hroot, entry?_eq_lookup hroot, entries_put hnew, List.lookup_append, hother,
      Option.or_none]

theorem entry?_ensureDirectory_of_ne {p : Place} (h : p ≠ place) :
    FileTree.entry? (tree.ensureDirectory p) place = tree.entry? place := by
  unfold ensureDirectory
  split
  · rfl
  · rename_i hnew
    exact entry?_put_of_ne (by simpa using hnew) h

/-- Making directories keeps what is there, and makes nothing deeper. -/
theorem addDirectory_keeps (tree : FileTree) (directory : Place) :
    tree.Extends (tree.addDirectory directory)
      ∧ ∀ place, directory.length < place.length →
        FileTree.entry? (tree.addDirectory directory) place = tree.entry? place := by
  unfold addDirectory
  generalize List.range (directory.length + 1) = depths
  induction depths generalizing tree with
  | nil => exact ⟨.refl tree, fun place _ => rfl⟩
  | cons n rest ih =>
      obtain ⟨hextends, hdeeper⟩ := ih (tree.ensureDirectory (directory.take n))
      refine ⟨(tree.extends_ensureDirectory _).trans hextends, fun place hplace => ?_⟩
      have hne : directory.take n ≠ place := by
        rintro rfl
        simp only [List.length_take] at hplace
        omega
      rw [List.foldl_cons, hdeeper place hplace, entry?_ensureDirectory_of_ne hne]

/-- An entry that making a directory has made is a directory. -/
theorem entry?_of_ensureDirectory {p : Place}
    (h : FileTree.entry? (tree.ensureDirectory p) place = some entry) :
    tree.entry? place = some entry ∨ entry = .directory := by
  unfold ensureDirectory at h
  split at h
  · exact Or.inl h
  · rename_i hnew
    have hnew : tree.entry? p = none := by simpa using hnew
    by_cases hp : p = place
    · rw [hp, entry?_put_self (hp ▸ hnew)] at h
      exact Or.inr (Option.some.inj h).symm
    · rw [entry?_put_of_ne hnew hp] at h
      exact Or.inl h

theorem entry?_of_addDirectory {directory : Place}
    (h : FileTree.entry? (tree.addDirectory directory) place = some entry) :
    tree.entry? place = some entry ∨ entry = .directory := by
  unfold addDirectory at h
  generalize List.range (directory.length + 1) = depths at h
  induction depths generalizing tree with
  | nil => exact Or.inl h
  | cons n rest ih => exact (ih h).elim entry?_of_ensureDirectory Or.inr

theorem entry?_addDirectory_dropLast (h : tree.entry? place = none) :
    FileTree.entry? (tree.addDirectory place.dropLast) place = none := by
  have hlength : place.dropLast.length < place.length := by
    have hpos := List.length_pos_iff.mpr (ne_nil_of_entry?_eq_none h)
    rw [List.length_dropLast]
    omega
  rw [(tree.addDirectory_keeps place.dropLast).2 place hlength, h]

theorem extends_addFile (h : tree.entry? place = none) (content : List UInt8) :
    tree.Extends (tree.addFile place content) :=
  (tree.addDirectory_keeps place.dropLast).1.trans (extends_put (entry?_addDirectory_dropLast h))

/-- No other file is made. -/
theorem file_of_entry?_addFile {p : Place} {content other : List UInt8} (hne : p ≠ place)
    (hnew : tree.entry? place = none)
    (h : FileTree.entry? (tree.addFile place content) p = some (.file other)) :
    tree.entry? p = some (.file other) := by
  rw [addFile, entry?_put_of_ne (entry?_addDirectory_dropLast hnew) hne.symm] at h
  exact (entry?_of_addDirectory h).resolve_right nofun

/-! ## What stays in a larger tree -/

section Extends

variable (h : tree.Extends other)

include h

theorem Extends.entry? (hentry : tree.entry? place = some entry) :
    other.entry? place = some entry := by
  obtain ⟨added, hadded⟩ := h
  by_cases hroot : place = []
  · rw [hroot] at hentry ⊢
    exact hentry
  · rw [entry?_eq_lookup hroot] at hentry ⊢
    rw [← hadded, List.lookup_append, hentry, Option.some_or]

theorem Extends.any_entry? {p : Entry → Bool} (hany : (tree.entry? place).any p = true) :
    (other.entry? place).any p = true := by
  cases hentry : tree.entry? place with
  | none =>
      rw [hentry] at hany
      cases hany
  | some entry =>
      rw [hentry] at hany
      rw [h.entry? hentry]
      exact hany

theorem Extends.follow {segments : List Text} {reached : Place}
    (hfollow : tree.follow place segments = .ok reached) :
    other.follow place segments = .ok reached := by
  induction segments generalizing place with
  | nil => exact hfollow
  | cons segment rest ih =>
      rw [FileTree.follow] at hfollow
      split at hfollow
      · rename_i hdirectory
        rw [FileTree.follow, if_pos (h.any_entry? hdirectory)]
        by_cases hstay : segment = [] ∨ segment = Path.current
        · rw [if_pos hstay] at hfollow ⊢
          exact ih hfollow
        · rw [if_neg hstay] at hfollow ⊢
          by_cases hparent : segment = Path.parent
          · rw [if_pos hparent] at hfollow ⊢
            exact ih hfollow
          · rw [if_neg hparent] at hfollow ⊢
            split at hfollow
            · cases hfollow
            · rename_i hshort
              split at hfollow
              · rename_i hthere
                obtain ⟨entry, hentry⟩ := Option.isSome_iff_exists.mp hthere
                rw [if_neg hshort, if_pos (by rw [h.entry? hentry]; rfl)]
                exact ih hfollow
              · cases hfollow
      · split at hfollow <;> cases hfollow

theorem Extends.locate {workingDirectory : Place} {path : Text} {reached : Place}
    (hlocate : tree.locate workingDirectory path = .ok reached) :
    other.locate workingDirectory path = .ok reached := by
  obtain ⟨hnul, hne, hlength, hfollow⟩ := locate_eq_ok_iff.mp hlocate
  exact locate_eq_ok_iff.mpr ⟨hnul, hne, hlength, h.follow hfollow⟩

theorem Extends.lookup {workingDirectory : Place} {path : Text}
    (hlookup : tree.lookup workingDirectory path = .ok entry) :
    other.lookup workingDirectory path = .ok entry := by
  obtain ⟨reached, hlocate, hentry⟩ := bind_eq_ok_iff.mp hlookup
  refine bind_eq_ok_iff.mpr ⟨reached, h.locate hlocate, ?_⟩
  cases hreached : tree.entry? reached with
  | none =>
      rw [hreached] at hentry
      cases hentry
  | some found =>
      rw [hreached] at hentry
      rw [h.entry? hreached]
      exact hentry

/-- Further names may be among those in a directory. -/
theorem Extends.children_sublist (place : Place) :
    (tree.children place).Sublist (other.children place) :=
  h.sublist.filterMap _

end Extends

end FileTree

end ConfigLocator

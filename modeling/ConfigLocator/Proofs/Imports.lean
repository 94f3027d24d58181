import ConfigLocator.Import
import ConfigLocator.Proofs.FileTree

/-!
# Imports after a file is added

Among the modules in a directory a bare directory gives way to a source of its name, or to an initial
source inside of it. So a new source can hide packages. Any other new file leaves every package where
it is (`ModuleDirectory.imports_addFile`): it changes the answer to no question about sources
(`ModuleDirectory.source?_addFile`), and directories stay.
-/

namespace ConfigLocator.ModuleDirectory

variable {tree : FileTree} {place : Place}

theorem source?_eq_some_iff {content : List UInt8} :
    source? tree place = some content ↔ tree.entry? place = some (.file content) := by
  unfold source?
  split
  · rename_i hentry
    simp [hentry]
  · rename_i hnone
    exact iff_of_false nofun (hnone content)

section NewFile

variable (hnew : tree.entry? place = none)
  (hsource : ∀ name ∈ place.getLast?, Text.endsWith name sourceEnding = false) (content : List UInt8)

include hnew hsource

/-- The new file is no source, and no other file is new. -/
theorem source?_addFile (start : Place) (name : Text)
    (hname : Text.endsWith name sourceEnding = true) :
    source? (tree.addFile place content) (start ++ [name]) = source? tree (start ++ [name]) := by
  have hne : start ++ [name] ≠ place := by
    rintro rfl
    have hother := hsource name (by simp)
    rw [hname] at hother
    cases hother
  have hextends := FileTree.extends_addFile hnew content
  ext other
  rw [source?_eq_some_iff, source?_eq_some_iff]
  exact ⟨FileTree.file_of_entry?_addFile hne hnew, hextends.entry?⟩

theorem find?_addFile {inside : Place} {segment : Text} {m : Module}
    (h : find? tree inside segment = some m) :
    find? (tree.addFile place content) inside segment = some m := by
  have hextends := FileTree.extends_addFile hnew content
  have hinitial := source?_addFile hnew hsource content (inside ++ [segment]) initialSource (by decide)
  have hplain := source?_addFile hnew hsource content inside (segment ++ sourceEnding)
    (Text.endsWith_iff.mpr ⟨segment, rfl⟩)
  rw [List.append_assoc, List.singleton_append] at hinitial
  unfold find? at h ⊢
  rw [hinitial, hplain]
  cases hpackage : source? tree (inside ++ [segment, initialSource]) with
  | some source =>
      rw [hpackage] at h
      exact h
  | none =>
      rw [hpackage] at h
      cases hmodule : source? tree (inside ++ [segment ++ sourceEnding]) with
      | some source =>
          rw [hmodule] at h
          exact h
      | none =>
          rw [hmodule] at h
          dsimp only at h ⊢
          split at h
          · rename_i hdirectory
            rw [if_pos (hextends.any_entry? hdirectory)]
            exact h
          · cases h

theorem importFrom_addFile (d : ModuleDirectory) {inside found : Place} {segments : List Text}
    (h : d.importFrom tree inside segments = .package found) :
    d.importFrom (tree.addFile place content) inside segments = .package found := by
  induction segments generalizing inside with
  | nil => exact h
  | cons segment rest ih =>
      rw [importFrom] at h ⊢
      cases hfound : find? tree inside segment with
      | none =>
          rw [hfound] at h
          cases h
      | some m =>
          rw [hfound] at h
          rw [find?_addFile hnew hsource content hfound]
          cases m with
          | portion inner => exact ih h
          | source other => exact h
          | package inner source =>
              dsimp only at h ⊢
              cases hends : d.endsIn source with
              | some ending =>
                  rw [hends] at h
                  exact h
              | none =>
                  rw [hends] at h
                  exact ih h

/-- Unless the new file is a source, a package that was found is found in the same directory. -/
theorem imports_addFile (d : ModuleDirectory) {name : Text} {found : Place}
    (h : d.imports tree name = .package found) :
    d.imports (tree.addFile place content) name = .package found := by
  unfold imports at h ⊢
  split at h
  · exact h
  · exact importFrom_addFile hnew hsource content d h

end NewFile

end ConfigLocator.ModuleDirectory

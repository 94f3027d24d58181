import ConfigLocator.Proofs.Outcome
import ConfigLocator.StandardResolver

/-!
# Refused questions

A store can refuse a question: a location names no entry, a path or a segment is too long, the
subdirectories of a package cannot be listed. About a package it has no answer either when the name is
relative or the import of the package fails or is interrupted (`PackageRefusal`). None of these is a
fault of resolution (`Handle.isResolution_of_exists?`, `Store.isResolution_of_expand`), so during
resolution each failure becomes the cause of a fault that names the location, and an interruption passes
(`Fault.wrap_of_not_isInterruption`, `Fault.wrap_of_isInterruption`).
-/

namespace ConfigLocator

variable {host : Host} {fault : Fault}

/-! ## Packages -/

/-- Why a question about a package has no answer. -/
inductive PackageRefusal (host : Host) : Fault → Prop
  | unnamed (path : Text) : PackageRefusal host (.store (.unnamedPackage path))
  | relative : PackageRefusal host .relativePackage
  | failed {name kind : Text} {detail : Option Text}
      (h : host.imports host.tree name = .failure kind detail) :
      PackageRefusal host (.component kind detail)
  | interrupted {name kind : Text} {detail : Option Text}
      (h : host.imports host.tree name = .interruption kind detail) :
      PackageRefusal host (.interruption kind detail)
  | tooLong : PackageRefusal host (.path .tooLong)

theorem PackageRefusal.isResolution (h : PackageRefusal host fault) :
    fault.isResolution = false := by
  cases h <;> rfl

theorem Host.packagePlace?_eq_some_iff {name : Text} {place : Place} :
    host.packagePlace? name = .ok (some place) ↔
      name ≠ [] ∧ Text.startsWith name Path.current = false
        ∧ host.imports host.tree name = .package place := by
  unfold packagePlace?
  by_cases hname : name = []
  · simp [hname]
  · cases Text.startsWith name Path.current with
    | true => simp [hname]
    | false => cases host.imports host.tree name <;> simp [hname]

/-- An entry of a package stands where its path leads from the directory of the package. -/
theorem Host.packageEntry?_eq_some_iff {name path : Text} {entry : Entry} :
    host.packageEntry? name path = .ok (some entry) ↔
      ∃ place reached, host.packagePlace? name = .ok (some place) ∧ path.contains 0 = false
        ∧ (insidePath place path).utf8Length ≤ FileTree.pathLimit
        ∧ host.tree.follow place (Text.split slash path) = .ok reached
        ∧ host.tree.entry? reached = some entry := by
  constructor
  · intro h
    obtain ⟨place, hplace, h⟩ := bind_eq_ok_iff.mp h
    cases place with
    | none => cases h
    | some place =>
        dsimp only at h
        split at h
        · cases h
        · rename_i hnul
          split at h
          · cases h
          · rename_i hlength
            split at h
            · rename_i reached hfollow
              exact ⟨place, reached, hplace, by simpa using hnul, Nat.not_lt.mp hlength, hfollow,
                Except.ok.inj h⟩
            · cases h
            · cases h
  · rintro ⟨place, reached, hplace, hnul, hlength, hfollow, hentry⟩
    refine bind_eq_ok_iff.mpr ⟨some place, hplace, ?_⟩
    dsimp only
    rw [if_neg (ne_true_of_eq_false hnul), if_neg (Nat.not_lt.mpr hlength), hfollow]
    exact congrArg Except.ok hentry

theorem Host.packageRefusal_of_packagePlace? {name : Text} (hname : name ≠ [])
    (h : host.packagePlace? name = .error fault) : PackageRefusal host fault := by
  rw [packagePlace?, if_neg hname] at h
  split at h
  · cases h
    exact .relative
  · split at h
    · cases h
    · cases h
    · next hfailed =>
      cases h
      exact .failed hfailed
    · next hinterrupted =>
      cases h
      exact .interrupted hinterrupted

theorem Host.packageRefusal_of_packageEntry? {name path : Text} (hname : name ≠ [])
    (h : host.packageEntry? name path = .error fault) : PackageRefusal host fault := by
  rcases bind_eq_error_iff.mp h with hplace | ⟨place, -, h⟩
  · exact packageRefusal_of_packagePlace? hname hplace
  · cases place with
    | none => cases h
    | some place =>
        dsimp only at h
        split at h
        · cases h
        · split at h
          · cases h
            exact .tooLong
          · split at h
            · cases h
            · cases h
              exact .tooLong
            · cases h

theorem Host.isResolution_of_packageEntry? {name path : Text}
    (h : host.packageEntry? name path = .error fault) : fault.isResolution = false := by
  by_cases hname : name = []
  · unfold packageEntry? packagePlace? at h
    rw [if_pos hname] at h
    cases h
    rfl
  · have hrefusal := packageRefusal_of_packageEntry? hname h
    exact hrefusal.isResolution

/-! ## Handles -/

namespace Handle

theorem isResolution_of_entry? {handle : Handle} (h : handle.entry? host = .error fault) :
    fault.isResolution = false := by
  cases handle with
  | file path => cases h
  | package name path => exact Host.isResolution_of_packageEntry? h

theorem isResolution_of_exists? {handle : Handle} (h : handle.exists? host = .error fault) :
    fault.isResolution = false := by
  rcases bind_eq_error_iff.mp h with hentry | ⟨entry, -, h⟩
  · exact isResolution_of_entry? hentry
  · cases h

theorem isResolution_of_isDirectory? {handle : Handle}
    (h : handle.isDirectory? host = .error fault) : fault.isResolution = false := by
  rcases bind_eq_error_iff.mp h with hentry | ⟨entry, -, h⟩
  · exact isResolution_of_entry? hentry
  · cases h

end Handle

/-! ## Locations -/

theorem StandardResolver.isResolution_of_storeFault {e : Except StoreFault Handle}
    (h : storeFault e = .error fault) : fault.isResolution = false := by
  cases e with
  | ok handle => cases h
  | error refusal =>
      cases h
      rfl

namespace Store

theorem isResolution_of_subdirectories {store : Store} {pattern : Text}
    (h : store.subdirectories host pattern = .error fault) : fault.isResolution = false := by
  unfold subdirectories at h
  dsimp only at h
  split at h
  · cases h
    rfl
  · rcases bind_eq_error_iff.mp h with hdirectory | ⟨isDirectory, -, h⟩
    · exact Handle.isResolution_of_isDirectory? hdirectory
    · split at h
      · split at h
        · cases h
        · cases h
          rfl
      · cases h

theorem isResolution_of_expand {store : Store} {location : Text} {kind : PatternKind}
    (h : store.expand host location kind = .error fault) : fault.isResolution = false := by
  unfold expand at h
  split at h
  · cases h
    rfl
  · rcases bind_eq_error_iff.mp h with hdirectories | ⟨directories, -, h⟩
    · exact isResolution_of_subdirectories hdirectories
    · cases kind <;> cases h

end Store

end ConfigLocator

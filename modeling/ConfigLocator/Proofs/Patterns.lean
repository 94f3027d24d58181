import ConfigLocator.Proofs.Outcome
import ConfigLocator.Proofs.PathNormal

/-!
# Patterns of files

A pattern of files passes the check when its only wildcard is the last segment of its directory
(`Store.IsPatternDirectory`), and then every other name in that directory passes it too
(`Store.IsPatternDirectory.checkPattern`). The directory stands for subdirectories
(`Store.wildcardDirectories`), and a pattern for the files of one name in them
(`Store.IsPatternDirectory.expand`).
-/

namespace ConfigLocator

/-! ## Directories of patterns -/

namespace Store

variable {store : Store} {host : Host} {d f last : Text}

theorem checkPattern_of_expand {kind : PatternKind} {t : Text}
    {handles : List Handle}
    (h : store.expand host t kind = .ok handles) : checkPattern kind t = .ok () := by
  unfold expand at h
  split at h
  · cases h
  · assumption

theorem checkPattern_eq_ok_iff {kind : PatternKind} {t : Text} :
    checkPattern kind t = .ok () ↔
      isPattern t = true ∧ Text.startsWith t packageScheme = false ∧ t.count wildcard = 1
        ∧ Text.endsWith (patternDirectory kind t) wildcardSegment = true := by
  unfold checkPattern
  cases isPattern t with
  | false => simp
  | true =>
      cases Text.startsWith t packageScheme with
      | true => simp
      | false =>
          by_cases hcount : t.count wildcard = 1
          · cases Text.endsWith (patternDirectory kind t) wildcardSegment <;> simp [hcount]
          · simp [hcount]

/-- A directory of a checked pattern: its wildcard is its last segment, and there is no other. -/
structure IsPatternDirectory (d : Text) : Prop where
  no_package : Text.startsWith d packageScheme = false
  count_eq_one : d.count wildcard = 1
  endsWith : Text.endsWith d wildcardSegment = true

theorem IsPatternDirectory.wildcard_mem (h : IsPatternDirectory d) : wildcard ∈ d := by
  rw [← List.count_pos_iff, h.count_eq_one]
  exact Nat.one_pos

theorem IsPatternDirectory.exists_eq (h : IsPatternDirectory d) : ∃ s, d = s ++ [slash] := by
  obtain ⟨s, hs⟩ := Text.endsWith_iff.mp h.endsWith
  exact ⟨s ++ [wildcard], by rw [← hs, wildcardSegment, List.append_assoc]; rfl⟩

/-- The wildcard of a checked pattern of files stands in its directory. -/
theorem isPatternDirectory_of_checkPattern {t : Text} (h : checkPattern .files t = .ok ()) :
    IsPatternDirectory (Text.throughLast slash t) := by
  obtain ⟨-, hpackage, hcount, hends⟩ := checkPattern_eq_ok_iff.mp h
  have hends : Text.endsWith (Text.throughLast slash t) wildcardSegment = true := hends
  have hmem : ∀ c ∈ wildcardSegment, c ∈ Text.throughLast slash t := fun c hc =>
    (Text.endsWith_iff.mp hends).subset hc
  have hsplit := Text.throughLast_append_afterLast slash t
  refine ⟨?_, ?_, hends⟩
  · rw [← hpackage, ← hsplit, Text.startsWith_append (hmem slash (by decide)) (by decide), hsplit]
  · have hpos := List.count_pos_iff.mpr (hmem wildcard (by decide))
    rw [← hsplit, List.count_append] at hcount
    omega

/-- Every name in the directory of a checked pattern makes a checked pattern. -/
theorem IsPatternDirectory.checkPattern (h : IsPatternDirectory d) (hslash : slash ∉ f)
    (hf : isPattern f = false) : checkPattern .files (d ++ f) = .ok () := by
  have hmem := h.wildcard_mem
  obtain ⟨s, hs⟩ := h.exists_eq
  have hcount : f.count wildcard = 0 := by
    rw [List.count_eq_zero]
    simpa [isPattern] using hf
  refine checkPattern_eq_ok_iff.mpr ⟨?_, ?_, ?_, ?_⟩
  · simp [isPattern, hmem]
  · have hin : slash ∈ d := by simp [hs]
    rw [Text.startsWith_append hin (by decide), h.no_package]
  · rw [List.count_append, h.count_eq_one, hcount]
  · show Text.endsWith (Text.throughLast slash (d ++ f)) wildcardSegment = true
    rw [hs, List.append_assoc, List.singleton_append, Text.throughLast_append hslash, ← hs, h.endsWith]

/-- The subdirectories are those of what stands before the wildcard. -/
theorem subdirectories_append (hd : wildcard ∈ d) (f : Text) :
    store.subdirectories host (d ++ f) = store.subdirectories host d := by
  have htake : (d ++ f).takeWhile (· != wildcard) = d.takeWhile (· != wildcard) := by
    rw [List.takeWhile_append, if_neg]
    intro hlength
    have hall := List.takeWhile_eq_self_iff.mp (List.Sublist.eq_of_length
      (List.takeWhile_sublist _) hlength) wildcard hd
    simp at hall
  unfold subdirectories
  rw [htake]

/-- Without its scheme the directory still has its wildcard, and ends with a slash. -/
theorem IsPatternDirectory.dropLeading_eq (h : IsPatternDirectory d) :
    ∃ s, Text.dropLeading d fileScheme = s ++ [slash] ∧ wildcard ∈ s := by
  have hne : wildcard ≠ slash := by decide
  have hmem := h.wildcard_mem
  obtain ⟨s, hs⟩ := h.exists_eq
  cases hscheme : Text.startsWith d fileScheme with
  | false =>
      rw [Text.dropLeading, Text.dropLeading?_eq_none_iff.mpr hscheme]
      rw [hs] at hmem
      exact ⟨s, hs, by simpa [hne] using hmem⟩
  | true =>
      obtain ⟨path, rfl⟩ := Text.startsWith_iff.mp hscheme
      have hpath : wildcard ∈ path := by
        rcases List.mem_append.mp hmem with hscheme | hpath
        · exact absurd hscheme (by decide)
        · exact hpath
      obtain ⟨init, c, rfl⟩ : ∃ init c, path = init ++ [c] :=
        ⟨_, _, (List.dropLast_append_getLast (List.ne_nil_of_mem hpath)).symm⟩
      rw [← List.append_assoc] at hs
      obtain ⟨-, hc⟩ := List.append_inj' hs rfl
      obtain rfl := List.singleton_inj.mp hc
      rw [Text.dropLeading, Text.dropLeading?_append]
      exact ⟨init, rfl, by simpa [hne] using hpath⟩

end Store

/-! ## Subdirectories -/

namespace Store

/-- What stands before the wildcard, the working directory if that is nothing. -/
def patternRoot (pattern : Text) : Text :=
  let directory := pattern.takeWhile (· != wildcard)
  if directory = [] then "./" else directory

/-- The subdirectories are those of a directory of the file system; there are none if it is no
directory. -/
theorem subdirectories_eq_ok_iff {store : Store} {host : Host} {pattern : Text}
    {found : List Text} :
    store.subdirectories host pattern = .ok found ↔
      ∃ handle, store.handle (patternRoot pattern) = .ok handle
        ∧ ((handle.isDirectory? host = .ok false ∧ found = [])
          ∨ ∃ path, handle = .file path ∧ handle.isDirectory? host = .ok true
            ∧ found = (subdirectoryNames host (Place.ofPath (host.absolutePath path))).map
              (Path.append (host.absolutePath path))) := by
  unfold subdirectories
  dsimp only
  rw [← patternRoot]
  cases store.handle (patternRoot pattern) with
  | error fault => exact iff_of_false (fun h => by cases h) (by simp)
  | ok handle =>
      simp only [bind_eq_ok_iff, Except.ok.injEq, exists_eq_left']
      constructor
      · rintro ⟨isDirectory, hdirectory, h⟩
        cases isDirectory with
        | false => exact Or.inl ⟨hdirectory, (Except.ok.inj h).symm⟩
        | true =>
            cases handle with
            | package name path => cases h
            | file path => exact Or.inr ⟨path, rfl, hdirectory, (Except.ok.inj h).symm⟩
      · rintro (⟨hdirectory, rfl⟩ | ⟨path, rfl, hdirectory, rfl⟩)
        · exact ⟨false, hdirectory, rfl⟩
        · exact ⟨true, hdirectory, rfl⟩

end Store

/-! ## What a pattern stands for -/

/-- A file stands at the end of a path. -/
def Host.hasFile (host : Host) (path : Text) : Bool := (host.lookup path).toOption.any Entry.isFile

namespace Store

variable {store : Store} {host : Host} {d f : Text}

/-- The subdirectories that the wildcard of a pattern's directory stands for. -/
def wildcardDirectories (store : Store) (host : Host) (d : Text) : Except Fault (List Text) :=
  store.subdirectories host (Text.dropLeading d fileScheme)

/-- A pattern stands for the files of one name in those subdirectories. -/
theorem IsPatternDirectory.expand (store : Store) (host : Host) (h : IsPatternDirectory d)
    (hslash : slash ∉ f) (hcheck : Store.checkPattern .files (d ++ f) = .ok ()) :
    store.expand host (d ++ f) .files =
      (store.wildcardDirectories host d).map fun subs =>
        (subs.filter fun sub => host.hasFile (Path.append sub f)).map fun sub =>
          .file (Path.append sub f) := by
  obtain ⟨s, hs, hwildcard⟩ := h.dropLeading_eq
  have hlast : Text.afterLast slash (Text.dropLeading d fileScheme ++ f) = f := by
    rw [hs, List.append_assoc]
    exact Text.afterLast_append hslash s
  have hsubs : store.subdirectories host (Text.dropLeading d fileScheme ++ f) =
      store.wildcardDirectories host d :=
    subdirectories_append (by rw [hs]; exact List.mem_append_left _ hwildcard) f
  rw [Store.expand, hcheck]
  show (store.subdirectories host (Text.dropLeading (d ++ f) fileScheme) >>= fun subs =>
    Except.ok (((subs.map (Path.append · (Text.afterLast slash
      (Text.dropLeading (d ++ f) fileScheme)))).filter host.hasFile).map Handle.file)) = _
  have hin : slash ∈ d := by
    obtain ⟨start, hstart⟩ := h.exists_eq
    simp [hstart]
  rw [Text.dropLeading_append hin (by decide), hsubs, hlast]
  cases store.wildcardDirectories host d with
  | error fault => rfl
  | ok subs =>
      show Except.ok _ = Except.ok _
      rw [List.filter_map, List.map_map]
      rfl

end Store

end ConfigLocator

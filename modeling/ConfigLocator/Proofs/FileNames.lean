import Mathlib.Data.List.Find
import ConfigLocator.Proofs.Outcome
import ConfigLocator.Proofs.PathNormal
import ConfigLocator.StandardResolver

/-!
# Names of files

A name of a file (`FileName`) stands for itself as a location (`FileName.parts`), and behind a
directory whose text a loader knows (`KnownExtension`) its reference has the text of the directory
with the name behind it (`FileName.fileReference`). Lower case stops at a slash
(`Text.lower_append`), so an extension without one is known behind every directory alike
(`KnownExtension.append`).

A text ends in an extension in lower case exactly if it ends in its letters, as long as the extension
is in ASCII (`Text.endsWith_lower_iff`). The loader that is found is the first one with such an
extension (`Loader.FirstWith`). A hint is read as it is written (`Hinted`, `splitHint?_eq_some_iff`).
-/

namespace ConfigLocator

/-! ## Lower case behind a slash -/

theorem meetsCased_append_slash (s t : Text) :
    meetsCased (s ++ slash :: t) = meetsCased s := by
  have hslash : caseIgnorableRanges.contain slash = false := by decide
  unfold meetsCased
  rw [List.dropWhile_append]
  cases h : s.dropWhile caseIgnorableRanges.contain with
  | nil => simp [hslash, show casedRanges.contain slash = false by decide]
  | cons c rest => rfl

namespace Text

/-- What stands before a slash does not matter behind it. -/
theorem lowerAfter_slash (before far t : Text) :
    lowerAfter (before ++ slash :: far) t = lowerAfter before t := by
  induction t generalizing before with
  | nil => rfl
  | cons c rest ih =>
      rw [lowerAfter, lowerAfter, meetsCased_append_slash]
      exact congrArg _ (ih (c :: before))

theorem lowerAfter_append_slash (before s t : Text) :
    lowerAfter before (s ++ slash :: t) = lowerAfter before (s ++ [slash]) ++ lower t := by
  induction s generalizing before with
  | nil =>
      have hslash : ¬slash = 0x3A3 := by decide
      simp only [List.nil_append, lowerAfter, if_neg hslash, List.append_assoc]
      exact congrArg _ (lowerAfter_slash [] before t)
  | cons c rest ih =>
      simp only [List.cons_append, lowerAfter]
      rw [ih, meetsCased_append_slash, meetsCased_append_slash, List.append_assoc]

theorem exists_lowerAfter_slash (before s : Text) :
    ∃ t, lowerAfter before (s ++ [slash]) = t ++ [slash] := by
  induction s generalizing before with
  | nil => exact ⟨[], rfl⟩
  | cons c rest ih =>
      obtain ⟨t, ht⟩ := ih (c :: before)
      rw [List.cons_append, lowerAfter, ht, ← List.append_assoc]
      exact ⟨_, rfl⟩

theorem IsDirectoryPart.lower {d : Text} (hd : d.IsDirectoryPart) :
    (Text.lower d).IsDirectoryPart := by
  rcases hd with rfl | ⟨s, rfl⟩
  · exact Or.inl rfl
  · exact Or.inr (exists_lowerAfter_slash [] s)

/-- Lower case of a directory and of what is in it. -/
theorem lower_append {d : Text} (hd : d.IsDirectoryPart) (t : Text) :
    lower (d ++ t) = lower d ++ lower t := by
  rcases hd with rfl | ⟨s, rfl⟩
  · rfl
  · rw [lower, lower, List.append_assoc, List.singleton_append, lowerAfter_append_slash]

end Text

theorem CaseRuns.lt_image? {runs : CaseRuns} {bound : Nat}
    (h : ∀ run ∈ runs, bound < run.2.2.2) {c image : Nat} (hc : runs.image? c = some image) :
    bound < image := by
  induction runs with
  | nil => cases hc
  | cons run rest ih =>
      obtain ⟨hrun, hrest⟩ := List.forall_mem_cons.mp h
      obtain ⟨first, last, step, target⟩ := run
      rw [CaseRuns.image?] at hc
      split at hc
      · cases hc
        exact Nat.lt_add_right _ hrun
      · exact ih hrest hc

theorem CaseRuns.image?_eq_none {runs : CaseRuns} {c : Nat} (h : ∀ run ∈ runs, c < run.1) :
    runs.image? c = none := by
  induction runs with
  | nil => rfl
  | cons run rest ih =>
      obtain ⟨hrun, hrest⟩ := List.forall_mem_cons.mp h
      have hbefore : ¬run.1 ≤ c := Nat.not_le.mpr hrun
      rw [CaseRuns.image?, ih hrest]
      simp [hbefore]

/-- Lower case of ASCII is ASCII, and what stands before the letters stays. -/
theorem lowerOf_ascii {c : Nat} (h : c < 0x80) :
    ∃ d, lowerOf c = [d] ∧ d < 0x80 ∧ (c < 0x41 → d = c) := by
  have hruns : ∀ run ∈ lowerRuns.tail, 0x7F < run.1 := by decide +kernel
  have himage : lowerRuns.image? c = if 0x41 ≤ c ∧ c ≤ 0x5A then some (c + 0x20) else none := by
    have hrest : CaseRuns.image? lowerRuns.tail c = none :=
      CaseRuns.image?_eq_none fun run hrun => by
        have := hruns run hrun
        omega
    have hfirst : lowerRuns = (0x41, 0x5A, 1, 0x61) :: lowerRuns.tail := rfl
    rw [hfirst, CaseRuns.image?, hrest]
    simp only [Nat.mod_one, beq_self_eq_true, Bool.and_true, Bool.and_eq_true, decide_eq_true_eq]
    split
    · congr 1
      omega
    · rfl
  have hplain : c ≠ 0x130 := by omega
  rw [lowerOf, if_neg hplain, himage]
  split
  · exact ⟨c + 0x20, rfl, by omega, by omega⟩
  · exact ⟨c, rfl, h, fun _ => rfl⟩

/-- No letter becomes a character that stands before the small letters. -/
theorem eq_of_mem_lowerOf {c d : Nat} (hd : d < 0x61) (h : d ∈ lowerOf c) : c = d := by
  have hruns : ∀ run ∈ lowerRuns, 0x60 < run.2.2.2 := by decide +kernel
  unfold lowerOf at h
  split at h
  · simp only [List.mem_cons, List.not_mem_nil, or_false] at h
    omega
  · cases himage : lowerRuns.image? c with
    | none =>
        rw [himage] at h
        exact (List.mem_singleton.mp h).symm
    | some image =>
        have hbound := CaseRuns.lt_image? hruns himage
        rw [himage] at h
        have himage : d = image := List.mem_singleton.mp h
        omega

theorem Text.mem_of_mem_lowerAfter {d : Nat} (hd : d < 0x61) {before t : Text}
    (h : d ∈ lowerAfter before t) : d ∈ t := by
  induction t generalizing before with
  | nil => simp [lowerAfter] at h
  | cons c rest ih =>
      rw [lowerAfter, List.mem_append] at h
      rcases h with h | h
      · split at h
        · have hsigma := List.mem_singleton.mp h
          split at hsigma <;> omega
        · exact List.mem_cons.mpr (Or.inl (eq_of_mem_lowerOf hd h).symm)
      · exact List.mem_cons_of_mem c (ih h)

/-! ## Extensions in lower case -/

/-- The dot above that is left of `İ`, the one letter whose lower case is longer. -/
def dotAbove : Nat := 0x307

theorem lowerOf_ne_nil (c : Nat) : lowerOf c ≠ [] := by
  unfold lowerOf
  split <;> exact List.cons_ne_nil _ _

theorem length_lowerOf {c : Nat} (h : dotAbove ∉ lowerOf c) : (lowerOf c).length = 1 := by
  unfold lowerOf at h ⊢
  split
  · rename_i hc
    rw [if_pos hc] at h
    exact absurd (by decide) h
  · rfl

/-- A proper end of the lower case of a letter is the dot above. -/
theorem eq_nil_of_append_lowerOf {c : Nat} {start rest : Text} (h : start ++ rest = lowerOf c)
    (hstart : start ≠ []) (hdot : dotAbove ∉ rest) : rest = [] := by
  have hlength := congrArg List.length h
  have hpos : 0 < start.length := List.length_pos_iff.mpr hstart
  rw [List.length_append] at hlength
  by_cases hc : c = 0x130
  · obtain ⟨first, more, rfl⟩ := List.exists_cons_of_ne_nil hstart
    rw [lowerOf, if_pos hc, List.cons_append, List.cons.injEq] at h
    rcases List.append_eq_cons_iff.mp h.2 with ⟨-, rfl⟩ | ⟨last, -, hlast⟩
    · exact absurd (by decide) hdot
    · exact (List.append_eq_nil_iff.mp hlast.symm).2
  · have hone : (lowerOf c).length = 1 := by rw [lowerOf, if_neg hc]; rfl
    exact List.length_eq_zero_iff.mp (by omega)

namespace Text

/-- A tail of the lower case is the lower case of a tail, unless it begins within `İ`. -/
theorem exists_of_suffix_lowerAfter {before t tail : Text} (h : tail <:+ lowerAfter before t)
    (hdot : dotAbove ∉ tail) :
    ∃ stem written far, t = stem ++ written ∧ lowerAfter far written = tail := by
  induction t generalizing before with
  | nil =>
      have hnil : tail = [] := List.suffix_nil.mp h
      exact ⟨[], [], [], rfl, hnil.symm⟩
  | cons c rest ih =>
      rcases List.suffix_or_suffix_of_suffix h (List.suffix_append _ (lowerAfter (c :: before) rest))
        with hrest | hwhole
      · obtain ⟨stem, written, far, rfl, htail⟩ := ih hrest
        exact ⟨c :: stem, written, far, rfl, htail⟩
      · obtain ⟨part, rfl⟩ := hwhole
        obtain ⟨start, hstart⟩ := h
        rw [lowerAfter, ← List.append_assoc, List.append_cancel_right_eq] at hstart
        rw [List.mem_append, not_or] at hdot
        by_cases hnil : start = []
        · rw [hnil, List.nil_append] at hstart
          exact ⟨[], c :: rest, before, rfl, by rw [lowerAfter, hstart]⟩
        · refine ⟨[c], rest, c :: before, rfl, ?_⟩
          split at hstart
          · rcases List.append_eq_singleton_iff.mp hstart with ⟨h, -⟩ | ⟨-, h⟩
            · exact absurd h hnil
            · rw [h, List.nil_append]
          · rw [eq_nil_of_append_lowerOf hstart hnil hdot.1, List.nil_append]

end Text

/-- Texts that are the same letter by letter when case does not count. -/
def SameLetters (s t : Text) : Prop := s.map lowerOf = t.map lowerOf

/-- A text ends in a dot and an extension when case does not count. -/
def EndsInExtension (t extension : Text) : Prop :=
  ∃ stem written, t = stem ++ Path.dot :: written ∧ SameLetters written extension

namespace SameLetters

variable {s t : Text}

theorem length_eq (h : SameLetters s t) : s.length = t.length := by
  simpa using congrArg List.length h

/-- What has no case is the same in both. -/
theorem mem_of_mem {d : Nat} (hd : d < 0x41) (h : SameLetters s t) (hmem : d ∈ s) : d ∈ t := by
  obtain ⟨image, himage, -, hself⟩ := lowerOf_ascii (show d < 0x80 by omega)
  have hlower : lowerOf d ∈ t.map lowerOf := h ▸ List.mem_map_of_mem hmem
  obtain ⟨c, hc, hsame⟩ := List.mem_map.mp hlower
  rw [himage, hself hd] at hsame
  have heq : c = d := eq_of_mem_lowerOf (show d < 0x61 by omega) (by rw [hsame]; exact List.mem_cons_self)
  exact heq ▸ hc

theorem sigma_not_mem (h : SameLetters s t) (ht : ∀ c ∈ t, c < 0x80) : 0x3A3 ∉ s := by
  intro hmem
  have hlower : lowerOf 0x3A3 ∈ t.map lowerOf := h ▸ List.mem_map_of_mem hmem
  obtain ⟨c, hc, hsame⟩ := List.mem_map.mp hlower
  obtain ⟨image, himage, hbound, -⟩ := lowerOf_ascii (ht c hc)
  have hsigma : lowerOf 0x3A3 = [0x3C3] := by decide +kernel
  rw [himage, hsigma] at hsame
  have := (List.cons.inj hsame).1
  omega

end SameLetters

namespace Text

/-- Without a sigma every letter is taken in lower case by itself. -/
theorem lowerAfter_eq_flatMap {before t : Text} (h : 0x3A3 ∉ t) :
    lowerAfter before t = t.flatMap lowerOf := by
  induction t generalizing before with
  | nil => rfl
  | cons c rest ih =>
      rw [List.mem_cons, not_or] at h
      rw [lowerAfter, if_neg (Ne.symm h.1), ih h.2, List.flatMap_cons]

theorem lower_ascii {e : Text} (h : ∀ c ∈ e, c < 0x80) : e.lower = e.flatMap lowerOf := by
  refine lowerAfter_eq_flatMap fun hmem => ?_
  have := h _ hmem
  omega

theorem dotAbove_not_mem_flatMap {e : Text} (h : ∀ c ∈ e, c < 0x80) :
    dotAbove ∉ e.flatMap lowerOf := by
  rw [List.mem_flatMap]
  rintro ⟨c, hc, hmem⟩
  obtain ⟨image, hlower, himage, -⟩ := lowerOf_ascii (h c hc)
  rw [hlower, List.mem_singleton] at hmem
  unfold dotAbove at hmem
  omega

theorem lowerAfter_suffix (before s t : Text) :
    lowerAfter (s.reverse ++ before) t <:+ lowerAfter before (s ++ t) := by
  induction s generalizing before with
  | nil => exact List.suffix_refl _
  | cons c rest ih =>
      have hrest := ih (c :: before)
      rw [List.reverse_cons, List.append_assoc, List.singleton_append]
      exact hrest.trans (List.suffix_append _ _)

/-- The letter that an ASCII letter in lower case comes from. -/
theorem of_lowerAfter_cons {far rest more : Text} {c image : Nat}
    (h : lowerAfter far (c :: rest) = image :: more) (himage : image < 0x80)
    (hmore : dotAbove ∉ more) : lowerOf c = [image] ∧ lowerAfter (c :: far) rest = more := by
  rw [lowerAfter] at h
  split at h
  · obtain ⟨hsigma, -⟩ := List.cons.inj h
    split at hsigma <;> omega
  · rcases List.append_eq_cons_iff.mp h with ⟨hnil, -⟩ | ⟨others, hlower, hrest⟩
    · exact absurd hnil (lowerOf_ne_nil c)
    · have hdot : dotAbove ∉ lowerOf c := by
        rw [hlower, List.mem_cons, not_or]
        refine ⟨fun heq => ?_, fun hmem => hmore (hrest ▸ List.mem_append_left _ hmem)⟩
        rw [← heq] at himage
        exact absurd himage (by decide)
      have hone := length_lowerOf hdot
      rw [hlower, List.length_cons, Nat.add_eq_right, List.length_eq_zero_iff] at hone
      rw [hlower, hrest, hone]
      exact ⟨rfl, rfl⟩

end Text

/-- A text whose lower case is that of an ASCII text has the same letters. -/
theorem sameLetters_of_lowerAfter {far s e : Text} (he : ∀ c ∈ e, c < 0x80)
    (h : Text.lowerAfter far s = e.flatMap lowerOf) : SameLetters s e := by
  induction e generalizing far s with
  | nil =>
      cases s with
      | nil => rfl
      | cons c rest =>
          rw [Text.lowerAfter] at h
          have hfirst := (List.append_eq_nil_iff.mp h).1
          split at hfirst
          · cases hfirst
          · exact absurd hfirst (lowerOf_ne_nil c)
  | cons d more ih =>
      obtain ⟨hd, hmore⟩ := List.forall_mem_cons.mp he
      obtain ⟨image, himage, hbound, -⟩ := lowerOf_ascii hd
      rw [List.flatMap_cons, himage, List.singleton_append] at h
      cases s with
      | nil => cases h
      | cons c rest =>
          obtain ⟨hc, hrest⟩ :=
            Text.of_lowerAfter_cons h hbound (Text.dotAbove_not_mem_flatMap hmore)
          rw [SameLetters, List.map_cons, List.map_cons, hc, himage, ih hmore hrest]

namespace Text

/-- An extension in ASCII ends a text in lower case if its letters do, behind a dot. -/
theorem endsWith_lower_iff {t e : Text} (he : ∀ c ∈ e, c < 0x80) :
    endsWith t.lower (Path.dot :: e.lower) = true ↔ EndsInExtension t e := by
  have hdot : lowerOf Path.dot = [Path.dot] := by decide +kernel
  have hascii : ∀ c ∈ Path.dot :: e, c < 0x80 := List.forall_mem_cons.mpr ⟨by decide, he⟩
  have hlower : Path.dot :: e.lower = (Path.dot :: e).flatMap lowerOf := by
    rw [List.flatMap_cons, hdot, lower_ascii he]
    rfl
  rw [endsWith_iff]
  constructor
  · intro h
    have hplain : dotAbove ∉ Path.dot :: e.lower := by
      rw [List.mem_cons, not_or]
      exact ⟨by decide, lower_ascii he ▸ dotAbove_not_mem_flatMap he⟩
    obtain ⟨stem, text, far, rfl, htext⟩ := exists_of_suffix_lowerAfter h hplain
    have hsame := sameLetters_of_lowerAfter hascii (htext.trans hlower)
    cases text with
    | nil => cases hsame
    | cons c written =>
        obtain ⟨hfirst, hwritten⟩ := List.cons.inj hsame
        have hc : c = Path.dot := eq_of_mem_lowerOf (by decide) (by rw [hfirst, hdot]; simp)
        exact ⟨stem, written, by rw [hc], hwritten⟩
  · rintro ⟨stem, written, rfl, hsame⟩
    have hdotted : SameLetters (Path.dot :: written) (Path.dot :: e) := by
      rw [SameLetters, List.map_cons, List.map_cons, hsame]
    have hsigma : 0x3A3 ∉ Path.dot :: written := hdotted.sigma_not_mem hascii
    have hwritten : lowerAfter (stem.reverse ++ []) (Path.dot :: written) = Path.dot :: e.lower := by
      rw [lowerAfter_eq_flatMap hsigma, hlower, List.flatMap_def, hdotted, ← List.flatMap_def]
    rw [← hwritten]
    exact lowerAfter_suffix [] stem (Path.dot :: written)

end Text

/-! ## Extensions behind a slash -/

/-- A tail without a slash is found behind the last slash. -/
theorem Text.endsWith_append {d tail : Text} (hd : d.IsDirectoryPart) (htail : slash ∉ tail)
    (t : Text) : endsWith (d ++ t) tail = endsWith t tail := by
  rw [Bool.eq_iff_iff, endsWith_iff, endsWith_iff]
  refine ⟨fun h => ?_, fun h => h.trans (List.suffix_append d t)⟩
  rcases hd with rfl | ⟨s, rfl⟩
  · exact h
  · have hslash : slash :: t <:+ s ++ [slash] ++ t := by
      rw [List.append_assoc]
      exact List.suffix_append s (slash :: t)
    rcases List.suffix_or_suffix_of_suffix h hslash with hshort | hlong
    · rcases List.suffix_cons_iff.mp hshort with rfl | hshort
      · exact absurd List.mem_cons_self htail
      · exact hshort
    · exact absurd (hlong.subset List.mem_cons_self) htail

theorem Loader.findExtension?_congr {p q : Text → Bool} {loaders : List Loader}
    (h : ∀ loader ∈ loaders, ∀ own, loader.extensions = .ok own → ∀ e ∈ own, p e = q e) :
    findExtension? p loaders = findExtension? q loaders := by
  induction loaders with
  | nil => rfl
  | cons loader rest ih =>
      obtain ⟨hloader, hrest⟩ := List.forall_mem_cons.mp h
      rw [findExtension?, findExtension?, ih hrest]
      cases hown : loader.extensions with
      | error fault => rfl
      | ok own =>
          have hfind : own.find? p = own.find? q := List.find?_congr (hloader own hown)
          simp only [bind, Except.bind, hfind]

theorem Loader.findExtension?_of_find? {test : Text → Bool} {loader : Loader} {own : List Text}
    {e : Text} (hown : loader.extensions = .ok own) (h : own.find? test = some e)
    (rest : List Loader) : findExtension? test (loader :: rest) = .ok (some (loader, e)) := by
  rw [findExtension?, hown]
  simp only [bind, Except.bind, h]
  rfl

/-- The first of some loaders with an extension of a kind, and its first such extension. -/
structure Loader.FirstWith (p : Text → Prop) (loaders : List Loader) (loader : Loader) (e : Text) :
    Prop where
  holds : p e
  first_loader : ∃ before after, loaders = before ++ loader :: after
    ∧ ∀ other ∈ before, ∀ own, other.extensions = .ok own → ∀ e ∈ own, ¬p e
  first_extension : ∃ before after, loader.extensions = .ok (before ++ e :: after)
    ∧ ∀ other ∈ before, ¬p other

theorem Loader.FirstWith.mem {p : Text → Prop} {loaders : List Loader} {loader : Loader} {e : Text}
    (h : FirstWith p loaders loader e) :
    loader ∈ loaders ∧ ∃ own, loader.extensions = .ok own ∧ e ∈ own := by
  obtain ⟨before, after, rfl, -⟩ := h.first_loader
  obtain ⟨front, back, hown, -⟩ := h.first_extension
  exact ⟨by simp, _, hown, by simp⟩

theorem Loader.firstWith_of_findExtension? {test : Text → Bool} {loaders : List Loader}
    {loader : Loader} {e : Text} (h : findExtension? test loaders = .ok (some (loader, e))) :
    FirstWith (test · = true) loaders loader e := by
  induction loaders with
  | nil => cases h
  | cons first rest ih =>
      obtain ⟨own, hown, h⟩ := bind_eq_ok_iff.mp h
      cases hfind : own.find? test with
      | none =>
          rw [hfind] at h
          obtain ⟨holds, ⟨before, after, rfl, hbefore⟩, hextension⟩ := ih h
          refine ⟨holds, ⟨first :: before, after, rfl, ?_⟩, hextension⟩
          refine List.forall_mem_cons.mpr ⟨fun other hother => ?_, hbefore⟩
          obtain rfl := Except.ok.inj (hown.symm.trans hother)
          exact List.find?_eq_none.mp hfind
      | some found =>
          rw [hfind] at h
          cases h
          obtain ⟨holds, front, back, rfl, hfront⟩ := List.find?_eq_some_iff_append.mp hfind
          exact ⟨holds, ⟨[], rest, rfl, by simp⟩, front, back, hown, by simpa using hfront⟩

theorem Loader.mem_of_findExtension? {test : Text → Bool} {loaders : List Loader} {loader : Loader}
    {e : Text} (h : findExtension? test loaders = .ok (some (loader, e))) :
    test e = true ∧ loader ∈ loaders ∧ ∃ own, loader.extensions = .ok own ∧ e ∈ own :=
  ⟨(firstWith_of_findExtension? h).holds, (firstWith_of_findExtension? h).mem⟩

theorem Loader.mem_of_candidates {loaders : List Loader} {pairs : List (Loader × Text)}
    (hpairs : Loader.candidates loaders = .ok pairs) {loader : Loader} {e : Text}
    (h : (loader, e) ∈ pairs) : loader ∈ loaders ∧ ∃ own, loader.extensions = .ok own ∧ e ∈ own := by
  induction loaders generalizing pairs with
  | nil =>
      cases hpairs
      cases h
  | cons first rest ih =>
      obtain ⟨own, hown, hpairs⟩ := bind_eq_ok_iff.mp hpairs
      obtain ⟨later, hlater, hpairs⟩ := bind_eq_ok_iff.mp hpairs
      cases hpairs
      rcases List.mem_append.mp h with h | h
      · obtain ⟨e, he, hpair⟩ := List.mem_map.mp h
        cases hpair
        exact ⟨List.mem_cons_self, own, hown, he⟩
      · obtain ⟨hloader, hextension⟩ := ih hlater h
        exact ⟨List.mem_cons_of_mem first hloader, hextension⟩

/-- Loaders that can be asked for their extensions know none of a kind, or there is a first one. -/
theorem Loader.findExtension?_cases {test : Text → Bool} {loaders : List Loader}
    (hanswer : ∀ loader ∈ loaders, ∃ own, loader.extensions = .ok own) :
    (∃ loader e, findExtension? test loaders = .ok (some (loader, e)))
      ∨ findExtension? test loaders = .ok none
        ∧ ∀ loader ∈ loaders, ∀ own, loader.extensions = .ok own → ∀ e ∈ own, test e = false := by
  induction loaders with
  | nil => exact Or.inr ⟨rfl, by simp⟩
  | cons first rest ih =>
      obtain ⟨⟨own, hown⟩, hrest⟩ := List.forall_mem_cons.mp hanswer
      cases hfind : own.find? test with
      | some e => exact Or.inl ⟨first, e, findExtension?_of_find? hown hfind rest⟩
      | none =>
          have hlater : findExtension? test (first :: rest) = findExtension? test rest := by
            rw [findExtension?, hown]
            simp only [bind, Except.bind, hfind]
          rw [hlater]
          refine (ih hrest).imp_right fun ⟨hnone, hall⟩ => ⟨hnone, ?_⟩
          refine List.forall_mem_cons.mpr ⟨fun other hother e he => ?_, hall⟩
          obtain rfl := Except.ok.inj (hown.symm.trans hother)
          simpa using List.find?_eq_none.mp hfind e he

/-- The two parts of a file at its extension. -/
theorem parts_at_dot (stem : Text) {written : Text} (hne : written ≠ []) :
    lastPart written.length (stem ++ Path.dot :: written) = written
      ∧ (stem ++ Path.dot :: written).take
          ((stem ++ Path.dot :: written).length - (written.length + 1)) = stem := by
  constructor
  · have hdrop : (stem ++ Path.dot :: written).length - written.length =
        (stem ++ [Path.dot]).length := by
      simp only [List.length_append, List.length_cons, List.length_nil]
      omega
    rw [lastPart, if_neg (by simpa using hne), hdrop,
      show stem ++ Path.dot :: written = (stem ++ [Path.dot]) ++ written by simp, List.drop_left]
  · have htake : (stem ++ Path.dot :: written).length - (written.length + 1) = stem.length := by
      simp only [List.length_append, List.length_cons]
      omega
    rw [htake, List.take_left]

/-! ## Hints -/

/-- The mark that opens an extension hint. -/
def hintMark : Nat := '['

/-- The mark that closes it. -/
def hintEnd : Nat := ']'

/-- An extension hint for a word. -/
def hint (word : Text) : Text := hintMark :: Path.dot :: (word ++ [hintEnd])

/-- A text with an extension hint: a base on one line, and behind it a hint for some word. One line
feed at the very end does not count. -/
structure Hinted (t base word : Text) : Prop where
  one_line : lineFeed ∉ base
  ne_nil : word ≠ []
  chars : ∀ c ∈ word, isWord c = true
  text : t = base ++ hint word ∨ t = base ++ hint word ++ [lineFeed]

theorem not_mem_of_isWord {word : Text} (h : ∀ c ∈ word, isWord c = true) {c : Nat}
    (hc : isWord c = false) : c ∉ word := fun hmem => by
  have hword := h c hmem
  rw [hc] at hword
  cases hword

theorem slash_not_isWord : isWord slash = false := by decide +kernel

theorem lineFeed_not_isWord : isWord lineFeed = false := by decide +kernel

theorem dot_not_isWord : isWord Path.dot = false := by decide +kernel

theorem eq_dropFinalLineFeed (t : Text) :
    t = dropFinalLineFeed t ∨ t = dropFinalLineFeed t ++ [lineFeed] := by
  unfold dropFinalLineFeed
  split
  · rename_i c hlast
    split
    · rename_i hc
      rw [← hc]
      exact Or.inr (List.dropLast_append_getLast? c hlast).symm
    · exact Or.inl rfl
  · exact Or.inl rfl

/-- A hint is read back with the base before it. -/
theorem Hinted.splitHint? {t base word : Text} (h : Hinted t base word) :
    splitHint? t = some (base, Path.dot :: word) := by
  have hclose : dropFinalLineFeed t = base ++ hint word := by
    have hlast : (base ++ hint word).getLast? = some hintEnd := by
      rw [show base ++ hint word = base ++ (hintMark :: Path.dot :: word) ++ [hintEnd] by
        simp [hint]]
      exact List.getLast?_concat
    rcases h.text with rfl | rfl
    · rw [dropFinalLineFeed, hlast]
      rfl
    · rw [dropFinalLineFeed, List.getLast?_append, List.dropLast_concat]
      rfl
  have hreverse : (dropFinalLineFeed t).reverse =
      hintEnd :: (word.reverse ++ Path.dot :: hintMark :: base.reverse) := by
    rw [hclose, hint]
    simp
  have hword : (word.reverse ++ Path.dot :: hintMark :: base.reverse).takeWhile isWord =
      word.reverse := by
    rw [List.takeWhile_append_of_pos fun c hc => h.chars c (List.mem_reverse.mp hc),
      List.takeWhile_cons_of_neg (by simp [dot_not_isWord]), List.append_nil]
  rw [ConfigLocator.splitHint?, hreverse]
  dsimp only
  rw [hword, List.drop_left]
  dsimp only
  rw [if_pos ⟨rfl, by simpa using h.ne_nil, rfl, rfl, by simpa using h.one_line⟩,
    List.reverse_reverse, List.reverse_reverse]

theorem hinted_of_splitHint? {t base extension : Text}
    (h : splitHint? t = some (base, extension)) :
    ∃ word, extension = Path.dot :: word ∧ Hinted t base word := by
  unfold splitHint? at h
  split at h
  · cases h
  · rename_i last before hreverse
    dsimp only at h
    split at h
    · rename_i point bracket rest hdrop
      split at h
      · rename_i hshape
        obtain ⟨rfl, hne, rfl, rfl, hline⟩ := hshape
        cases h
        have hbefore : before = before.takeWhile isWord ++ Path.dot :: hintMark :: rest := by
          rw [show Path.dot :: hintMark :: rest = _ from hdrop.symm]
          exact (List.prefix_iff_eq_append.mp (List.takeWhile_prefix isWord)).symm
        have hdropped : dropFinalLineFeed t = rest.reverse ++ hint (before.takeWhile isWord).reverse := by
          rw [← List.reverse_inj, hreverse, hint, show (hintEnd : Nat) = ']'.toNat from rfl]
          conv_lhs => rw [hbefore]
          simp
        refine ⟨_, rfl, by simpa using hline, by simpa using hne, fun c hc => ?_, ?_⟩
        · exact List.mem_takeWhile_imp (List.mem_reverse.mp hc)
        · rw [← hdropped]
          exact eq_dropFinalLineFeed t
      · cases h
    · cases h

theorem splitHint?_eq_some_iff {t base extension : Text} :
    splitHint? t = some (base, extension) ↔
      ∃ word, extension = Path.dot :: word ∧ Hinted t base word := by
  refine ⟨hinted_of_splitHint?, ?_⟩
  rintro ⟨word, rfl, h⟩
  exact h.splitHint?

theorem splitHint?_eq_none_iff {t : Text} : splitHint? t = none ↔ ∀ base word, ¬Hinted t base word := by
  rw [Option.eq_none_iff_forall_ne_some, Prod.forall]
  constructor
  · exact fun h base word hhinted => h base _ (splitHint?_eq_some_iff.mpr ⟨word, rfl, hhinted⟩)
  · intro h base extension hsome
    obtain ⟨word, -, hhinted⟩ := splitHint?_eq_some_iff.mp hsome
    exact h base word hhinted

/-- A text with a hint is its base and, in brackets, its extension. -/
theorem eq_of_splitHint? {file base extension : Text} (h : splitHint? file = some (base, extension)) :
    ∃ ending, file = base ++ hintMark :: extension ++ ending
      ∧ ∀ c ∈ ending, c = hintEnd ∨ c = lineFeed := by
  obtain ⟨word, rfl, hhinted⟩ := hinted_of_splitHint? h
  rcases hhinted.text with rfl | rfl
  · exact ⟨[hintEnd], by simp [hint], by simp⟩
  · exact ⟨[hintEnd, lineFeed], by simp [hint], by simp⟩

/-- The parts of a hint are on one line, and the text goes on behind the base. -/
theorem splitHint?_eq_some {file base extension : Text}
    (h : splitHint? file = some (base, extension)) :
    base ++ [hintMark] <+: file ∧ lineFeed ∉ base ++ extension
      ∧ ∃ word, extension = Path.dot :: word := by
  obtain ⟨ending, hfile, -⟩ := eq_of_splitHint? h
  obtain ⟨word, rfl, hhinted⟩ := hinted_of_splitHint? h
  refine ⟨⟨Path.dot :: word ++ ending, by simp [hfile]⟩, ?_, word, rfl⟩
  rw [List.mem_append, List.mem_cons, not_or, not_or]
  exact ⟨hhinted.one_line, by decide, not_mem_of_isWord hhinted.chars lineFeed_not_isWord⟩

/-- Only a name with a bracket has a hint. -/
theorem splitHint?_eq_none {d f : Text} (hd : d.IsDirectoryPart) (hf : hintMark ∉ f) :
    splitHint? (d ++ f) = none := by
  cases hhint : splitHint? (d ++ f) with
  | none => rfl
  | some found =>
      obtain ⟨word, -, h⟩ := hinted_of_splitHint? hhint
      obtain ⟨behind, htext, hslash⟩ : ∃ behind, d ++ f = found.1 ++ hintMark :: behind
          ∧ slash ∉ hintMark :: behind := by
        have hword := not_mem_of_isWord h.chars slash_not_isWord
        have hmarks : slash ≠ hintMark ∧ slash ≠ Path.dot ∧ slash ≠ hintEnd
          ∧ slash ≠ lineFeed := by decide
        rcases h.text with htext | htext
        · exact ⟨_, htext, by simp [hword, hmarks]⟩
        · exact ⟨Path.dot :: (word ++ [hintEnd, lineFeed]), by simp [htext, hint],
            by simp [hword, hmarks]⟩
      have hends : Text.endsWith f (hintMark :: behind) = true := by
        rw [← Text.endsWith_append hd hslash, Text.endsWith_iff, htext]
        exact List.suffix_append _ _
      exact absurd ((Text.endsWith_iff.mp hends).subset List.mem_cons_self) hf

/-! ## Names of files -/

/-- A relative name of a file: one segment, without anything that a location gives a meaning to. -/
structure FileName (f : Text) : Prop where
  isName : Path.IsName f
  not_blank : f.isBlankText = false
  no_wildcard : wildcard ∉ f
  no_delimiter : ∀ c ∈ locationDelimiter, c ∉ f
  no_hint : hintMark ∉ f
  no_lead : ∀ lead ∈ [optionalMark, resourceMark, fileScheme, packageScheme],
    Text.startsWith f lead = false
  no_scheme : hasScheme f = false

/-- A text ends in an extension that a loader knows, in as many letters as the loader writes it.
Lower case can have more letters than what it is taken of. -/
def KnownExtension (loaders : List Loader) (t : Text) : Prop :=
  ∃ loader extension stem written,
    Loader.findExtension? (fun e => Text.endsWith t.lower (Path.dot :: e.lower)) loaders =
      .ok (some (loader, extension))
    ∧ t = stem ++ Path.dot :: written ∧ written ≠ [] ∧ written.length = extension.length

/-- An extension without a slash is known behind any directory. -/
theorem KnownExtension.append {loaders : List Loader} {d f : Text} (h : KnownExtension loaders f)
    (hd : d.IsDirectoryPart)
    (hslash : ∀ loader ∈ loaders, ∀ own, loader.extensions = .ok own → ∀ e ∈ own, slash ∉ e) :
    KnownExtension loaders (d ++ f) := by
  obtain ⟨loader, extension, stem, written, hfound, hf, hne, hlength⟩ := h
  refine ⟨loader, extension, d ++ stem, written, ?_, ?_, hne, hlength⟩
  · rw [← hfound]
    refine Loader.findExtension?_congr fun own hown exts hexts e he => ?_
    have htail : slash ∉ Path.dot :: e.lower := by
      rw [List.mem_cons, not_or]
      exact ⟨by decide, fun hmem => hslash own hown exts hexts e he
        (Text.mem_of_mem_lowerAfter (by decide) hmem)⟩
    rw [Text.lower_append hd, Text.endsWith_append hd.lower htail]
  · rw [hf, List.append_assoc]

namespace FileName

variable {f : Text} (h : FileName f)

include h

theorem ne_nil : f ≠ [] := h.isName.isSegment.1.1

theorem slash_not_mem : slash ∉ f := h.isName.isSegment.1.2.2

theorem isPattern : ConfigLocator.isPattern f = false := by
  simpa [ConfigLocator.isPattern] using h.no_wildcard

/-- The name is one location, and mandatory. -/
theorem parts (origin : Option Text) :
    (⟨f, false, origin⟩ : Location).parts = [⟨f, false, origin⟩] := by
  have hoptional : Text.dropLeading? optionalMark f = none :=
    Text.dropLeading?_eq_none_iff.mpr (h.no_lead optionalMark (by simp))
  have hof : Location.of? f origin = some ⟨f, false, origin⟩ := by
    rw [Location.of?, hoptional]
    simp [h.not_blank]
  exact Location.parts_of_of? hof h.no_delimiter

/-- Beside a resource the name stands behind the text up to its last slash. -/
theorem resourceLocation (origin : Option Text) (x : Reference) :
    StandardResolver.resourceLocation (some x) ⟨f, false, origin⟩ =
      Text.throughLast slash x.resourceLocation ++ f := by
  have hresource : Text.dropLeading? resourceMark f = none :=
    Text.dropLeading?_eq_none_iff.mpr (h.no_lead resourceMark (by simp))
  have hrelative : Path.isAbsolute f = false := Path.isAbsolute_of_not_mem h.slash_not_mem
  rw [StandardResolver.resourceLocation, Location.withoutLead, Text.dropLeading, hresource]
  show (if (Path.isAbsolute f || hasScheme f) = true then f else _) = _
  rw [hrelative, h.no_scheme]
  rfl

/-- The reference of the file that the name stands for in a directory has the text of the name behind
that of the directory. -/
theorem fileReference {r : StandardResolver} {d : Text} (hd : d.IsDirectoryPart)
    (hknown : KnownExtension r.loaders (d ++ f)) (l : Location) :
    ∃ y, r.fileReference l (d ++ f) none = .ok y ∧ y.resourceLocation = d ++ f
      ∧ y.location = l ∧ y.directory = none ∧ y.profile = none := by
  obtain ⟨loader, extension, stem, written, hends, htext, hne, hlength⟩ := hknown
  obtain ⟨hwritten, hroot⟩ := parts_at_dot stem hne
  rw [← htext, hlength] at hwritten
  rw [← htext] at hroot
  refine ⟨⟨l, none, stem, none, some written, loader⟩, ?_, ?_, rfl, rfl, rfl⟩
  · rw [StandardResolver.fileReference, splitHint?_eq_none hd h.no_hint]
    simp only [hends]
    show Except.ok (_ : Reference) = _
    rw [hwritten, hroot]
    rfl
  · rw [Reference.resourceLocation, htext]
    simp

end FileName

end ConfigLocator

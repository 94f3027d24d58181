import ConfigLocator.Proofs.NamedFiles

/-!
# Extension hints

A hint selects the loader of a file as if its word were the extension, and the file is what stands
before the hint. For that the word is put behind the base, and what is cut off again is as long as the
extension that was found, not as the word (`StandardResolver.references_hinted`). The two have the
same length for every extension in ASCII without a dot (`length_eq_of_endsInExtension`), but an
extension such as `tar.gz` takes part of the base with it.

A base with a line feed has no hint at all: the brackets belong to the name of the file.
-/

namespace ConfigLocator

/-! ## Texts with a hint -/

theorem hint_eq (base word : Text) :
    base ++ hint word = (base ++ [hintMark]) ++ Path.dot :: (word ++ [hintEnd]) := by
  simp [hint]

theorem getLast?_hint (base word : Text) : (base ++ hint word).getLast? = some hintEnd := by
  rw [hint_eq, ← List.cons_append, ← List.append_assoc]
  exact List.getLast?_concat

theorem not_isDirectoryText_hint (base word : Text) :
    Path.isDirectoryText (base ++ hint word) = false := by
  rw [← Bool.not_eq_true, Path.isDirectoryText_iff]
  rintro ⟨rest, hrest⟩
  have hlast := getLast?_hint base word
  rw [← hrest, List.getLast?_concat] at hlast
  exact absurd hlast (by decide)

/-- A hint is found where the last dot is, so the base is known. -/
theorem Hinted.base_eq {base word b w : Text} (hdot : Path.dot ∉ word)
    (h : Hinted (base ++ hint word) b w) : b = base := by
  have hclosed : ∀ v : Text, Path.dot ∉ v → Path.dot ∉ v ++ [hintEnd] := fun v hv => by
    rw [List.mem_append, not_or]
    exact ⟨hv, by decide⟩
  rcases h.text with htext | htext
  · rw [hint_eq, hint_eq] at htext
    have hstart := congrArg (Text.throughLast Path.dot) htext
    rw [Text.throughLast_append (hclosed word hdot),
      Text.throughLast_append (hclosed w (not_mem_of_isWord h.chars dot_not_isWord)), List.append_assoc,
      List.append_assoc, List.append_cancel_right_eq] at hstart
    exact hstart.symm
  · have hlast := getLast?_hint base word
    rw [htext, List.getLast?_concat] at hlast
    exact absurd hlast (by decide)

section

variable {base word : Text} (hword : word ≠ []) (hchars : ∀ c ∈ word, isWord c = true)

include hword hchars

/-- The base of a hint is on one line. -/
theorem splitHint?_hint :
    splitHint? (base ++ hint word) = if lineFeed ∈ base then none else some (base, Path.dot :: word) := by
  split
  · rename_i hline
    refine splitHint?_eq_none_iff.mpr fun b w h => ?_
    exact h.one_line (h.base_eq (not_mem_of_isWord hchars dot_not_isWord) ▸ hline)
  · rename_i hline
    exact Hinted.splitHint? ⟨hline, hword, hchars, Or.inl rfl⟩

end

/-- What is cut off is as long as the extension. -/
theorem length_lastPart {n : Nat} (hn : n ≠ 0) (t : Text) :
    (lastPart n t).length = min n t.length := by
  rw [lastPart, if_neg hn, List.length_drop]
  omega

/-- With an extension in ASCII without a dot the word has its letters. -/
theorem length_eq_of_endsInExtension {base word e : Text} (hword : Path.dot ∉ word)
    (he : Path.dot ∉ e) (h : EndsInExtension (base ++ Path.dot :: word) e) :
    e.length = word.length := by
  obtain ⟨stem, written, htext, hsame⟩ := h
  have hwritten : Path.dot ∉ written := fun hmem => he (hsame.mem_of_mem (by decide) hmem)
  have hparts := congrArg (Text.afterLast Path.dot) htext
  rw [Text.afterLast_append hword, Text.afterLast_append hwritten] at hparts
  rw [hparts, hsame.length_eq]

/-- As much of the text is left as stands before the hint if the extension is as long as the word. With
an empty base it may also be longer. -/
theorem take_eq_base_iff (base word : Text) (n : Nat) :
    (base ++ Path.dot :: word).take (base.length + word.length - n) = base ↔
      n = word.length ∨ base = [] ∧ word.length ≤ n := by
  rw [← List.length_eq_zero_iff]
  constructor
  · intro h
    have hlength := congrArg List.length h
    rw [List.length_take, List.length_append, List.length_cons] at hlength
    omega
  · intro h
    have hlength : base.length + word.length - n = base.length := by omega
    rw [hlength, List.take_left]

namespace StandardResolver

variable {r : StandardResolver} {parent : Option Reference} {l : Location}

/-- The first loader with an extension that a file ends in once both are in lower case. -/
def FirstReader (r : StandardResolver) (file : Text) (loader : Loader) (e : Text) : Prop :=
  Loader.FirstWith (fun e => Text.endsWith file.lower (Path.dot :: e.lower) = true) r.loaders loader e

/-- The extension of a text that ends in a bracket has one. -/
theorem hintEnd_mem_of_endsWith {t e : Text} (ht : t.getLast? = some hintEnd)
    (h : Text.endsWith t.lower (Path.dot :: e.lower) = true) : hintEnd ∈ e := by
  obtain ⟨before, rfl⟩ := List.getLast?_eq_some_iff.mp ht
  have hbracket : [hintEnd] <:+ Text.lower (before ++ [hintEnd]) := by
    have hself : Text.lowerAfter (before.reverse ++ []) [hintEnd] = [hintEnd] := by
      rw [Text.lowerAfter_eq_flatMap (by decide)]
      decide +kernel
    exact hself ▸ Text.lowerAfter_suffix [] before [hintEnd]
  have hmem : hintEnd ∈ Path.dot :: e.lower := by
    rcases List.suffix_or_suffix_of_suffix hbracket (Text.endsWith_iff.mp h) with hinside | hwhole
    · exact hinside.subset List.mem_cons_self
    · exact absurd (hwhole.subset List.mem_cons_self) (by decide)
  rcases List.mem_cons.mp hmem with hdot | hlower
  · exact absurd hdot (by decide)
  · exact Text.mem_of_mem_lowerAfter (by decide) hlower

section

variable {base word : Text} (hword : word ≠ []) (hchars : ∀ c ∈ word, isWord c = true)

include hword hchars

theorem namedFile_hint (hline : lineFeed ∉ base) :
    namedFile (base ++ hint word) = base ++ Path.dot :: word := by
  rw [namedFile, splitHint?_hint hword hchars, if_neg hline]

/-- The root of a file with a hint, which has no extension of its own. -/
theorem readReference_hint (hline : lineFeed ∉ base) {e : Text} (he : e ≠ []) (profile : Option Text)
    (loader : Loader) :
    readReference l (base ++ hint word) profile loader e =
      ⟨l, none, (base ++ Path.dot :: word).take (base.length + word.length - e.length), profile, none,
        loader⟩ := by
  have hhint : splitHint? (base ++ hint word) = some (base, Path.dot :: word) := by
    rw [splitHint?_hint hword hchars, if_neg hline]
  have hcut : (base ++ Path.dot :: word).length -
      ((lastPart e.length (base ++ Path.dot :: word)).length + 1) =
        base.length + word.length - e.length := by
    rw [length_lastPart (mt List.length_eq_zero_iff.mp he), List.length_append, List.length_cons]
    omega
  simp only [readReference, namedFile_hint hword hchars hline, hhint, hcut]
  rfl

/-- The one reference of a location with a hint that a loader knows, put behind the base like an
extension. -/
theorem references_hint (hline : lineFeed ∉ base) (htext : resourceLocation parent l = base ++ hint word)
    {loader : Loader} {e : Text} (he : e ≠ [])
    (hreader : r.readerOf? (base ++ Path.dot :: word) = .ok (some (loader, e)))
    (profile : Option Text) :
    ∃ refs, r.references parent ⟨l, profile⟩ = .ok refs
      ∧ refs.items = [⟨l, none,
          (base ++ Path.dot :: word).take (base.length + word.length - e.length), profile, none,
          loader⟩] := by
  have hnamed := namedFile_hint hword hchars hline
  rw [← readReference_hint hword hchars hline he]
  exact references_of_readerOf? htext (not_isDirectoryText_hint base word) (hnamed.symm ▸ hreader) profile

/-- Behind a base with a line feed the brackets belong to the name. -/
theorem references_hint_of_lineFeed (hline : lineFeed ∈ base)
    (htext : resourceLocation parent l = base ++ hint word)
    (hanswer : ∀ loader ∈ r.loaders, ∃ own, loader.extensions = .ok own) (profile : Option Text) :
    (∀ refs, r.references parent ⟨l, profile⟩ = .ok refs → ∀ x ∈ refs.items, x.extension ≠ none)
      ∧ ((∀ loader ∈ r.loaders, ∀ own, loader.extensions = .ok own → ∀ e ∈ own, hintEnd ∉ e) →
        r.references parent ⟨l, profile⟩ = .error (.unknownExtension (some l) (base ++ hint word))) := by
  have hhint : splitHint? (base ++ hint word) = none := by
    rw [splitHint?_hint hword hchars, if_pos hline]
  have hnamed := namedFile_eq_self hhint
  have hfile := not_isDirectoryText_hint base word
  have hreader : (∃ loader e, r.readerOf? (base ++ hint word) = .ok (some (loader, e)))
      ∨ r.readerOf? (base ++ hint word) = .ok none :=
    (Loader.findExtension?_cases hanswer).imp_right And.left
  rcases hreader with ⟨loader, e, hfound⟩ | hnone
  · obtain ⟨refs, hrefs, hitems⟩ :=
      references_of_readerOf? htext hfile (hnamed.symm ▸ hfound) profile
    refine ⟨fun refs' hrefs' x hx => ?_, fun hbracket => ?_⟩
    · obtain rfl := Except.ok.inj (hrefs.symm.trans hrefs')
      rw [hitems, List.mem_singleton] at hx
      rw [hx, readReference, hhint]
      exact Option.some_ne_none _
    · obtain ⟨hends, hloader, own, hown, he⟩ := Loader.mem_of_findExtension? hfound
      exact absurd (hintEnd_mem_of_endsWith (getLast?_hint base word) hends)
        (hbracket loader hloader own hown e he)
  · have herror : r.references parent ⟨l, profile⟩ =
        .error (.unknownExtension (some l) (base ++ hint word)) := by
      rw [references_of_unread htext hfile (hnamed.symm ▸ hnone), hnamed]
    refine ⟨fun refs hrefs => ?_, fun _ => herror⟩
    cases herror.symm.trans hrefs

/-- A location with a hint that a loader knows, put behind the base like an extension, has one
reference in each pass as long as the base is on one line. Its root is the base if the extension that
was found is as long as the word, which it is in ASCII without a dot. A longer one takes the end of the
base with it. A base with a line feed has no hint, and a reference would have the extension of the
whole text. -/
theorem references_hinted (htext : resourceLocation parent l = base ++ hint word)
    (hloaders : ∀ loader ∈ r.loaders, ∃ own, loader.extensions = .ok own ∧ ∀ e ∈ own, e ≠ [])
    (hknown : ∃ loader ∈ r.loaders, ∃ own, loader.extensions = .ok own ∧ ∃ e ∈ own,
      Text.endsWith (base ++ Path.dot :: word).lower (Path.dot :: e.lower) = true) :
    (lineFeed ∉ base → ∃ loader e, r.FirstReader (base ++ Path.dot :: word) loader e
        ∧ ((∀ c ∈ e, c < 0x80) → Path.dot ∉ e → e.length = word.length)
        ∧ ∀ profile, ∃ refs x, r.references parent ⟨l, profile⟩ = .ok refs ∧ refs.items = [x]
          ∧ x.loader = loader ∧ x.location = l ∧ x.profile = profile ∧ x.extension = none
          ∧ x.resourceLocation =
              (base ++ Path.dot :: word).take (base.length + word.length - e.length)
                ++ profileSuffix (profile.getD [])
          ∧ (x.resourceLocation = base ++ profileSuffix (profile.getD []) ↔
              e.length = word.length ∨ base = [] ∧ word.length ≤ e.length))
      ∧ (lineFeed ∈ base → ∀ profile,
          (∀ refs, r.references parent ⟨l, profile⟩ = .ok refs → ∀ x ∈ refs.items, x.extension ≠ none)
            ∧ ((∀ loader ∈ r.loaders, ∀ own, loader.extensions = .ok own → ∀ e ∈ own, hintEnd ∉ e) →
              r.references parent ⟨l, profile⟩ =
                .error (.unknownExtension (some l) (base ++ hint word)))) := by
  obtain ⟨hanswer, hextensions⟩ := Loader.of_extensions hloaders
  refine ⟨fun hline => ?_, fun hline => references_hint_of_lineFeed hword hchars hline htext hanswer⟩
  obtain ⟨loader, e, hfound⟩ : ∃ loader e,
      r.readerOf? (base ++ Path.dot :: word) = .ok (some (loader, e)) := by
    rcases Loader.findExtension?_cases hanswer with hfound | ⟨-, hunknown⟩
    · exact hfound
    · obtain ⟨loader, hloader, own, hown, e, he, hends⟩ := hknown
      rw [hunknown loader hloader own hown e he] at hends
      cases hends
  have hfirst : r.FirstReader (base ++ Path.dot :: word) loader e :=
    Loader.firstWith_of_findExtension? hfound
  have hne : e ≠ [] := by
    obtain ⟨hloader, own, hown, he⟩ := hfirst.mem
    exact hextensions loader hloader own hown e he
  refine ⟨loader, e, hfirst, fun hascii hdot => ?_, fun profile => ?_⟩
  · exact length_eq_of_endsInExtension (not_mem_of_isWord hchars dot_not_isWord) hdot
      ((Text.endsWith_lower_iff hascii).mp hfirst.holds)
  · obtain ⟨refs, hrefs, hitems⟩ := references_hint hword hchars hline htext hne hfound profile
    refine ⟨refs, _, hrefs, hitems, rfl, rfl, rfl, rfl, ?_, ?_⟩
    · rw [Reference.resourceLocation_eq]
      exact List.append_nil _
    · rw [Reference.resourceLocation_eq]
      show _ ++ _ ++ [] = _ ↔ _
      rw [List.append_nil, List.append_cancel_right_eq, take_eq_base_iff]

end

/-- A loader of an extension with a dot. -/
def archiveResolver : StandardResolver :=
  { sampleResolver with loaders := [⟨0, "archive", .ok ["tar.gz", "gz"], fun _ _ _ => .ok []⟩] }

/-- The hint selects `tar.gz`, which takes the end of the base with it. Behind a line feed the hint is
none. -/
theorem references_hinted_archive :
    (∃ refs x, archiveResolver.references none ⟨⟨"x.tar[.gz]", false, none⟩, none⟩ = .ok refs
        ∧ refs.items = [x] ∧ x.resourceLocation = "x")
      ∧ archiveResolver.references none ⟨⟨"x\ny.tar[.gz]", false, none⟩, none⟩ =
        .error (.unknownExtension (some ⟨"x\ny.tar[.gz]", false, none⟩) "x\ny.tar[.gz]") := by
  have hloaders : ∀ loader ∈ archiveResolver.loaders, ∃ own, loader.extensions = .ok own
      ∧ ∀ e ∈ own, e ≠ [] := by
    intro loader hloader
    obtain rfl := List.mem_singleton.mp hloader
    exact ⟨_, rfl, by decide⟩
  constructor
  · obtain ⟨hhinted, -⟩ := @references_hinted archiveResolver none ⟨"x.tar[.gz]", false, none⟩ "x.tar"
      "gz" (by decide) (by decide +kernel) (by decide +kernel) hloaders
      ⟨_, List.mem_cons_self, _, rfl, "gz", by decide, by decide +kernel⟩
    obtain ⟨loader, e, hfirst, -, hreferences⟩ := hhinted (by decide)
    obtain ⟨refs, x, hrefs, hitems, -, -, -, -, hlocation, -⟩ := hreferences none
    have he : e = "tar.gz" := by
      obtain rfl := List.mem_singleton.mp hfirst.mem.1
      obtain ⟨front, back, hown, hfront⟩ := hfirst.first_extension
      have hlist := Except.ok.inj hown
      cases front with
      | nil => exact (List.cons.inj hlist).1.symm
      | cons first rest =>
          refine absurd ?_ (hfront first List.mem_cons_self)
          rw [← (List.cons.inj hlist).1]
          decide +kernel
    refine ⟨refs, x, hrefs, hitems, ?_⟩
    rw [hlocation, he]
    decide
  · obtain ⟨-, hline⟩ := @references_hinted archiveResolver none ⟨"x\ny.tar[.gz]", false, none⟩
      "x\ny.tar" "gz" (by decide) (by decide +kernel) (by decide +kernel) hloaders
      ⟨_, List.mem_cons_self, _, rfl, "gz", by decide, by decide +kernel⟩
    refine (hline (by decide) none).2 fun loader hloader own hown => ?_
    obtain rfl := List.mem_singleton.mp hloader
    obtain rfl := Except.ok.inj hown
    decide

end StandardResolver

end ConfigLocator

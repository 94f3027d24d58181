import ConfigLocator.Proofs.ProfilePass

/-!
# Files named with their extension

A location that is neither a directory nor an extension hint names a file. Its text has to end in an
extension that a loader knows, in letters of either case, and the first loader with one reads it
(`Loader.FirstWith`). The text is cut at that extension and put together again with what a profile
adds, so the default pass asks for the text as it was written
(`StandardResolver.references_named_file`).
-/

namespace ConfigLocator

theorem Loader.FirstWith.congr {p q : Text → Prop} {loaders : List Loader} {loader : Loader} {e : Text}
    (h : FirstWith p loaders loader e)
    (hsame : ∀ loader ∈ loaders, ∀ own, loader.extensions = .ok own → ∀ e ∈ own, (p e ↔ q e)) :
    FirstWith q loaders loader e := by
  obtain ⟨hloader, own, hown, he⟩ := h.mem
  obtain ⟨before, after, rfl, hbefore⟩ := h.first_loader
  obtain ⟨front, back, hextensions, hfront⟩ := h.first_extension
  refine ⟨(hsame loader hloader own hown e he).mp h.holds, ⟨before, after, rfl, ?_⟩,
    front, back, hextensions, ?_⟩
  · intro other hother own hown e he
    rw [← hsame other (List.mem_append_left _ hother) own hown e he]
    exact hbefore other hother own hown e he
  · intro other hother
    rw [← hsame loader hloader _ hextensions other (List.mem_append_left _ hother)]
    exact hfront other hother

/-- Loaders with extensions of a kind answer, and whatever extension they answer with is of the kind. -/
theorem Loader.of_extensions {p : Text → Prop} {loaders : List Loader}
    (h : ∀ loader ∈ loaders, ∃ own, loader.extensions = .ok own ∧ ∀ e ∈ own, p e) :
    (∀ loader ∈ loaders, ∃ own, loader.extensions = .ok own)
      ∧ ∀ loader ∈ loaders, ∀ own, loader.extensions = .ok own → ∀ e ∈ own, p e := by
  refine ⟨fun loader hloader => (h loader hloader).imp fun own hown => hown.1, ?_⟩
  intro loader hloader own hown
  obtain ⟨others, hothers, hall⟩ := h loader hloader
  obtain rfl := Except.ok.inj (hown.symm.trans hothers)
  exact hall

namespace StandardResolver

variable {r : StandardResolver} {parent : Option Reference} {l : Location}

/-! ## A file and its reader -/

theorem references_of_readerOf? {text : Text} (htext : resourceLocation parent l = text)
    (hfile : Path.isDirectoryText text = false) {loader : Loader} {e : Text}
    (hreader : r.readerOf? (namedFile text) = .ok (some (loader, e))) (profile : Option Text) :
    ∃ refs, r.references parent ⟨l, profile⟩ = .ok refs
      ∧ refs.items = [readReference l text profile loader e] := by
  refine ⟨.ofList [readReference l text profile loader e], ?_, rfl⟩
  rw [references_eq, listing, htext, if_neg (by simp [hfile]), fileReference_eq, hreader]
  rfl

theorem references_of_unread {text : Text} (htext : resourceLocation parent l = text)
    (hfile : Path.isDirectoryText text = false)
    (hreader : r.readerOf? (namedFile text) = .ok none) (profile : Option Text) :
    r.references parent ⟨l, profile⟩ = .error (.unknownExtension (some l) (namedFile text)) := by
  rw [references_eq, listing, htext, if_neg (by simp [hfile]), fileReference_eq, hreader]
  rfl

theorem namedFile_eq_self {text : Text} (h : splitHint? text = none) : namedFile text = text := by
  rw [namedFile, h]

/-! ## Its own extension -/

/-- A file is named with an extension that some loader knows. -/
def Recognizes (r : StandardResolver) (text : Text) : Prop :=
  ∃ loader ∈ r.loaders, ∃ own, loader.extensions = .ok own ∧ ∃ e ∈ own, EndsInExtension text e

/-- A location that names a file has one reference in each pass if a loader knows its extension, and
cannot be listed if none does. The first loader that knows it reads the file. In the default pass, and
for the empty profile, the reference has the text of the location as it is written, and for any other
profile `-` and the profile stand before the dot of the extension. -/
theorem references_named_file {t : Text} (htext : resourceLocation parent l = t)
    (hfile : Path.isDirectoryText t = false) (hplain : ∀ base word, ¬Hinted t base word)
    (hloaders : ∀ loader ∈ r.loaders, ∃ own, loader.extensions = .ok own
      ∧ ∀ e ∈ own, e ≠ [] ∧ ∀ c ∈ e, c < 0x80) :
    (∀ profile, r.references parent ⟨l, profile⟩ = .error (.unknownExtension (some l) t) ↔
        ¬r.Recognizes t)
      ∧ (r.Recognizes t → ∃ loader e stem written,
          Loader.FirstWith (EndsInExtension t) r.loaders loader e
            ∧ t = stem ++ Path.dot :: written ∧ SameLetters written e
            ∧ ∀ profile, ∃ refs x, r.references parent ⟨l, profile⟩ = .ok refs ∧ refs.items = [x]
              ∧ x.loader = loader ∧ x.location = l ∧ x.profile = profile
              ∧ (profile.getD [] = [] → x.resourceLocation = t)
              ∧ ∀ p, profile = some p → p ≠ [] →
                  x.resourceLocation = stem ++ Reference.profileMark :: p ++ Path.dot :: written) := by
  have hhint := splitHint?_eq_none_iff.mpr hplain
  have hnamed := namedFile_eq_self hhint
  obtain ⟨hanswer, hextensions⟩ := Loader.of_extensions hloaders
  have hends : ∀ loader ∈ r.loaders, ∀ own, loader.extensions = .ok own → ∀ e ∈ own,
      (Text.endsWith t.lower (Path.dot :: e.lower) = true ↔ EndsInExtension t e) :=
    fun loader hloader own hown e he =>
      Text.endsWith_lower_iff (hextensions loader hloader own hown e he).2
  have hreader : (∃ loader e, r.readerOf? t = .ok (some (loader, e))) ∨ r.readerOf? t = .ok none
      ∧ ∀ loader ∈ r.loaders, ∀ own, loader.extensions = .ok own → ∀ e ∈ own,
        Text.endsWith t.lower (Path.dot :: e.lower) = false :=
    Loader.findExtension?_cases hanswer
  rcases hreader with ⟨loader, e, hfound⟩ | ⟨hnone, hunknown⟩
  · have hfirst : Loader.FirstWith (EndsInExtension t) r.loaders loader e :=
      (Loader.firstWith_of_findExtension? hfound).congr hends
    obtain ⟨hloader, own, hown, he⟩ := hfirst.mem
    obtain ⟨stem, written, rfl, hsame⟩ := hfirst.holds
    have hlists := references_of_readerOf? htext hfile (hnamed.symm ▸ hfound)
    simp only [readReference_eq hnamed hsame.length_eq (hextensions loader hloader own hown e he).1,
      hhint] at hlists
    refine ⟨fun profile => ⟨fun herror => ?_, fun hnot => ?_⟩, fun _ => ?_⟩
    · obtain ⟨refs, hrefs, -⟩ := hlists profile
      cases hrefs.symm.trans herror
    · exact absurd ⟨loader, hloader, own, hown, e, he, hfirst.holds⟩ hnot
    · refine ⟨loader, e, stem, written, hfirst, rfl, hsame, fun profile => ?_⟩
      obtain ⟨refs, hrefs, hitems⟩ := hlists profile
      refine ⟨refs, _, hrefs, hitems, rfl, rfl, rfl, fun hdefault => ?_, ?_⟩
      · rw [Reference.resourceLocation_eq]
        simp [hdefault, profileSuffix, extensionEnding]
      · rintro p rfl hp
        rw [Reference.resourceLocation_eq]
        simp [hp, profileSuffix, extensionEnding]
  · have hnot : ¬r.Recognizes t := by
      rintro ⟨loader, hloader, own, hown, e, he, hextension⟩
      have htest := (hends loader hloader own hown e he).mpr hextension
      rw [hunknown loader hloader own hown e he] at htest
      cases htest
    refine ⟨fun profile => iff_of_true ?_ hnot, fun h => absurd h hnot⟩
    rw [references_of_unread htext hfile (hnamed.symm ▸ hnone), hnamed]

/-- Two loaders, the second one with two extensions. -/
def twoFormats : StandardResolver :=
  { sampleResolver with
    loaders := [⟨0, "json", .ok ["json"], fun _ _ _ => .ok []⟩,
      ⟨1, "yaml", .ok ["yaml", "yml"], fun _ _ _ => .ok []⟩] }

/-- The lower case of the text is longer than the text. -/
theorem references_named_file_capitals :
    twoFormats.Recognizes "config/\u0130.YML"
      ∧ (∃ refs x, twoFormats.references none ⟨⟨"config/\u0130.YML", false, none⟩, none⟩ = .ok refs
        ∧ refs.items = [x] ∧ x.resourceLocation = "config/\u0130.YML") := by
  have hloaders : ∀ loader ∈ twoFormats.loaders, ∃ own, loader.extensions = .ok own
      ∧ ∀ e ∈ own, e ≠ [] ∧ ∀ c ∈ e, c < 0x80 := by
    intro loader hloader
    simp only [twoFormats, List.mem_cons, List.not_mem_nil, or_false] at hloader
    rcases hloader with rfl | rfl
    · exact ⟨_, rfl, by decide⟩
    · exact ⟨_, rfl, by decide⟩
  have hknown : twoFormats.Recognizes "config/\u0130.YML" :=
    ⟨_, List.mem_cons_of_mem _ List.mem_cons_self, _, rfl, "yml", by decide, "config/\u0130", "YML",
      by decide, by unfold SameLetters; decide +kernel⟩
  obtain ⟨-, hlists⟩ := @references_named_file twoFormats none ⟨"config/\u0130.YML", false, none⟩
    "config/\u0130.YML" (by decide +kernel) (by decide)
    (splitHint?_eq_none_iff.mp (by decide +kernel)) hloaders
  obtain ⟨loader, e, stem, written, -, -, -, hreferences⟩ := hlists hknown
  obtain ⟨refs, x, hrefs, hitems, -, -, -, hdefault, -⟩ := hreferences none
  exact ⟨hknown, refs, x, hrefs, hitems, hdefault rfl⟩

end StandardResolver

end ConfigLocator

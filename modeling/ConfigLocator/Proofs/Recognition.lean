import ConfigLocator.Proofs.DocumentFaults
import ConfigLocator.Proofs.EntryGrammar
import ConfigLocator.Proofs.NamedFiles
import ConfigLocator.Proofs.Repeats

/-!
# Two ways to recognize a file

The settings are read from a file whose extension is what stands behind the last dot of its name, where
dots at the start of the name do not count. A resolver asks whether the whole text ends in a dot and an
extension. The two agree on each extension (`Path.lower_extension_eq_iff`), and so on the loader
(`Binder.readerOf?_eq`), unless the name is an extension and nothing else (`Path.OnlyExtension`): such a
file the resolver recognizes, and the settings cannot be read from it (`recognizers_agree`).
-/

namespace ConfigLocator

/-! ## The extension of a path -/

theorem Text.exists_afterLast {c : Nat} {t : Text} (h : c ∈ t) : ∃ s, t = s ++ c :: afterLast c t := by
  obtain ⟨behind, before, hsplit, hbehind⟩ := List.eq_append_cons_of_mem (List.mem_reverse.mpr h)
  obtain rfl : t = before.reverse ++ c :: behind.reverse := by
    rw [← List.reverse_reverse t, hsplit]
    simp
  have hlast : c ∉ behind.reverse := mt List.mem_reverse.mp hbehind
  exact ⟨before.reverse, by rw [afterLast_append hlast]⟩

namespace Path

variable {t directory dots rest : Text}

/-- The last segment has nothing but dots in front of its extension. -/
def OnlyExtension (t : Text) : Prop :=
  ∃ directory dots word, t = directory ++ (dots ++ dot :: word) ∧ directory.IsDirectoryPart ∧
    (∀ c ∈ dots, c = dot) ∧ dot ∉ word ∧ slash ∉ word

theorem afterLast_directory {name : Text} (h : directory.IsDirectoryPart) (hname : slash ∉ name) :
    Text.afterLast slash (directory ++ name) = name := by
  rcases h with rfl | ⟨s, rfl⟩
  · have hsplit := Text.throughLast_append_afterLast slash name
    rwa [Text.throughLast_of_not_mem hname] at hsplit
  · rw [List.append_assoc, List.singleton_append, Text.afterLast_append hname]

theorem slash_not_mem_dots (hdots : ∀ c ∈ dots, c = dot) : slash ∉ dots :=
  fun h => absurd (hdots slash h) (by decide)

/-- The dots in front of a name are no part of it. -/
theorem extension_eq (hdirectory : directory.IsDirectoryPart) (hdots : ∀ c ∈ dots, c = dot)
    (hslash : slash ∉ rest) (hrest : ∀ c ∈ rest.head?, c ≠ dot) :
    extension (directory ++ (dots ++ rest)) =
      if dot ∈ rest then Text.afterLast dot rest else [] := by
  have hname : slash ∉ dots ++ rest := by simp [slash_not_mem_dots hdots, hslash]
  have htrim : Text.trimStart (· == dot) (dots ++ rest) = rest :=
    Properties.trimStart_front (by simpa using hdots) (by simpa using hrest)
  simp only [extension, afterLast_directory hdirectory hname, htrim, List.contains_iff_mem]

/-- A path is a directory, and in it dots and a name that starts with none. -/
theorem exists_name (t : Text) :
    ∃ directory dots rest, t = directory ++ (dots ++ rest) ∧ directory.IsDirectoryPart ∧
      (∀ c ∈ dots, c = dot) ∧ slash ∉ rest ∧ ∀ c ∈ rest.head?, c ≠ dot := by
  obtain ⟨dots, rest, hname, hdots, hrest⟩ :=
    Properties.exists_front (· == dot) (Text.afterLast slash t)
  have hslash := Text.not_mem_afterLast slash t
  rw [hname, List.mem_append, not_or] at hslash
  refine ⟨Text.throughLast slash t, dots, rest, ?_, Text.isDirectoryPart_throughLast t,
    by simpa using hdots, hslash.2, by simpa using hrest⟩
  rw [← hname, Text.throughLast_append_afterLast]

theorem OnlyExtension.extension_eq_nil (h : OnlyExtension t) : extension t = [] := by
  obtain ⟨directory, dots, word, rfl, hdirectory, hdots, hdot, hslash⟩ := h
  have hall : ∀ c ∈ dots ++ [dot], c = dot := by simpa [or_imp, forall_and] using hdots
  have hword : ∀ c ∈ word.head?, c ≠ dot := fun c hc heq => hdot (heq ▸ List.mem_of_mem_head? hc)
  rw [List.append_cons, extension_eq hdirectory hall hslash hword, if_neg hdot]

/-- A path with an extension ends in it, behind a dot. -/
theorem exists_of_extension_ne_nil (h : extension t ≠ []) :
    ∃ stem, t = stem ++ dot :: extension t := by
  obtain ⟨directory, dots, rest, rfl, hdirectory, hdots, hslash, hrest⟩ := exists_name t
  rw [extension_eq hdirectory hdots hslash hrest] at h ⊢
  by_cases hdot : dot ∈ rest
  · obtain ⟨s, hs⟩ := Text.exists_afterLast hdot
    refine ⟨directory ++ (dots ++ s), ?_⟩
    rw [if_pos hdot]
    nth_rewrite 1 [hs]
    simp
  · rw [if_neg hdot] at h
    exact absurd rfl h

/-- What a path ends in behind a dot is its extension, unless the path is nothing else. -/
theorem extension_of_ending {stem written : Text} (hdot : dot ∉ written) (hslash : slash ∉ written)
    (h : ¬ OnlyExtension (stem ++ dot :: written)) :
    extension (stem ++ dot :: written) = written := by
  obtain ⟨directory, dots, rest, rfl, hdirectory, hdots, hsolid, hrest⟩ := exists_name stem
  cases rest with
  | nil =>
      -- Behind nothing but dots the ending would be all there is.
      exact absurd ⟨directory, dots, written, by simp, hdirectory, hdots, hdot, hslash⟩ h
  | cons c rest =>
      have hname : slash ∉ c :: rest ++ dot :: written := by
        simp only [List.mem_append, List.mem_cons, not_or] at hsolid ⊢
        exact ⟨hsolid, by decide, hslash⟩
      have hparts : directory ++ (dots ++ c :: rest) ++ dot :: written =
          directory ++ (dots ++ (c :: rest ++ dot :: written)) := by simp
      rw [hparts, extension_eq hdirectory hdots hname hrest, if_pos (by simp),
        Text.afterLast_append hdot]

end Path

/-! ## Letters of either case -/

theorem Text.lower_eq_lower_iff {s e : Text} (he : ∀ c ∈ e, c < 0x80) :
    s.lower = e.lower ↔ SameLetters s e := by
  rw [lower_ascii he]
  constructor
  · exact sameLetters_of_lowerAfter he
  · intro h
    rw [lower, lowerAfter_eq_flatMap (h.sigma_not_mem he), List.flatMap_def, h, ← List.flatMap_def]

/-- A small extension in ASCII, without a dot or a slash. -/
structure IsPlainExtension (e : Text) : Prop where
  ne_nil : e ≠ []
  ascii : ∀ c ∈ e, c < 0x80
  lower_eq : e.lower = e
  dot_not_mem : Path.dot ∉ e
  slash_not_mem : slash ∉ e

/-- A path has an extension in some letters if it ends in it, and not in it alone. -/
theorem Path.lower_extension_eq_iff {t e : Text} (he : IsPlainExtension e) :
    (extension t).lower = e ↔ EndsInExtension t e ∧ ¬ OnlyExtension t := by
  have hletters : (extension t).lower = e ↔ SameLetters (extension t) e := by
    rw [← Text.lower_eq_lower_iff he.ascii, he.lower_eq]
  rw [hletters]
  constructor
  · intro h
    have hne : extension t ≠ [] := by
      rw [← List.length_pos_iff, h.length_eq, List.length_pos_iff]
      exact he.ne_nil
    obtain ⟨stem, hstem⟩ := exists_of_extension_ne_nil hne
    exact ⟨⟨stem, _, hstem, h⟩, fun honly => hne honly.extension_eq_nil⟩
  · rintro ⟨⟨stem, written, rfl, hsame⟩, honly⟩
    have hdot : dot ∉ written := fun hmem => he.dot_not_mem (hsame.mem_of_mem (by decide) hmem)
    have hslash : slash ∉ written := fun hmem => he.slash_not_mem (hsame.mem_of_mem (by decide) hmem)
    rwa [extension_of_ending hdot hslash honly]

/-! ## The loader of a file -/

/-- Loaders whose extensions can be asked for and are plain ones. -/
def Loader.HavePlainExtensions (loaders : List Loader) : Prop :=
  ∀ loader ∈ loaders, ∃ own, loader.extensions = .ok own ∧ ∀ e ∈ own, IsPlainExtension e

theorem Loader.havePlainExtensions_defaultLoaders : HavePlainExtensions defaultLoaders := by
  intro loader hloader
  rcases List.mem_pair.mp hloader with rfl | rfl
  all_goals
    refine ⟨_, rfl, fun e he => ?_⟩
    rcases List.mem_pair.mp he with rfl | rfl
    all_goals exact ⟨by decide, by decide, by decide +kernel, by decide, by decide⟩

namespace Binder

/-- The loader that the settings are read with, and the extension that selects it. -/
def readerOf? (path : Text) (loaders : List Loader) : Except Fault (Option (Loader × Text)) :=
  Loader.findExtension? (· == (Path.extension path).lower) loaders

/-- Reads the settings with this loader. -/
def readWith (host : Host) (path : Text) (environment : Option (List (Text × Text)))
    (loader : Loader) : Except Fault Binder := do
  let handle := Handle.file path
  if !(← handle.exists? host) then throw (.resourceNotFound (handle.display host) none)
  let properties := mergeSources (← loader.load host path handle)
  return ⟨flatten [] (.map (properties.map fun (k, v) => (.text k, v))), environment⟩

theorem ofFile_eq (host : Host) (path : Text) (loaders : List Loader)
    (environment : Option (List (Text × Text))) :
    ofFile host path loaders environment =
      (readerOf? path loaders >>= fun
        | some (loader, _) => readWith host path environment loader
        | none => .error (.unknownExtension (Location.of? path none) path)) := by
  unfold ofFile readerOf? readWith
  refine bind_congr fun found => ?_
  cases found <;> rfl

variable {host : Host} {path e : Text} {loaders : List Loader} {loader : Loader}
  {environment : Option (List (Text × Text))}

theorem ofFile_of_readerOf? (h : readerOf? path loaders = .ok (some (loader, e))) :
    ofFile host path loaders environment = readWith host path environment loader := by
  rw [ofFile_eq, h]
  rfl

end Binder

section Readers

variable {r : StandardResolver} {t : Text} (hplain : Loader.HavePlainExtensions r.loaders)

include hplain

/-- The same extension selects the same loader. -/
theorem Binder.readerOf?_eq (h : ¬ Path.OnlyExtension t) :
    readerOf? t r.loaders = r.readerOf? t := by
  refine Loader.findExtension?_congr fun loader hloader own hown e he => ?_
  obtain ⟨own', hown', hall⟩ := hplain loader hloader
  obtain rfl := Except.ok.inj (hown.symm.trans hown')
  have hextension := Path.lower_extension_eq_iff (t := t) (hall e he)
  rw [Bool.eq_iff_iff, beq_iff_eq, Text.endsWith_lower_iff (hall e he).ascii, eq_comm, hextension]
  exact and_iff_left h

theorem Binder.readerOf?_of_onlyExtension (h : Path.OnlyExtension t) :
    readerOf? t r.loaders = .ok none := by
  obtain ⟨hanswer, hall⟩ := Loader.of_extensions hplain
  rw [readerOf?, h.extension_eq_nil]
  rcases Loader.findExtension?_cases hanswer with ⟨loader, e, hfound⟩ | ⟨hnone, -⟩
  · obtain ⟨htest, hloader, own, hown, he⟩ := Loader.mem_of_findExtension? hfound
    exact absurd (eq_of_beq htest) (hall loader hloader own hown e he).ne_nil
  · exact hnone

theorem StandardResolver.readerOf?_cases (t : Text) :
    (∃ loader ∈ r.loaders, ∃ e, r.readerOf? t = .ok (some (loader, e)) ∧ r.Recognizes t) ∨
      r.readerOf? t = .ok none ∧ ¬ r.Recognizes t := by
  obtain ⟨hanswer, hall⟩ := Loader.of_extensions hplain
  have hends : ∀ loader ∈ r.loaders, ∀ own, loader.extensions = .ok own → ∀ e ∈ own,
      (Text.endsWith t.lower (Path.dot :: e.lower) = true ↔ EndsInExtension t e) :=
    fun loader hloader own hown e he => Text.endsWith_lower_iff (hall loader hloader own hown e he).ascii
  rcases Loader.findExtension?_cases hanswer with ⟨loader, e, hfound⟩ | ⟨hnone, hunknown⟩
  · obtain ⟨htest, hloader, own, hown, he⟩ := Loader.mem_of_findExtension? hfound
    have hextension := (hends loader hloader own hown e he).mp htest
    exact Or.inl ⟨loader, hloader, e, hfound, loader, hloader, own, hown, e, he, hextension⟩
  · refine Or.inr ⟨hnone, ?_⟩
    rintro ⟨loader, hloader, own, hown, e, he, hextension⟩
    have htest := (hends loader hloader own hown e he).mpr hextension
    rw [hunknown loader hloader own hown e he] at htest
    cases htest

end Readers

/-! ## Unknown extensions -/

/-- A step fails as the extension of a file is not known. -/
def EndsUnknown {α : Type} (e : Except Fault α) : Prop :=
  ∃ l file, e = .error (.unknownExtension l file)

theorem FailsPlainly.not_endsUnknown {α : Type} {e : Except Fault α} (h : FailsPlainly e) :
    ¬ EndsUnknown e := by
  rintro ⟨l, file, hfault⟩
  cases h _ hfault

theorem Binder.endsUnknown_ofFile {host : Host} {path : Text} {loaders : List Loader}
    {environment : Option (List (Text × Text))} (h : readerOf? path loaders = .ok none) :
    EndsUnknown (ofFile host path loaders environment) := by
  rw [ofFile_eq, h]
  exact ⟨_, _, rfl⟩

/-- A target that is listed fails by another fault, if it fails. -/
theorem StandardResolver.not_endsUnknown_resolveTargets {r : StandardResolver} {host : Host}
    {parent : Option Reference} {target : Target} {refs : References}
    (hrefs : r.references parent target = .ok refs) :
    ¬ EndsUnknown (r.resolveTargets host parent [target]).outcome := by
  have hplain : ∀ {original : Fault}, original.isResolution = false →
      ∀ l file, .unknownExtension l file ≠ original.wrap target.location := by
    intro original horiginal l file hwrap
    have hraised := Fault.raisedFor_wrap (l := target.location) horiginal
    rw [← hwrap] at hraised
    cases hraised
    cases horiginal
  rintro ⟨l, file, hfault⟩
  obtain ⟨original, hfails, hwrap⟩ := exists_fails_of_resolveTargets hfault
  cases hfails with
  | listing h =>
      rw [references_eq, h] at hrefs
      cases hrefs
  | lookUp _ _ h =>
      rcases lookUp_eq_error h with horiginal | ⟨-, detail, rfl⟩
      · exact hplain horiginal l file hwrap
      · cases hwrap
  | standIns _ _ h =>
      rcases standIns_eq_error h with horiginal | ⟨-, detail, rfl⟩
      · exact hplain horiginal l file hwrap
      · cases hwrap

theorem Binder.not_endsUnknown_readWith {host : Host} (hyaml : host.ReadsYamlPlainly) (path : Text)
    (environment : Option (List (Text × Text))) {loader : Loader} (h : loader ∈ defaultLoaders) :
    ¬ EndsUnknown (readWith host path environment loader) := by
  rintro ⟨l, file, hfault⟩
  rcases bind_eq_error_iff.mp hfault with hexists | ⟨isThere, -, hfault⟩
  · cases Handle.isResolution_of_exists? hexists
  · cases isThere with
    | false => cases hfault
    | true =>
        rcases bind_eq_error_iff.mp hfault with hload | ⟨sources, -, hfault⟩
        · have hplain := Loader.readPlainly_defaultLoaders hyaml loader h path (.file path)
          exact hplain.not_endsUnknown ⟨l, file, hload⟩
        · cases hfault

/-! ## Both ways -/

/-- A text that is one mandatory location, of a file that is named as it stands. -/
structure IsFileText (t : Text) : Prop where
  not_blank : t.isBlankText = false
  single : ∀ c ∈ locationDelimiter, c ∉ t
  unhinted : hintMark ∉ t
  mandatory : Text.startsWith t optionalMark = false
  direct : Text.startsWith t resourceMark = false
  not_directory : Path.isDirectoryText t = false

namespace IsFileText

variable {t : Text} (h : IsFileText t)

include h

theorem location : Location.of? t none = some ⟨t, false, none⟩ := by
  rw [Location.of?, Text.dropLeading?_eq_none_iff.mpr h.mandatory]
  exact if_neg (by simp [h.not_blank])

theorem outcome_resolve (r : StandardResolver) (host : Host) :
    (r.resolve host none ⟨t, false, none⟩).outcome =
      (r.resolveTargets host none [⟨⟨t, false, none⟩, none⟩]).outcome := by
  rw [StandardResolver.resolve, Location.parts_of_of? h.location h.single]
  rfl

theorem resourceLocation : StandardResolver.resourceLocation none ⟨t, false, none⟩ = t := by
  have hlead : Location.withoutLead ⟨t, false, none⟩ resourceMark = t := by
    rw [Location.withoutLead, Text.dropLeading, Text.dropLeading?_eq_none_iff.mpr h.direct]
    rfl
  rw [StandardResolver.resourceLocation, hlead]
  split <;> rfl

theorem namedFile : StandardResolver.namedFile t = t := by
  refine StandardResolver.namedFile_eq_self ?_
  rw [← List.nil_append t]
  exact splitHint?_eq_none (Or.inl rfl) h.unhinted

variable {r : StandardResolver} {host : Host} {loader : Loader} {e : Text}

theorem exists_reference (hreader : r.readerOf? t = .ok (some (loader, e))) :
    ∃ refs x, r.references none ⟨⟨t, false, none⟩, none⟩ = .ok refs ∧ refs.items = [x] ∧
      x.loader = loader := by
  rw [← h.namedFile] at hreader
  obtain ⟨refs, hrefs, hitems⟩ :=
    StandardResolver.references_of_readerOf? h.resourceLocation h.not_directory hreader none
  exact ⟨refs, _, hrefs, hitems, rfl⟩

theorem endsUnknown_resolve (hreader : r.readerOf? t = .ok none) :
    EndsUnknown (r.resolve host none ⟨t, false, none⟩).outcome := by
  rw [← h.namedFile] at hreader
  have hrefs := StandardResolver.references_of_unread h.resourceLocation h.not_directory hreader none
  rw [h.outcome_resolve]
  exact ⟨_, _, StandardResolver.resolveTargets_of_error hrefs []⟩

theorem endsUnknown_resolve_iff (hplain : Loader.HavePlainExtensions r.loaders) :
    EndsUnknown (r.resolve host none ⟨t, false, none⟩).outcome ↔ ¬ r.Recognizes t := by
  rcases StandardResolver.readerOf?_cases hplain t with
    ⟨loader, -, e, hreader, hknown⟩ | ⟨hnone, hunknown⟩
  · obtain ⟨refs, x, hrefs, -⟩ := h.exists_reference hreader
    rw [h.outcome_resolve]
    exact iff_of_false (StandardResolver.not_endsUnknown_resolveTargets hrefs) (not_not.mpr hknown)
  · exact iff_of_true (h.endsUnknown_resolve hnone) hunknown

end IsFileText

theorem endsUnknown_ofFile_iff (r : StandardResolver) (hloaders : r.loaders = defaultLoaders)
    {host : Host} (hyaml : host.ReadsYamlPlainly) (environment : Option (List (Text × Text))) (t : Text) :
    EndsUnknown (Binder.ofFile host t defaultLoaders environment) ↔
      ¬ r.Recognizes t ∨ Path.OnlyExtension t := by
  have hplain : Loader.HavePlainExtensions r.loaders :=
    hloaders ▸ Loader.havePlainExtensions_defaultLoaders
  rw [← hloaders]
  by_cases honly : Path.OnlyExtension t
  · have hnone := Binder.readerOf?_of_onlyExtension hplain honly
    exact iff_of_true (Binder.endsUnknown_ofFile hnone) (Or.inr honly)
  · have hsame := Binder.readerOf?_eq hplain honly
    rcases StandardResolver.readerOf?_cases hplain t with
      ⟨loader, hloader, e, hreader, hknown⟩ | ⟨hnone, hunknown⟩
    · rw [Binder.ofFile_of_readerOf? (hsame.trans hreader)]
      refine iff_of_false (Binder.not_endsUnknown_readWith hyaml t environment (hloaders ▸ hloader)) ?_
      exact not_or.mpr ⟨not_not.mpr hknown, honly⟩
    · exact iff_of_true (Binder.endsUnknown_ofFile (hsame.trans hnone)) (Or.inl hunknown)

namespace StandardResolver

/-- The settings can be read from the files that the resolver recognizes, and with the same loader,
except from those that are named by an extension alone. -/
theorem recognizers_agree (r : StandardResolver) (hloaders : r.loaders = defaultLoaders) (host : Host)
    (hyaml : host.ReadsYamlPlainly) (environment : Option (List (Text × Text))) (t : Text)
    (h : IsFileText t) :
    Location.of? t none = some ⟨t, false, none⟩ ∧
      ((EndsUnknown (Binder.ofFile host t defaultLoaders environment) ↔
          EndsUnknown (r.resolve host none ⟨t, false, none⟩).outcome) ↔
        ¬ (r.Recognizes t ∧ Path.OnlyExtension t)) ∧
      (EndsUnknown (Binder.ofFile host t defaultLoaders environment) ↔
        ¬ r.Recognizes t ∨ Path.OnlyExtension t) ∧
      (EndsUnknown (r.resolve host none ⟨t, false, none⟩).outcome ↔ ¬ r.Recognizes t) ∧
      (r.Recognizes t → ∃ loader ∈ defaultLoaders,
        (∃ refs x, r.references none ⟨⟨t, false, none⟩, none⟩ = .ok refs ∧ refs.items = [x] ∧
          x.loader = loader ∧
          ∀ found, (r.resolve host none ⟨t, false, none⟩).outcome = .ok found →
            ∀ y ∈ found, y.reference = x) ∧
        (¬ Path.OnlyExtension t →
          Binder.ofFile host t defaultLoaders environment =
            Binder.readWith host t environment loader)) := by
  have hplain : Loader.HavePlainExtensions r.loaders :=
    hloaders ▸ Loader.havePlainExtensions_defaultLoaders
  have hsettings := endsUnknown_ofFile_iff r hloaders hyaml environment t
  have hresolve := @IsFileText.endsUnknown_resolve_iff t h r host hplain
  refine ⟨h.location, ?_, hsettings, hresolve, fun hknown => ?_⟩
  · rw [hsettings, hresolve]
    tauto
  · rcases readerOf?_cases hplain t with
      ⟨loader, hloader, e, hreader, -⟩ | ⟨-, hunknown⟩
    · obtain ⟨refs, x, hrefs, hitems, hreads⟩ := h.exists_reference hreader
      refine ⟨loader, hloaders ▸ hloader, ⟨refs, x, hrefs, hitems, hreads, ?_⟩, fun honly => ?_⟩
      · intro found hfound y hy
        rw [h.outcome_resolve, resolveTargets_singleton hrefs, hitems] at hfound
        exact List.mem_singleton.mp (reference_mem_of_resolveGroup hfound hy)
      · have hsame := Binder.readerOf?_eq hplain honly
        rw [← hloaders, Binder.ofFile_of_readerOf? (hsame.trans hreader)]
    · exact absurd hknown hunknown

/-- Scans for the default name and reads the default formats. -/
def defaultFormats : StandardResolver := ⟨defaultConfigNames, defaultLoaders, {}⟩

/-- A file that is named `.yml`. -/
theorem recognizers_agree_except_yml :
    IsFileText ".yml" ∧
      EndsUnknown (Binder.ofFile emptyHost ".yml" defaultLoaders none) ∧
      ¬ EndsUnknown (defaultFormats.resolve emptyHost none ⟨".yml", false, none⟩).outcome := by
  have hfile : IsFileText ".yml" :=
    ⟨by decide, by decide, by decide, by decide, by decide, by decide⟩
  have honly : Path.OnlyExtension ".yml" :=
    ⟨[], [], "yml", rfl, Or.inl rfl, by simp, by decide, by decide⟩
  have hknown : defaultFormats.Recognizes ".yml" :=
    ⟨yamlLoader 1, List.mem_cons_of_mem _ List.mem_cons_self, _, rfl, "yml", List.mem_cons_self, [],
      "yml", rfl, rfl⟩
  obtain ⟨-, -, hsettings, hresolve, -⟩ :=
    recognizers_agree defaultFormats rfl emptyHost (Host.readsYamlPlainly_of_eq rfl) none ".yml" hfile
  exact ⟨hfile, hsettings.mpr (Or.inr honly), fun hfault => hresolve.mp hfault hknown⟩

end StandardResolver

end ConfigLocator

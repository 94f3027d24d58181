import ConfigLocator.Proofs.FileNames
import ConfigLocator.Proofs.OptionalMark

/-!
# Optional locations beyond the store

A location whose scheme the store cannot read has references with that scheme, and an optional one of
them is passed over without asking the store. What remains is the listing, which looks for the
extension of a named file, and asks every loader for its extensions, before anyone looks at the
scheme (`StandardResolver.listingFault?`). So an optional location beyond the store comes to nothing
exactly when it can be listed: `StandardResolver.resolvePass_beyond_store`.

A reference leaves the scheme of its location behind only by a line feed, which ends a scheme, or by
an extension that takes more off the name than its own letters (`Loader.PlainExtension`).
-/

namespace ConfigLocator

/-! ## Texts with a scheme -/

/-- A line feed stands at the very end of a text with a scheme. -/
theorem eq_nil_of_hasScheme {before behind : Text}
    (h : hasScheme (before ++ lineFeed :: behind) = true) : behind = [] := by
  cases before with
  | nil =>
      have hletter : Text.isAsciiLetter lineFeed = false := by decide
      rw [List.nil_append, hasScheme_cons, hletter] at h
      cases h
  | cons first rest =>
      have hpart : isSchemePart lineFeed = false := by decide
      rw [List.cons_append, hasScheme_cons, Bool.and_eq_true, List.dropWhile_append,
        List.dropWhile_cons_of_neg (by simp [hpart])] at h
      cases hrest : rest.dropWhile isSchemePart with
      | nil =>
          rw [hrest] at h
          have hcolon : lineFeed = colon := by
            have hends : endsScheme (lineFeed :: behind) = true := h.2
            rw [endsScheme, Bool.and_eq_true] at hends
            exact eq_of_beq hends.1
          exact absurd hcolon (by decide)
      | cons c body =>
          rw [hrest] at h
          have hshort : ((body ++ lineFeed :: behind).dropWhile (· != lineFeed)).length ≤ 1 :=
            of_decide_eq_true (Bool.and_eq_true_iff.mp h.2).2
          rw [List.dropWhile_append, List.dropWhile_cons_of_neg (by simp)] at hshort
          have hbehind : behind.length = 0 := by
            split at hshort
            · simpa using hshort
            · simp only [List.length_append, List.length_cons] at hshort
              omega
          exact List.length_eq_zero_iff.mp hbehind

/-- What begins with the scheme of a text beyond the store lies beyond the store, up to a line
feed. -/
theorem exists_of_not_isSupported {t : Text} (h : isSupported t = false) :
    ∃ scheme body, IsScheme scheme ∧ t = scheme ++ colon :: body
      ∧ (∀ more, lineFeed ∉ more → isSupported (scheme ++ colon :: more) = false)
      ∧ ∀ before behind, t = before ++ lineFeed :: behind → behind = [] := by
  have hscheme : hasScheme t = true := by
    cases hscheme : hasScheme t with
    | true => rfl
    | false => simp [isSupported, hscheme] at h
  obtain ⟨scheme, body, hs, rfl⟩ := exists_of_hasScheme hscheme
  refine ⟨scheme, body, hs, rfl, fun more hmore => ?_, fun before behind ht => ?_⟩
  · cases hsupported : isSupported (scheme ++ colon :: more) with
    | false => rfl
    | true =>
        have hself : isSupported (scheme ++ colon :: body) = true := hs.isSupported_of hmore hsupported
        rw [h] at hself
        cases hself
  · rw [ht] at hscheme
    exact eq_nil_of_hasScheme hscheme

/-- Whatever stands behind the text on one line lies beyond the store. -/
def StaysBeyond (t : Text) : Prop := ∀ more, lineFeed ∉ more → isSupported (t ++ more) = false

theorem staysBeyond_of_directory {t : Text} (h : isSupported t = false)
    (hdirectory : Path.isDirectoryText t = true) : StaysBeyond t := by
  obtain ⟨scheme, body, -, rfl, hbeyond, hend⟩ := exists_of_not_isSupported h
  intro more hmore
  rw [List.append_assoc, List.cons_append]
  refine hbeyond _ fun hmem => ?_
  rcases List.mem_append.mp hmem with hbody | hmem
  · obtain ⟨before, behind, rfl⟩ := List.append_of_mem hbody
    obtain rfl := hend (scheme ++ colon :: before) behind (by simp)
    rw [Path.isDirectoryText_iff] at hdirectory
    obtain ⟨start, hstart⟩ := hdirectory
    have hlast := congrArg List.getLast? hstart
    simp [List.getLast?_append, List.getLast?_cons] at hlast
    exact absurd hlast (by decide)
  · exact hmore hmem

/-! ## Plain names -/

/-- An extension in ASCII, on one line. -/
structure Loader.PlainExtension (e : Text) : Prop where
  ne_nil : e ≠ []
  ascii : ∀ c ∈ e, c < 0x80
  one_line : lineFeed ∉ e

namespace StandardResolver

/-- Names, extensions and profiles that do not end a scheme. -/
structure Plain (r : StandardResolver) (profiles : Option (List Text)) : Prop where
  names : ∀ name ∈ r.names, lineFeed ∉ name
  extensions : ∀ loader ∈ r.loaders, ∀ own, loader.extensions = .ok own →
    ∀ e ∈ own, Loader.PlainExtension e
  profiles : ∀ own, profiles = some own → ∀ profile ∈ own, lineFeed ∉ profile

/-! ## What can be listed -/

/-- The file that a text names: the extension of a hint belongs to it. -/
def namedFile (text : Text) : Text :=
  match splitHint? text with
  | some (base, extension) => base ++ extension
  | none => text

/-- The first loader that knows the extension of a file, with that extension. -/
def readerOf? (r : StandardResolver) (file : Text) : Except Fault (Option (Loader × Text)) :=
  Loader.findExtension? (fun e => Text.endsWith file.lower (Path.dot :: e.lower)) r.loaders

/-- The reference of a file that a loader reads for one of its extensions. -/
def readReference (l : Location) (text : Text) (profile : Option Text) (loader : Loader) (e : Text) :
    Reference :=
  let file := namedFile text
  let written := lastPart e.length file
  ⟨l, none, file.take (file.length - (written.length + 1)), profile,
    if (splitHint? text).isSome then none else some written, loader⟩

/-- Why a location with a text cannot be listed, none if it can. -/
def listingFault? (r : StandardResolver) (l : Location) (text : Text) : Option Fault :=
  if Path.isDirectoryText text then
    if r.names = [] then none
    else
      match Loader.candidates r.loaders with
      | .ok _ => none
      | .error fault => some fault
  else
    match r.readerOf? (namedFile text) with
    | .ok (some _) => none
    | .ok none => some (.unknownExtension (some l) (namedFile text))
    | .error fault => some fault

variable {r : StandardResolver} {host : Host} {parent : Option Reference} {l : Location}

theorem fileReference_eq (r : StandardResolver) (l : Location) (text : Text)
    (profile : Option Text) :
    r.fileReference l text profile = (r.readerOf? (namedFile text) >>= fun
      | some (loader, e) => .ok (readReference l text profile loader e)
      | none => .error (.unknownExtension (some l) (namedFile text))) := by
  unfold fileReference readReference namedFile readerOf?
  cases splitHint? text <;> rfl

/-- The text of a file is cut at the dot of its extension. -/
theorem readReference_eq {text stem written e : Text}
    (hnamed : namedFile text = stem ++ Path.dot :: written) (hlength : written.length = e.length)
    (hne : e ≠ []) (profile : Option Text) (loader : Loader) :
    readReference l text profile loader e =
      ⟨l, none, stem, profile, if (splitHint? text).isSome then none else some written, loader⟩ := by
  have hwritten : written ≠ [] := by
    rw [← List.length_pos_iff, hlength, List.length_pos_iff]
    exact hne
  obtain ⟨hlast, hroot⟩ := parts_at_dot stem hwritten
  simp only [readReference, hnamed, ← hlength, hlast, hroot]

/-- The references of a target can be listed, unless the listing has its fault. -/
theorem listing_cases (r : StandardResolver) (parent : Option Reference) (t : Target) :
    match r.listingFault? t.location (resourceLocation parent t.location) with
    | none => ∃ refs, r.references parent t = .ok refs
    | some fault => r.references parent t = .error (fault.wrap t.location) := by
  rw [references_eq]
  unfold listingFault? listing
  by_cases hdirectory : Path.isDirectoryText (resourceLocation parent t.location) = true
  · rw [if_pos hdirectory, if_pos hdirectory]
    by_cases hnames : r.names = []
    · rw [if_pos hnames, directoryReferences_nil hnames]
      exact ⟨_, rfl⟩
    · rw [if_neg hnames]
      cases hpairs : Loader.candidates r.loaders with
      | ok pairs =>
          obtain ⟨refs, hrefs⟩ : ∃ refs, r.directoryReferences t.location
              (resourceLocation parent t.location) t.profile = .ok refs := by
            obtain ⟨refs, hrefs, -⟩ := directoryReferences_eq hpairs
            exact ⟨refs, hrefs⟩
          exact ⟨refs, by rw [hrefs]; rfl⟩
      | error fault => rw [directoryReferences_error hpairs hnames]; rfl
  · rw [if_neg hdirectory, if_neg hdirectory, fileReference_eq]
    cases r.readerOf? (namedFile (resourceLocation parent t.location)) with
    | error fault => rfl
    | ok found =>
        cases found with
        | none => rfl
        | some pair => exact ⟨_, rfl⟩

/-! ## References beyond the store -/

/-- What a reference is called behind its root. -/
theorem exists_resourceLocation (x : Reference) :
    ∃ more, x.resourceLocation = x.root ++ more
      ∧ ∀ c ∈ more, c = Reference.profileMark ∨ (∃ profile, x.profile = some profile ∧ c ∈ profile)
        ∨ c = Path.dot ∨ ∃ e, x.extension = some e ∧ c ∈ e := by
  obtain ⟨location, directory, root, profile, extension, loader⟩ := x
  refine ⟨_, List.append_assoc .., fun c hc => ?_⟩
  rcases List.mem_append.mp hc with hc | hc
  · rcases profile with _ | _ | ⟨first, rest⟩
    · cases hc
    · cases hc
    · rcases List.mem_cons.mp hc with rfl | hc
      · exact Or.inl rfl
      · exact Or.inr (Or.inl ⟨_, rfl, hc⟩)
  · cases extension with
    | none => cases hc
    | some e =>
        rcases List.mem_cons.mp hc with rfl | hc
        · exact Or.inr (Or.inr (Or.inl rfl))
        · exact Or.inr (Or.inr (Or.inr ⟨e, rfl, hc⟩))

/-- Before a dot of the file that it names, a text beyond the store has its scheme. -/
theorem staysBeyond_of_namedFile {text stem written : Text} (hbeyond : isSupported text = false)
    (hfile : namedFile text = stem ++ Path.dot :: written) : StaysBeyond stem := by
  obtain ⟨scheme, body, hscheme, htext, hmore, hend⟩ := exists_of_not_isSupported hbeyond
  have hhead : scheme ++ [colon] <+: text := ⟨body, by simp [htext]⟩
  have hdot : Path.dot ∉ scheme ++ [colon] := by
    rw [List.mem_append, List.mem_singleton, not_or]
    exact ⟨hscheme.dot_not_mem, by decide⟩
  have hfound : scheme ++ [colon] <+: namedFile text ∧ lineFeed ∉ stem := by
    cases hhint : splitHint? text with
    | none =>
        have hsame : namedFile text = text := by rw [namedFile, hhint]
        rw [hsame] at hfile ⊢
        refine ⟨hhead, fun hmem => ?_⟩
        obtain ⟨before, behind, hstem⟩ := List.append_of_mem hmem
        have hnil := hend before (behind ++ Path.dot :: written) (by rw [hfile, hstem]; simp)
        simp at hnil
    | some hint =>
        obtain ⟨base, extension⟩ := hint
        have hparts : namedFile text = base ++ extension := by rw [namedFile, hhint]
        rw [hparts] at hfile ⊢
        obtain ⟨hbase, hline, -⟩ := splitHint?_eq_some hhint
        refine ⟨?_, fun hmem => hline (hfile ▸ List.mem_append_left _ hmem)⟩
        have hmark : hintMark ∉ scheme ++ [colon] := by
          rw [List.mem_append, List.mem_singleton, not_or]
          exact ⟨hscheme.not_mem (by decide), by decide⟩
        rcases List.prefix_or_prefix_of_prefix hhead hbase with hshort | hlong
        · exact (Text.prefix_of_prefix_append_cons hshort hmark).trans
            (List.prefix_append base extension)
        · exact absurd (hlong.subset (by simp)) hmark
  obtain ⟨hfound, hline⟩ := hfound
  rw [hfile] at hfound
  obtain ⟨rest, rfl⟩ := Text.prefix_of_prefix_append_cons hfound hdot
  intro more hmem
  have hrest : lineFeed ∉ rest ++ more := by
    rw [List.mem_append, not_or]
    exact ⟨fun h => hline (List.mem_append_right _ h), hmem⟩
  simpa using hmore _ hrest

/-- What a candidate of a directory beyond the store is named by lies beyond it. -/
theorem staysBeyond_of_mem_directoryReferences {profiles : Option (List Text)}
    (hplain : r.Plain profiles) {text : Text} {profile : Option Text}
    (hbeyond : isSupported text = false) (hdirectory : Path.isDirectoryText text = true)
    {refs : References} (hlist : r.directoryReferences l text profile = .ok refs) {x : Reference}
    (hx : x ∈ refs.items) :
    StaysBeyond x.root ∧ ∀ e, x.extension = some e → lineFeed ∉ e := by
  obtain ⟨name, hname, pairs, hpairs, ⟨loader, e⟩, hpair, rfl⟩ := mem_directoryReferences hlist hx
  refine ⟨fun more hmore => ?_, fun extension hextension => ?_⟩
  · show isSupported (_ ++ name ++ more) = false
    rw [List.append_assoc]
    refine staysBeyond_of_directory hbeyond hdirectory _ fun hmem => ?_
    rcases List.mem_append.mp hmem with hmem | hmem
    · exact hplain.names name hname hmem
    · exact hmore hmem
  · obtain rfl : e = extension := Option.some.inj hextension
    obtain ⟨hloader, own, hown, he⟩ := Loader.mem_of_candidates hpairs hpair
    exact (hplain.extensions loader hloader own hown e he).one_line

/-- The root of a named file is what stands before its extension and the dot, if the extensions of the
loaders are in ASCII. -/
theorem exists_root_of_fileReference
    (hextensions : ∀ loader ∈ r.loaders, ∀ own, loader.extensions = .ok own →
      ∀ e ∈ own, e ≠ [] ∧ ∀ c ∈ e, c < 0x80) {text : Text} {profile : Option Text} {x : Reference}
    (hfile : r.fileReference l text profile = .ok x) :
    ∃ loader ∈ r.loaders, ∃ own, loader.extensions = .ok own ∧ ∃ e ∈ own, ∃ written,
      namedFile text = x.root ++ Path.dot :: written
        ∧ (∀ d < 0x41, d ∈ written → d ∈ e) ∧ ∀ extension ∈ x.extension, extension = written := by
  rw [fileReference_eq] at hfile
  obtain ⟨found, hfound, hfile⟩ := bind_eq_ok_iff.mp hfile
  rcases found with _ | ⟨loader, e⟩
  · cases hfile
  · obtain ⟨htest, hloader, own, hown, he⟩ := Loader.mem_of_findExtension? hfound
    obtain ⟨hnil, hascii⟩ := hextensions loader hloader own hown e he
    obtain ⟨stem, written, hparts, hsame⟩ := (Text.endsWith_lower_iff hascii).mp htest
    obtain rfl := Except.ok.inj hfile
    rw [readReference_eq hparts hsame.length_eq hnil]
    refine ⟨loader, hloader, own, hown, e, he, written, hparts, fun d hd => hsame.mem_of_mem hd,
      fun extension hextension => ?_⟩
    dsimp only at hextension
    split at hextension
    · cases hextension
    · exact (Option.some.inj hextension).symm

/-- What a file beyond the store is named by lies beyond it: its extension is cut off behind the
scheme. -/
theorem staysBeyond_of_fileReference {profiles : Option (List Text)} (hplain : r.Plain profiles)
    {text : Text} {profile : Option Text} (hbeyond : isSupported text = false) {x : Reference}
    (hfile : r.fileReference l text profile = .ok x) :
    StaysBeyond x.root ∧ ∀ e, x.extension = some e → lineFeed ∉ e := by
  obtain ⟨loader, hloader, own, hown, e, he, written, hparts, hwritten, hextension⟩ :=
    exists_root_of_fileReference (fun loader hloader own hown e he =>
      have hplain := hplain.extensions loader hloader own hown e he
      ⟨hplain.ne_nil, hplain.ascii⟩) hfile
  refine ⟨staysBeyond_of_namedFile hbeyond hparts, fun extension hsome hmem => ?_⟩
  rw [hextension extension hsome] at hmem
  exact (hplain.extensions loader hloader own hown e he).one_line (hwritten lineFeed (by decide) hmem)

/-- With plain names, extensions and profiles the references of a location beyond the store lie
beyond it. -/
theorem not_isSupported_of_mem_references {profiles : Option (List Text)}
    (hplain : r.Plain profiles) {t : Target}
    (hprofile : ∀ profile, t.profile = some profile → lineFeed ∉ profile)
    (hbeyond : isSupported (resourceLocation parent t.location) = false) {refs : References}
    (hrefs : r.references parent t = .ok refs) {x : Reference} (hx : x ∈ refs.items) :
    isSupported x.resourceLocation = false := by
  have hnamed : StaysBeyond x.root ∧ ∀ e, x.extension = some e → lineFeed ∉ e := by
    rcases references_eq_ok hrefs with ⟨hdirectory, hlist⟩ | ⟨-, y, hfile, hitems⟩
    · exact staysBeyond_of_mem_directoryReferences hplain hbeyond hdirectory hlist hx
    · obtain rfl : x = y := by simpa [hitems] using hx
      exact staysBeyond_of_fileReference hplain hbeyond hfile
  have hx' : ∀ profile, x.profile = some profile → lineFeed ∉ profile := by
    rw [(mem_references hrefs hx).2]
    exact hprofile
  obtain ⟨more, htext, hmore⟩ := exists_resourceLocation x
  rw [htext]
  refine hnamed.1 more fun hmem => ?_
  rcases hmore lineFeed hmem with hmark | ⟨profile, hown, hmem⟩ | hdot | ⟨e, he, hmem⟩
  · exact absurd hmark (by decide)
  · exact hx' profile hown hmem
  · exact absurd hdot (by decide)
  · exact hnamed.2 e he hmem

/-! ## Nothing is found -/

theorem placeholders_beyond {x : Reference}
    (hbeyond : ∀ directory, x.directory = some directory → isSupported directory = false) :
    r.placeholders host x = .ok [] := by
  unfold placeholders
  cases hdirectory : x.directory with
  | none => rfl
  | some directory => simp [hbeyond directory hdirectory, wrapFaults]

/-- Without placeholders a group comes to nothing when each of its references does. -/
theorem resolveGroup_eq_nil_iff {group : List Reference}
    (hnone : ∀ x ∈ group, r.placeholders host x = .ok []) :
    r.resolveGroup host group = .ok [] ↔ ∀ x ∈ group, (r.probe host x).outcome = .ok [] := by
  rw [← Probe.collect_eq_nil_iff]
  constructor
  · intro h
    rcases resolveGroup_eq_ok h with ⟨-, hne⟩ | ⟨hcollect, -⟩
    · exact absurd rfl hne
    · exact hcollect
  · intro hcollect
    have hplaceholders : r.groupPlaceholders host group = .ok (.ofList []) := by
      obtain ⟨lists, hlists, hnil⟩ :=
        (exists_flatten_eq_nil_iff (R := fun x list => r.placeholders host x = .ok list)).mpr hnone
      exact groupPlaceholders_eq_ok_iff.mpr ⟨lists, hlists, by rw [← hnil]⟩
    rw [resolveGroup, hcollect]
    show (r.groupPlaceholders host group >>= fun empty => pure empty.items) = _
    rw [hplaceholders]
    rfl

end StandardResolver

theorem Location.profile_of_mem_targets {l : Location} {profiles : Option (List Text)} {t : Target}
    (h : t ∈ l.targets profiles) {profile : Text} (hprofile : t.profile = some profile) :
    ∃ own, profiles = some own ∧ profile ∈ own := by
  cases profiles with
  | none =>
      obtain ⟨part, -, rfl⟩ := List.mem_map.mp h
      cases hprofile
  | some own =>
      obtain ⟨mine, hmine, h⟩ := List.mem_flatMap.mp h
      obtain ⟨part, -, rfl⟩ := List.mem_map.mp h
      obtain rfl := Option.some.inj hprofile
      exact ⟨own, rfl, hmine⟩

theorem Resource.eq_nil_of_withoutRepeats {host : Host} {xs : List Resource}
    (h : withoutRepeats host [] xs = []) : xs = [] := by
  cases xs with
  | nil => rfl
  | cons x rest =>
      rw [withoutRepeats] at h
      split at h
      · cases h
      · rw [if_neg (List.not_mem_nil)] at h
        cases h

namespace StandardResolver

variable {r : StandardResolver} {host : Host} {parent : Option Reference} {l : Location}

/-- Targets come to nothing when each of them does. -/
theorem resolveTargets_eq_nil_iff {origin : Option Text} {targets : List Target}
    (htargets : ∀ t ∈ targets, t.location.origin = origin) :
    (r.resolveTargets host parent targets).outcome = .ok [] ↔
      ∀ t ∈ targets, (r.resolveTargets host parent [t]).outcome = .ok [] := by
  have hfirst : (r.resolveTargets host parent targets).outcome = .ok [] ↔
      ∀ t ∈ OrderedSet.firstOccurrences Target.same [] targets,
        (r.resolveTargets host parent [t]).outcome = .ok [] := by
    refine Iff.trans (resolveTargets_eq_ok_iff htargets) (Iff.trans ?_
      (exists_flatten_eq_nil_iff
        (R := fun t part => (r.resolveTargets host parent [t]).outcome = .ok part)))
    constructor
    · rintro ⟨parts, hparts, hnil⟩
      exact ⟨parts, hparts, (Resource.eq_nil_of_withoutRepeats hnil.symm).symm⟩
    · rintro ⟨parts, hparts, hnil⟩
      exact ⟨parts, hparts, by rw [← hnil]; rfl⟩
  rw [hfirst]
  refine ⟨fun h t ht => ?_, fun h t ht => h t (OrderedSet.mem_of_mem_firstOccurrences ht)⟩
  obtain ⟨u, hu, hsame⟩ := OrderedSet.exists_mem_firstOccurrences Target.same_refl
    Target.same_trans ht
  have horigin : u.location.origin = t.location.origin :=
    (htargets u (OrderedSet.mem_of_mem_firstOccurrences hu)).trans (htargets t ht).symm
  exact Target.eq_of_same horigin hsame ▸ h u hu

theorem targets_of_parts (h : l.parts = [l]) (profiles : Option (List Text)) :
    (∀ t ∈ l.targets profiles, t.location = l)
      ∧ (l.targets profiles = [] ↔ profiles = some []) := by
  refine ⟨fun t ht => ?_, ?_⟩
  · have hmem := (Location.mem_targets ht).1
    rw [h] at hmem
    exact List.mem_singleton.mp hmem
  · rcases profiles with _ | _ | ⟨first, rest⟩ <;> simp [Location.targets, h]

/-- A target beyond the store that can be listed comes to nothing if none of its references leads
back to something in the store. -/
theorem resolveTarget_beyond_iff {t : Target} (hoptional : t.location.isOptional = true)
    (hbeyond : isSupported (resourceLocation parent t.location) = false) {refs : References}
    (hrefs : r.references parent t = .ok refs) :
    (r.resolveTargets host parent [t]).outcome = .ok [] ↔
      ∀ x ∈ refs.items, isSupported x.resourceLocation = true → (r.probe host x).outcome = .ok [] := by
  have hnone : ∀ x ∈ refs.items, r.placeholders host x = .ok [] := fun x hx => by
    refine placeholders_beyond fun directory hdirectory => ?_
    rcases references_eq_ok hrefs with ⟨-, hlist⟩ | ⟨-, y, hfile, hitems⟩
    · obtain ⟨name, -, pairs, -, pair, -, rfl⟩ := mem_directoryReferences hlist hx
      obtain rfl := Option.some.inj hdirectory
      exact hbeyond
    · obtain rfl : x = y := by simpa [hitems] using hx
      rw [(fileReference_eq_ok hfile).2.1] at hdirectory
      cases hdirectory
  rw [resolveTargets_singleton hrefs, resolveGroup_eq_nil_iff hnone]
  refine ⟨fun h x hx _ => h x hx, fun h x hx => ?_⟩
  cases hsupported : isSupported x.resourceLocation with
  | true => exact h x hx hsupported
  | false =>
      have hlocation := (mem_references hrefs hx).1
      exact probe_beyond (hlocation ▸ hoptional) hsupported

section Pass

variable (hsingle : l.parts = [l]) {profiles : Option (List Text)}

include hsingle

/-- A location that cannot be listed is refused, if there is a target at all. -/
theorem resolvePass_of_listingFault (hprofiles : profiles ≠ some []) {fault : Fault}
    (hfault : r.listingFault? l (resourceLocation parent l) = some fault) :
    (r.resolvePass host parent l profiles).outcome = .error (fault.wrap l) := by
  obtain ⟨hlocation, hnil⟩ := targets_of_parts hsingle profiles
  obtain ⟨t, rest, hlist⟩ := List.exists_cons_of_ne_nil (mt hnil.mp hprofiles)
  have ht : t.location = l := hlocation t (by rw [hlist]; exact List.mem_cons_self)
  have hcases := listing_cases r parent t
  rw [ht, hfault] at hcases
  rw [resolvePass_eq, hlist]
  exact resolveTargets_of_error hcases rest

/-- A location beyond the store that can be listed comes to nothing if no reference of it leads
back to something in the store. -/
theorem resolvePass_eq_nil_iff (hoptional : l.isOptional = true)
    (hbeyond : isSupported (resourceLocation parent l) = false)
    (hlisted : r.listingFault? l (resourceLocation parent l) = none ∨ profiles = some []) :
    (r.resolvePass host parent l profiles).outcome = .ok [] ↔
      ∀ t ∈ l.targets profiles, ∀ refs, r.references parent t = .ok refs →
        ∀ x ∈ refs.items, isSupported x.resourceLocation = true →
          (r.probe host x).outcome = .ok [] := by
  obtain ⟨hlocation, hnil⟩ := targets_of_parts hsingle profiles
  have horigin : ∀ t ∈ l.targets profiles, t.location.origin = l.origin :=
    fun t ht => congrArg Location.origin (hlocation t ht)
  rw [resolvePass_eq, resolveTargets_eq_nil_iff horigin]
  refine forall₂_congr fun t ht => ?_
  have hl := hlocation t ht
  obtain ⟨refs, hrefs⟩ : ∃ refs, r.references parent t = .ok refs := by
    have hnone : r.listingFault? l (resourceLocation parent l) = none :=
      hlisted.resolve_right fun hprofiles => by
        rw [hnil.mpr hprofiles] at ht
        cases ht
    have hcases := listing_cases r parent t
    rw [hl, hnone] at hcases
    exact hcases
  rw [resolveTarget_beyond_iff (hl ▸ hoptional) (hl ▸ hbeyond) hrefs]
  refine ⟨fun h refs' hrefs' => ?_, fun h => h refs hrefs⟩
  obtain rfl : refs = refs' := Except.ok.inj (hrefs.symm.trans hrefs')
  exact h

end Pass

/-- An optional location beyond the store comes to nothing, unless it cannot be listed; and, if
names, extensions or profiles take a reference back into the store, unless something is there. -/
theorem resolvePass_beyond_store (r : StandardResolver) (host : Host) (parent : Option Reference)
    {l : Location} (hoptional : l.isOptional = true) (hsingle : l.parts = [l])
    (hbeyond : isSupported (resourceLocation parent l) = false) (profiles : Option (List Text)) :
    let fault? := r.listingFault? l (resourceLocation parent l)
    let outcome := (r.resolvePass host parent l profiles).outcome
    (profiles ≠ some [] → ∀ fault, fault? = some fault → outcome = .error (fault.wrap l))
      ∧ (fault? = none ∨ profiles = some [] → (outcome = .ok [] ↔
          ∀ t ∈ l.targets profiles, ∀ refs, r.references parent t = .ok refs →
            ∀ x ∈ refs.items, isSupported x.resourceLocation = true →
              (r.probe host x).outcome = .ok []))
      ∧ (r.Plain profiles → (outcome = .ok [] ↔ fault? = none ∨ profiles = some [])) := by
  intro fault? outcome
  have hfault : profiles ≠ some [] → ∀ fault, fault? = some fault →
      outcome = .error (fault.wrap l) :=
    fun hprofiles fault h => resolvePass_of_listingFault hsingle hprofiles h
  refine ⟨hfault, fun h => resolvePass_eq_nil_iff hsingle hoptional hbeyond h,
    fun hplain => ⟨fun h => ?_, fun h => (resolvePass_eq_nil_iff hsingle hoptional hbeyond h).mpr ?_⟩⟩
  · by_cases hprofiles : profiles = some []
    · exact Or.inr hprofiles
    · refine Or.inl ?_
      cases hfound : fault? with
      | none => rfl
      | some fault =>
          rw [hfault hprofiles fault hfound] at h
          cases h
  · intro t ht refs hrefs x hx hsupported
    have hl := (targets_of_parts hsingle profiles).1 t ht
    have hprofile : ∀ profile, t.profile = some profile → lineFeed ∉ profile := by
      intro profile hprofile
      obtain ⟨own, hown, hmem⟩ := Location.profile_of_mem_targets ht hprofile
      exact hplain.profiles own hown profile hmem
    have hx := not_isSupported_of_mem_references hplain hprofile (hl ▸ hbeyond) hrefs hx
    rw [hx] at hsupported
    cases hsupported

theorem plain_sampleResolver : sampleResolver.Plain none where
  names := by decide
  extensions := by
    intro loader hloader own hown e he
    obtain rfl := List.mem_singleton.mp hloader
    obtain rfl := Except.ok.inj hown
    obtain rfl := List.mem_singleton.mp he
    exact ⟨by decide, by decide, by decide⟩
  profiles := by
    intro own hown
    cases hown

/-- A file without a known extension fails, one with a known extension is passed over. -/
theorem resolvePass_beyond_store_http :
    (sampleResolver.resolvePass emptyHost none ⟨"http://host/app", true, none⟩ none).outcome =
        .error (.unknownExtension (some ⟨"http://host/app", true, none⟩) "http://host/app")
      ∧ (sampleResolver.resolvePass emptyHost none ⟨"http://host/app.yml", true, none⟩ none).outcome =
        .ok [] := by
  have hfile := resolvePass_beyond_store (l := ⟨"http://host/app", true, none⟩) sampleResolver
    emptyHost none rfl (by rfl) (by decide) none
  have hknown := resolvePass_beyond_store (l := ⟨"http://host/app.yml", true, none⟩) sampleResolver
    emptyHost none rfl (by rfl) (by decide) none
  refine ⟨hfile.1 (by simp) (.unknownExtension _ _) ?_,
    (hknown.2.2 plain_sampleResolver).mpr (Or.inl ?_)⟩
  · rfl
  · rfl

end StandardResolver

end ConfigLocator

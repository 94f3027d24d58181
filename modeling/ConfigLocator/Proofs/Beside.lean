import ConfigLocator.Proofs.FileNames
import ConfigLocator.Proofs.Passes
import ConfigLocator.Proofs.Patterns

/-!
# Locations beside a resource

A relative location that a resource declares is looked for in a directory that is read off the text
of the resource's reference, up to its last slash. Whether that is the directory of the entry that
was found depends on how the two differ: cleaning turns backslashes into slashes and takes back
segments, and a wildcard stands for directories that the text does not name.

Every resource handed out was probed (`StandardResolver.Returned.probe`), so its entry is the one of
its reference or one that its pattern stands for (`StandardResolver.Returned.entry`).
`StandardResolver.finds_beside_iff` then says exactly when a name of a file finds the entry of that
name in the directory of the resource.
-/

namespace ConfigLocator

/-! ## Texts without a scheme -/

theorem withoutFileScheme_of_startsWith {t : Text} (h : Text.startsWith t fileScheme = false) :
    withoutFileScheme t = t := by
  rw [withoutFileScheme, Text.dropLeading?_eq_none_iff.mpr h]

theorem withoutFileScheme_fileScheme (t : Text) :
    withoutFileScheme (fileScheme ++ t) = Text.dropLeading t [slash, slash] := by
  rw [withoutFileScheme, Text.dropLeading?_append]

/-- A name behind a directory is no part of the scheme. -/
theorem withoutFileScheme_append {d f : Text} (hd : d.IsDirectoryPart) (hslash : slash ∉ f)
    (hfile : Text.startsWith f fileScheme = false) :
    withoutFileScheme (d ++ f) = withoutFileScheme d ++ f := by
  rcases hd with rfl | ⟨s, rfl⟩
  · exact withoutFileScheme_of_startsWith hfile
  · have hmem : slash ∈ s ++ [slash] := by simp
    cases hscheme : Text.startsWith (s ++ [slash]) fileScheme with
    | false =>
        have hentry : Text.startsWith (s ++ [slash] ++ f) fileScheme = false :=
          (Text.startsWith_append hmem (by decide) f).trans hscheme
        rw [withoutFileScheme_of_startsWith hscheme, withoutFileScheme_of_startsWith hentry]
    | true =>
        obtain ⟨path, hpath⟩ := Text.startsWith_iff.mp hscheme
        have hrelative : Path.isAbsolute f = false := Path.isAbsolute_of_not_mem hslash
        have htwo : Text.startsWith (path ++ f) [slash, slash] = Text.startsWith path [slash, slash] :=
          Path.startsWith_append_of_relative hrelative 2 path
        rw [← hpath, List.append_assoc, withoutFileScheme_fileScheme, withoutFileScheme_fileScheme]
        cases hroot : Text.startsWith path [slash, slash] with
        | true =>
            obtain ⟨rest, rfl⟩ := Text.startsWith_iff.mp hroot
            rw [List.append_assoc, Text.dropLeading, Text.dropLeading, Text.dropLeading?_append,
              Text.dropLeading?_append]
            rfl
        | false =>
            rw [hroot] at htwo
            rw [Text.dropLeading, Text.dropLeading, Text.dropLeading?_eq_none_iff.mpr hroot,
              Text.dropLeading?_eq_none_iff.mpr htwo]
            rfl

/-- The directory of a text has the path of the text up to its last slash. -/
theorem withoutFileScheme_throughLast (t : Text) :
    withoutFileScheme (Text.throughLast slash t) = Text.throughLast slash (withoutFileScheme t) := by
  have hshort : ∀ {head p q : Text}, p <+: q → Text.startsWith q head = false →
      Text.startsWith p head = false := by
    intro head p q hpq hq
    rw [← Bool.not_eq_true, Text.startsWith_iff] at hq ⊢
    exact fun hp => hq (hp.trans hpq)
  cases hscheme : Text.startsWith t fileScheme with
  | false =>
      rw [withoutFileScheme_of_startsWith hscheme,
        withoutFileScheme_of_startsWith (hshort (Text.prefix_throughLast slash t) hscheme)]
  | true =>
      obtain ⟨path, rfl⟩ := Text.startsWith_iff.mp hscheme
      rw [withoutFileScheme_fileScheme]
      cases hroot : Text.startsWith path [slash, slash] with
      | true =>
          obtain ⟨rest, rfl⟩ := Text.startsWith_iff.mp hroot
          have hthrough : Text.throughLast slash ([slash, slash] ++ rest) =
              [slash, slash] ++ Text.throughLast slash rest :=
            Text.throughLast_append_cons slash [slash] rest
          rw [Text.throughLast_append_of_mem (by simp), hthrough, withoutFileScheme_fileScheme,
            Text.dropLeading, Text.dropLeading, Text.dropLeading?_append, Text.dropLeading?_append]
          rfl
      | false =>
          have hpath : Text.dropLeading path [slash, slash] = path := by
            rw [Text.dropLeading, Text.dropLeading?_eq_none_iff.mpr hroot]
            rfl
          have hthrough := hshort (Text.prefix_throughLast slash path) hroot
          rw [hpath]
          by_cases hmem : slash ∈ path
          · rw [Text.throughLast_append_of_mem hmem, withoutFileScheme_fileScheme, Text.dropLeading,
              Text.dropLeading?_eq_none_iff.mpr hthrough]
            rfl
          · have hnone : slash ∉ fileScheme ++ path := by
              rw [List.mem_append, not_or]
              exact ⟨by decide, hmem⟩
            rw [Text.throughLast_of_not_mem hnone, Text.throughLast_of_not_mem hmem]
            rfl

namespace StandardResolver

variable {r : StandardResolver} {host : Host} {x : Resource}

/-! ## Resources that were handed out -/

theorem Returned.probe (h : r.Returned host x) (hplaceholder : x.isPlaceholder = false) :
    ∃ list, (r.probe host x.reference).outcome = .ok list ∧ x ∈ list := by
  obtain ⟨parent, t, ht⟩ := h.foundFor
  cases ht with
  | probed _ _ _ hlist hx => exact ⟨_, hlist, hx⟩
  | placeholder _ _ hother =>
      rw [hplaceholder] at hother
      cases hother

/-- The entry of the reference, or one that its pattern stands for. -/
theorem Returned.entry (h : r.Returned host x) (hplaceholder : x.isPlaceholder = false) :
    (isPattern x.reference.resourceLocation = false
        ∧ r.store.handle x.reference.resourceLocation = .ok x.handle)
      ∨ (isPattern x.reference.resourceLocation = true
        ∧ ∃ handles, r.store.expand host x.reference.resourceLocation .files = .ok handles
          ∧ x.handle ∈ handles) := by
  obtain ⟨list, hlist, hx⟩ := h.probe hplaceholder
  rcases probe_eq_ok hlist with
    ⟨-, rfl⟩ | ⟨hpattern, handles, hhandles, -, rfl⟩ | ⟨hpattern, handle, isThere, hhandle, -, rfl⟩
  · cases hx
  · obtain ⟨handle, hhandle, hentry⟩ := List.mem_map.mp hx
    refine Or.inr ⟨hpattern, handles, hhandles, ?_⟩
    rw [← hentry]
    exact hhandle
  · refine Or.inl ⟨hpattern, ?_⟩
    split at hx
    · cases hx
    · rw [List.mem_singleton.mp hx]
      exact hhandle

/-! ## What a name beside a resource finds -/

section Beside

variable {f : Text} {origin : Option Text}

/-- Beside a resource a name comes to what the probe of one mandatory reference finds. -/
theorem exists_resolve_beside (host : Host) (origin : Option Text) (hf : FileName f)
    {x : Reference}
    (hknown : KnownExtension r.loaders (Text.throughLast slash x.resourceLocation ++ f)) :
    ∃ y, y.resourceLocation = Text.throughLast slash x.resourceLocation ++ f
      ∧ y.isSkippable = false ∧ isBeyondStore y = false
      ∧ (r.resolve host (some x) ⟨f, false, origin⟩).outcome = (r.probe host y).outcome := by
  have hd := Text.isDirectoryPart_throughLast x.resourceLocation
  obtain ⟨y, hy, htext, hlocation, hdirectory, hprofile⟩ :=
    hf.fileReference hd hknown ⟨f, false, origin⟩
  have hopen : Path.isDirectoryText (Text.throughLast slash x.resourceLocation ++ f) = false :=
    Path.not_isDirectoryText_append hf.ne_nil hf.slash_not_mem _
  have hreferences : r.references (some x) ⟨⟨f, false, origin⟩, none⟩ = .ok (.ofList [y]) := by
    rw [references, wrapFaults_eq_ok_iff]
    show (if Path.isDirectoryText (resourceLocation (some x) ⟨f, false, origin⟩) = true then _
      else _) = _
    rw [hf.resourceLocation, if_neg (by simp [hopen]), hy]
    rfl
  have hskip : y.isSkippable = false := by
    simp [Reference.isSkippable, hlocation, hdirectory, hprofile]
  have hbeyond : isBeyondStore y = false := by simp [isBeyondStore, hlocation]
  refine ⟨y, htext, hskip, hbeyond, ?_⟩
  rw [show r.resolve host (some x) ⟨f, false, origin⟩ = r.pass host (some x) ⟨f, false, origin⟩ none
    from rfl, pass_of_parts (hf.parts origin), resolveTargets_singleton hreferences]
  exact resolveGroup_file hdirectory

end Beside

/-! ## One entry in the directory -/

variable {path f : Text} {origin : Option Text}

/-- The absolute directory that a text names, closed by a slash. -/
def directoryPath (r : StandardResolver) (host : Host) (d : Text) : Text :=
  Path.append (host.absolutePath (r.store.anchor (Path.clean (withoutFileScheme d)))) []

/-- The default pass for a name beside a resource finds one entry, which is that of the name in the
directory of a path. -/
def FindsBeside (r : StandardResolver) (host : Host) (x : Reference) (path f : Text)
    (origin : Option Text) : Prop :=
  ∃ z found, (r.resolve host (some x) ⟨f, false, origin⟩).outcome = .ok [z]
    ∧ z.handle = .file found
    ∧ host.absolutePath found = Text.throughLast slash (host.absolutePath path) ++ f

theorem exists_directoryPath (r : StandardResolver) (host : Host) (d : Text) :
    ∃ s, r.directoryPath host d = s ++ [slash] :=
  Path.exists_append_nil (Path.normalize_ne_nil _)

theorem isDirectoryPart_withoutFileScheme (t : Text) :
    (withoutFileScheme (Text.throughLast slash t)).IsDirectoryPart := by
  rw [withoutFileScheme_throughLast]
  exact Text.isDirectoryPart_throughLast _

theorem absolutePath_name (r : StandardResolver) (host : Host) (t : Text) {g : Text}
    (hname : Path.IsName g) :
    host.absolutePath (r.store.anchor (Path.clean
        (withoutFileScheme (Text.throughLast slash t) ++ g))) =
      r.directoryPath host (Text.throughLast slash t) ++ g := by
  rw [Store.absolutePath_entry _ _ (isDirectoryPart_withoutFileScheme t) hname,
    Path.append_of_relative (Path.isAbsolute_of_not_mem hname.isSegment.1.2.2), directoryPath]

/-- A name behind a text names the entry in the directory that the text names. -/
theorem absolutePath_beside (r : StandardResolver) (host : Host) (t : Text)
    (hname : Path.IsName f) (hfile : Text.startsWith f fileScheme = false) :
    host.absolutePath (r.store.anchor (Path.clean
        (withoutFileScheme (Text.throughLast slash t ++ f)))) =
      r.directoryPath host (Text.throughLast slash t) ++ f := by
  rw [withoutFileScheme_append (Text.isDirectoryPart_throughLast t) hname.isSegment.1.2.2 hfile,
    r.absolutePath_name host t hname]

/-- A text whose last segment is a name is in the directory that it names. -/
theorem directoryPath_of_isName (r : StandardResolver) (host : Host) {t : Text}
    (hname : Path.IsName (Text.afterLast slash (withoutFileScheme t))) :
    r.directoryPath host (Text.throughLast slash t) =
      Text.throughLast slash
        (host.absolutePath (r.store.anchor (Path.clean (withoutFileScheme t)))) := by
  have hjoin := Text.throughLast_append_afterLast slash (withoutFileScheme t)
  rw [← withoutFileScheme_throughLast] at hjoin
  generalize Text.afterLast slash (withoutFileScheme t) = last at hname hjoin
  obtain ⟨s, hs⟩ := r.exists_directoryPath host (Text.throughLast slash t)
  rw [← hjoin, r.absolutePath_name host t hname, hs, List.append_assoc]
  exact (Text.throughLast_append hname.isSegment.1.2.2 s).symm

/-- Without a wildcard one entry is found whenever the location is supported, and it is the one in the
directory that the text names. -/
theorem finds_beside_iff_directoryPath (hf : FileName f) {y : Reference}
    (hknown : KnownExtension r.loaders (Text.throughLast slash y.resourceLocation ++ f))
    (hpattern : isPattern y.resourceLocation = false)
    (hpackage : Text.startsWith y.resourceLocation packageScheme = false) :
    let d := Text.throughLast slash y.resourceLocation
    r.FindsBeside host y path f origin ↔
      isSupported (d ++ f) = true
        ∧ r.directoryPath host d = Text.throughLast slash (host.absolutePath path) := by
  intro d
  have hd : d.IsDirectoryPart := Text.isDirectoryPart_throughLast y.resourceLocation
  have hsplit : d ++ Text.afterLast slash y.resourceLocation = y.resourceLocation :=
    Text.throughLast_append_afterLast slash y.resourceLocation
  obtain ⟨z, htext, hskip, hbeyond, houtcome⟩ :=
    exists_resolve_beside host origin hf hknown
  have htext : z.resourceLocation = d ++ f := htext
  have hplain : isPattern z.resourceLocation = false := by
    rw [← hsplit, isPattern_append] at hpattern
    rw [htext, isPattern_append]
    exact ⟨hpattern.1, hf.isPattern⟩
  have hfile : Text.startsWith z.resourceLocation packageScheme = false := by
    rw [htext]
    rcases hd with hd | ⟨s, hs⟩
    · rw [hd]
      exact hf.no_lead packageScheme (by simp)
    · have hslash : slash ∈ d := by simp [hs]
      rw [← hpackage, ← hsplit, Text.startsWith_append hslash (by decide),
        Text.startsWith_append hslash (by decide)]
  have hpath := absolutePath_beside r host y.resourceLocation hf.isName
    (hf.no_lead fileScheme (by simp))
  rw [FindsBeside, houtcome, ← htext]
  rw [← htext] at hpath
  constructor
  · rintro ⟨_, found, h, hhandle, habsolute⟩
    obtain ⟨handle, isThere, hstore, -, hlist⟩ := (probe_entry_eq_ok_iff hbeyond hplain).mp h
    rw [hskip, Bool.and_false] at hlist
    obtain ⟨rfl, -⟩ := List.cons.inj hlist
    obtain rfl : handle = .file found := hhandle
    obtain ⟨-, hsupported, -, rfl⟩ := Store.of_handle_eq_file hstore
    rw [hpath] at habsolute
    exact ⟨hsupported, List.append_cancel_right habsolute⟩
  · rintro ⟨hsupported, hdirectory⟩
    have hfound : (r.probe host z).outcome = .ok
        [⟨z, .file (r.store.anchor (Path.clean (withoutFileScheme z.resourceLocation))), false⟩] := by
      refine (probe_entry_eq_ok_iff hbeyond hplain).mpr
        ⟨_, _, Store.handle_eq_file hplain hsupported hfile, Handle.exists?_file host _, ?_⟩
      rw [hskip, Bool.and_false]
      rfl
    exact ⟨_, _, hfound, rfl, by rw [hpath, hdirectory]⟩

/-- With a wildcard one entry is found when one of the subdirectories has a file of the name. -/
theorem finds_beside_iff_wildcardDirectories (hf : FileName f) {y : Reference}
    (hknown : KnownExtension r.loaders (Text.throughLast slash y.resourceLocation ++ f))
    (hd : Store.IsPatternDirectory (Text.throughLast slash y.resourceLocation))
    {subs : List Text}
    (hsubs : r.store.wildcardDirectories host (Text.throughLast slash y.resourceLocation) =
      .ok subs) :
    r.FindsBeside host y path f origin ↔
      ∃ sub, subs.filter (fun sub => host.hasFile (Path.append sub f)) = [sub]
        ∧ host.absolutePath (Path.append sub f) =
          Text.throughLast slash (host.absolutePath path) ++ f := by
  obtain ⟨z, htext, hskip, hbeyond, houtcome⟩ := exists_resolve_beside host origin hf hknown
  have hcheck := hd.checkPattern hf.slash_not_mem hf.isPattern
  have hexpand : r.store.expand host z.resourceLocation .files =
      .ok ((subs.filter fun sub => host.hasFile (Path.append sub f)).map fun sub =>
        .file (Path.append sub f)) := by
    rw [htext, hd.expand r.store host hf.slash_not_mem hcheck, hsubs]
    rfl
  have hpattern : isPattern z.resourceLocation = true := by
    rw [htext]
    exact (Store.checkPattern_eq_ok_iff.mp hcheck).1
  rw [FindsBeside, houtcome]
  constructor
  · rintro ⟨_, found, h, hhandle, habsolute⟩
    obtain ⟨handles, hhandles, -, hlist⟩ := (probe_pattern_eq_ok_iff hbeyond hpattern).mp h
    rw [hexpand] at hhandles
    obtain rfl := Except.ok.inj hhandles
    rw [List.map_map, eq_comm, List.map_eq_singleton_iff] at hlist
    obtain ⟨sub, hsub, rfl⟩ := hlist
    obtain rfl := Handle.file.inj hhandle
    exact ⟨sub, hsub, habsolute⟩
  · rintro ⟨sub, hsub, habsolute⟩
    rw [hsub] at hexpand
    have hfound : (r.probe host z).outcome = .ok [⟨z, .file (Path.append sub f), false⟩] :=
      (probe_pattern_eq_ok_iff hbeyond hpattern).mpr
        ⟨_, hexpand, fun hnil => absurd hnil (List.cons_ne_nil _ _), rfl⟩
    exact ⟨_, _, hfound, rfl, habsolute⟩

/-- When a name beside a resource finds exactly the entry in the directory of the resource. If the
text of its reference has no wildcard, the location has to be supported and the text has to name
that directory, which it does when the last segment of its path is a name. If it has one, a single
subdirectory may have a file of the name, and that has to be the directory of the resource. -/
theorem finds_beside_iff (hx : r.Returned host x) (hplaceholder : x.isPlaceholder = false)
    (hpath : x.handle = .file path) (hf : FileName f)
    (hknown : KnownExtension r.loaders
      (Text.throughLast slash x.reference.resourceLocation ++ f)) :
    let text := x.reference.resourceLocation
    let d := Text.throughLast slash text
    (isPattern text = false → (r.FindsBeside host x.reference path f origin ↔
      isSupported (d ++ f) = true
        ∧ r.directoryPath host d = Text.throughLast slash (host.absolutePath path)))
    ∧ (isPattern text = false → isSupported (d ++ f) = true →
      Path.IsName (Text.afterLast slash (withoutFileScheme text)) →
      r.FindsBeside host x.reference path f origin)
    ∧ (isPattern text = true → ∃ subs, r.store.wildcardDirectories host d = .ok subs
      ∧ (r.FindsBeside host x.reference path f origin ↔
        ∃ sub, subs.filter (fun sub => host.hasFile (Path.append sub f)) = [sub]
          ∧ host.absolutePath (Path.append sub f) =
            Text.throughLast slash (host.absolutePath path) ++ f)) := by
  intro text d
  have hsplit : d ++ Text.afterLast slash text = text :=
    Text.throughLast_append_afterLast slash text
  have hlast : slash ∉ Text.afterLast slash text := Text.not_mem_afterLast slash text
  rcases hx.entry hplaceholder with ⟨hplain, hhandle⟩ | ⟨hpattern, handles, hhandles, hmem⟩
  · have hplain : isPattern text = false := hplain
    rw [hpath] at hhandle
    obtain ⟨-, -, hpackage, hentry⟩ := Store.of_handle_eq_file hhandle
    have hiff : r.FindsBeside host x.reference path f origin ↔ isSupported (d ++ f) = true
        ∧ r.directoryPath host d = Text.throughLast slash (host.absolutePath path) :=
      finds_beside_iff_directoryPath hf hknown hplain hpackage
    refine ⟨fun _ => hiff, fun _ hsupported hname => hiff.mpr ⟨hsupported, ?_⟩,
      fun h => absurd h (by simp [hplain])⟩
    rw [hentry]
    exact r.directoryPath_of_isName host hname
  · have hpattern : isPattern text = true := hpattern
    refine ⟨fun h => absurd h (by simp [hpattern]), fun h => absurd h (by simp [hpattern]),
      fun _ => ?_⟩
    have hcheck : Store.checkPattern .files text = .ok () := Store.checkPattern_of_expand hhandles
    have hd : Store.IsPatternDirectory d := Store.isPatternDirectory_of_checkPattern hcheck
    rw [← hsplit] at hcheck
    have hexpand := hd.expand r.store host hlast hcheck
    rw [hsplit, hhandles] at hexpand
    cases hsubs : r.store.wildcardDirectories host d with
    | error fault =>
        rw [hsubs] at hexpand
        cases hexpand
    | ok subs => exact ⟨subs, rfl, finds_beside_iff_wildcardDirectories hf hknown hd hsubs⟩

/-! ## Files beside each other -/

/-- What matters of a resource here: its entry, and the text of its reference. -/
def entryAndText (x : Resource) : Bool × Handle × Text :=
  (x.isPlaceholder, x.handle, x.reference.resourceLocation)

theorem exists_returned {l : Location} {first : Bool × Handle × Text}
    {more : List (Bool × Handle × Text)}
    (h : (r.resolve host none l).outcome.toOption.map (·.map entryAndText) = some (first :: more)) :
    ∃ x, r.Returned host x ∧ entryAndText x = first := by
  cases houtcome : (r.resolve host none l).outcome with
  | error fault =>
      rw [houtcome] at h
      cases h
  | ok found =>
      rw [houtcome] at h
      cases found with
      | nil => cases h
      | cons x rest =>
          obtain ⟨hx, -⟩ := List.cons.inj (Option.some.inj h)
          exact ⟨x, ⟨none, l, x :: rest, List.mem_cons_self, Or.inl houtcome⟩, hx⟩

/-- Knows one extension. -/
def besideResolver : StandardResolver :=
  ⟨["application"], [⟨1, "yaml", .ok ["yml"], fun _ _ _ => .ok []⟩], {}⟩

/-- Two directories with two files each. -/
def besideHost : Host where
  tree := ⟨[(["ws"], .directory), (["ws", "config"], .directory),
    (["ws", "config", "a"], .directory), (["ws", "config", "a", "app.yml"], .file []),
    (["ws", "config", "a", "extra.yml"], .file []), (["ws", "config", "b"], .directory),
    (["ws", "config", "b", "app.yml"], .file []), (["ws", "config", "b", "extra.yml"], .file [])]⟩
  workingDirectory := ["ws"]
  environment := []

theorem fileName_extra : FileName "extra.yml" where
  isName := ⟨⟨⟨by decide, by decide, by decide⟩, by decide⟩, by decide⟩
  not_blank := by decide
  no_wildcard := by decide
  no_delimiter := by decide
  no_hint := by decide
  no_lead := by decide
  no_scheme := by decide

theorem knownExtension_extra (t : Text) :
    KnownExtension besideResolver.loaders (Text.throughLast slash t ++ "extra.yml") := by
  have hextra : KnownExtension besideResolver.loaders "extra.yml" := by
    refine ⟨_, "yml", "extra", "yml", Loader.findExtension?_of_find? rfl (by decide +kernel) [], ?_⟩
    decide
  refine hextra.append (Text.isDirectoryPart_throughLast t) ?_
  intro loader hloader own hown
  obtain rfl := List.mem_singleton.mp hloader
  obtain rfl := Except.ok.inj hown
  decide

theorem finds_beside_config : ∃ x, besideResolver.Returned besideHost x
    ∧ x.handle = .file "config/a/app.yml"
    ∧ besideResolver.FindsBeside besideHost x.reference "config/a/app.yml" "extra.yml" none := by
  have hfound : (besideResolver.resolve besideHost none
      ⟨"config/a/app.yml", false, none⟩).outcome.toOption.map (·.map entryAndText) =
        some [((false, Handle.file ("config/a/app.yml" : Text), ("config/a/app.yml" : Text)) :
          Bool × Handle × Text)] := by
    decide +kernel
  obtain ⟨x, hx, hsame⟩ := exists_returned hfound
  obtain ⟨hplaceholder, hrest⟩ := Prod.mk.inj hsame
  obtain ⟨hhandle, htext⟩ := Prod.mk.inj hrest
  have hname : Path.IsName (Text.afterLast slash (withoutFileScheme "config/a/app.yml")) :=
    ⟨⟨⟨by decide, by decide, by decide⟩, by decide⟩, by decide⟩
  have hplain : isPattern x.reference.resourceLocation = false := by
    rw [htext]
    decide
  have hsupported :
      isSupported (Text.throughLast slash x.reference.resourceLocation ++ "extra.yml") = true := by
    rw [htext]
    decide
  have hlast :
      Path.IsName (Text.afterLast slash (withoutFileScheme x.reference.resourceLocation)) := by
    rw [htext]
    exact hname
  exact ⟨x, hx, hhandle,
    (finds_beside_iff hx hplaceholder hhandle fileName_extra (knownExtension_extra _)).2.1
      hplain hsupported hlast⟩

theorem wildcardDirectories_config :
    besideResolver.store.wildcardDirectories besideHost "config/*/" =
      .ok ["/ws/config/a", "/ws/config/b"] := by
  have hlisted : (besideResolver.store.wildcardDirectories besideHost "config/*/").toOption =
      some (["/ws/config/a", "/ws/config/b"] : List Text) := by
    decide +kernel
  cases houtcome : besideResolver.store.wildcardDirectories besideHost "config/*/" with
  | error fault =>
      rw [houtcome] at hlisted
      cases hlisted
  | ok subs =>
      rw [houtcome] at hlisted
      rw [Option.some.inj hlisted]

/-- What a pattern finds in one directory may have a file of the name beside it and another one in
the next directory: the name then finds both. -/
theorem not_finds_beside_wildcard : ¬∀ (r : StandardResolver) (host : Host) (x : Resource)
    (path f : Text), r.Returned host x → x.isPlaceholder = false → x.handle = .file path →
      host.hasFile path = true → FileName f →
      KnownExtension r.loaders (Text.throughLast slash x.reference.resourceLocation ++ f) →
      r.FindsBeside host x.reference path f none := by
  intro hall
  have hfound : (besideResolver.resolve besideHost none
      ⟨"config/*/app.yml", false, none⟩).outcome.toOption.map (·.map entryAndText) =
        some [((false, Handle.file ("/ws/config/a/app.yml" : Text), ("config/*/app.yml" : Text)) :
            Bool × Handle × Text),
          (false, Handle.file ("/ws/config/b/app.yml" : Text), ("config/*/app.yml" : Text))] := by
    decide +kernel
  obtain ⟨x, hx, hsame⟩ := exists_returned hfound
  obtain ⟨hplaceholder, hrest⟩ := Prod.mk.inj hsame
  obtain ⟨hhandle, htext⟩ := Prod.mk.inj hrest
  have hdirectory : Text.throughLast slash x.reference.resourceLocation = "config/*/" := by
    rw [htext]
    decide
  have hpattern : Store.IsPatternDirectory (Text.throughLast slash x.reference.resourceLocation) := by
    rw [hdirectory]
    exact ⟨by decide, by decide, by decide⟩
  have hsubs : besideResolver.store.wildcardDirectories besideHost
      (Text.throughLast slash x.reference.resourceLocation) =
        .ok ["/ws/config/a", "/ws/config/b"] := by
    rw [hdirectory, wildcardDirectories_config]
  have hfinds := hall besideResolver besideHost x "/ws/config/a/app.yml" "extra.yml" hx hplaceholder
    hhandle (by decide +kernel) fileName_extra (knownExtension_extra _)
  obtain ⟨sub, hsub, -⟩ :=
    (finds_beside_iff_wildcardDirectories fileName_extra (knownExtension_extra _) hpattern hsubs).mp
      hfinds
  have hboth : (["/ws/config/a", "/ws/config/b"] : List Text).filter
      (fun sub => besideHost.hasFile (Path.append sub "extra.yml")) =
        ["/ws/config/a", "/ws/config/b"] := by
    decide +kernel
  rw [hboth] at hsub
  cases hsub

end StandardResolver

end ConfigLocator

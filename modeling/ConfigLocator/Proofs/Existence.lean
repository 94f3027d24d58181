import ConfigLocator.Proofs.Passes
import ConfigLocator.Proofs.PathNormal
import ConfigLocator.Proofs.Refusal
import ConfigLocator.Registry

/-!
# Resources that are there

What a pass returns is there, with one exception: a file that a mandatory location names is handed
out even if it is missing, for the consumer to report it (`Reference.IsNamedFile`).
`Resource.Stands` has a case for each way in which a resource can be returned, and
`StandardResolver.FoundFor.stands` takes every branch of resolution to one of them. Each branch asks
the store in its own way: whether something exists, whether a path is a file, whether it is a
directory, or by a trailing slash, which only a directory can have (`FileTree.lookup_append_slash`).

Reading the results of a resolution therefore meets a missing resource only for a named file
(`StandardResolver.missing_only_if_named`).
-/

namespace ConfigLocator

/-! ## Handles that are there -/

/-- A regular file, which can be read. -/
def Handle.IsFile (host : Host) (handle : Handle) : Prop :=
  ∃ content, handle.entry? host = .ok (some (.file content)) ∧ handle.read host = .ok content

theorem Handle.isFile_of_entry_file {host : Host} {handle : Handle} {content : List UInt8}
    (h : handle.entry? host = .ok (some (.file content))) : handle.IsFile host := by
  refine ⟨content, h, ?_⟩
  cases handle with
  | file path =>
      have hread : host.tree.read host.workingDirectory path = .ok content := by
        cases hlookup : host.tree.lookup host.workingDirectory path with
        | error fault =>
            rw [Handle.entry?, Host.lookup, hlookup] at h
            cases h
        | ok entry =>
            rw [Handle.entry?, Host.lookup, hlookup] at h
            obtain rfl : entry = .file content := Option.some.inj (Except.ok.inj h)
            rw [FileTree.read, hlookup]
            rfl
      rw [Handle.read, hread]
  | package name path =>
      rw [Handle.read, show host.packageEntry? name path = _ from h]
      rfl

theorem Handle.IsFile.exists? {host : Host} {handle : Handle} (h : handle.IsFile host) :
    handle.exists? host = .ok true := by
  obtain ⟨content, hentry, -⟩ := h
  rw [Handle.exists?, hentry]
  rfl

/-- Every file that a pattern stands for is a regular one. -/
theorem Store.isFile_of_mem_expand {store : Store} {host : Host} {location : Text}
    {handles : List Handle} (h : store.expand host location .files = .ok handles) {handle : Handle}
    (hmem : handle ∈ handles) : handle.IsFile host := by
  unfold expand at h
  split at h
  · cases h
  · obtain ⟨directories, -, h⟩ := bind_eq_ok_iff.mp h
    cases h
    obtain ⟨path, hpath, rfl⟩ := List.mem_map.mp hmem
    obtain ⟨-, hfile⟩ := List.mem_filter.mp hpath
    cases hentry : (host.lookup path).toOption with
    | none =>
        rw [hentry] at hfile
        cases hfile
    | some entry =>
        cases entry with
        | directory =>
            rw [hentry] at hfile
            cases hfile
        | file content => exact Handle.isFile_of_entry_file (congrArg Except.ok hentry)

theorem Store.exists_of_mem_expand_files {store : Store} {host : Host} {location : Text}
    {handles : List Handle} (h : store.expand host location .files = .ok handles) {handle : Handle}
    (hmem : handle ∈ handles) : handle.exists? host = .ok true :=
  (isFile_of_mem_expand h hmem).exists?

/-! ## How a resource stands -/

/-- A file that a mandatory location names, and that is not guessed. -/
structure Reference.IsNamedFile (x : Reference) : Prop where
  mandatory : x.location.isOptional = false
  no_directory : x.directory = none
  no_profile : x.profile = none
  no_wildcard : isPattern x.resourceLocation = false

theorem Reference.isNamedFile_of_not_isSkippable {x : Reference} (h : x.isSkippable = false)
    (hpattern : isPattern x.resourceLocation = false) : x.IsNamedFile := by
  simp only [isSkippable, Bool.or_eq_false_iff, Option.isSome_eq_false_iff, Option.isNone_iff_eq_none]
    at h
  exact ⟨h.1.1, h.1.2, h.2, hpattern⟩

/-- The ways in which a returned resource stands: for a directory that was scanned, for an entry, or
for a named file that is missing. -/
inductive Resource.Stands (host : Host) (x : Resource) : Prop
  | directory {path : Text} (hplaceholder : x.isPlaceholder = true)
      (hscans : x.reference.directory.isSome = true) (hhandle : x.handle = .file path)
      (hlookup : host.lookup path = .ok .directory)
  | entry (hfile : x.isPlaceholder = false) (hexists : x.handle.exists? host = .ok true)
  | missing (hfile : x.isPlaceholder = false) (hnamed : x.reference.IsNamedFile)
      (hexists : x.handle.exists? host = .ok false)

namespace StandardResolver

variable {r : StandardResolver} {host : Host} {parent : Option Reference} {t : Target}
  {x : Resource}

theorem stands_of_mem_probe {reference : Reference} {found : List Resource}
    (h : (r.probe host reference).outcome = .ok found) (hx : x ∈ found) : x.Stands host := by
  rcases probe_eq_ok h with
    ⟨-, rfl⟩ | ⟨-, handles, hhandles, -, rfl⟩ | ⟨hpattern, handle, isThere, -, hexists, rfl⟩
  · cases hx
  · obtain ⟨handle, hhandle, rfl⟩ := List.mem_map.mp hx
    exact .entry rfl (Store.exists_of_mem_expand_files hhandles hhandle)
  · split at hx
    · cases hx
    · rename_i hkept
      obtain rfl := List.mem_singleton.mp hx
      cases isThere with
      | true => exact .entry rfl hexists
      | false =>
          have hskip : reference.isSkippable = false := by simpa using hkept
          exact .missing rfl (Reference.isNamedFile_of_not_isSkippable hskip hpattern) hexists

theorem stands_of_mem_placeholders {reference : Reference} {found : List Resource}
    (h : r.placeholders host reference = .ok found) (hx : x ∈ found) : x.Stands host := by
  obtain ⟨rfl, hplaceholder, hscans, path, hhandle, hlookup⟩ := mem_placeholders h hx
  exact .directory hplaceholder hscans hhandle hlookup

theorem FoundFor.stands (h : r.FoundFor host parent t x) : x.Stands host := by
  cases h with
  | probed _ _ _ hlist hx => exact stands_of_mem_probe hlist hx
  | placeholder _ _ _ hlist hx => exact stands_of_mem_placeholders hlist hx

theorem FoundFor.profile_eq (h : r.FoundFor host parent t x) :
    x.reference.profile = t.profile := by
  cases h with
  | probed hrefs hreference => exact (mem_references hrefs hreference).2
  | placeholder hrefs hreference => exact (mem_references hrefs hreference).2

theorem Returned.stands (h : r.Returned host x) : x.Stands host := by
  obtain ⟨parent, t, ht⟩ := h.foundFor
  exact ht.stands

end StandardResolver

/-- Only a named file is missing. -/
theorem Resource.Stands.exists_of_not_isNamedFile {host : Host} {x : Resource} (h : x.Stands host)
    (hnamed : ¬x.reference.IsNamedFile) : x.handle.exists? host = .ok true := by
  cases h with
  | directory _ _ hhandle hlookup =>
      rw [hhandle, Handle.exists?, Handle.entry?, hlookup]
      rfl
  | entry _ hexists => exact hexists
  | missing _ hnamed' => exact absurd hnamed' hnamed

theorem Resource.Stands.isNamedFile {host : Host} {x : Resource} (h : x.Stands host)
    (hmissing : x.handle.exists? host = .ok false) : x.reference.IsNamedFile := by
  by_contra hnamed
  rw [h.exists_of_not_isNamedFile hnamed] at hmissing
  cases hmissing

/-! ## Reading results -/

/-- The sources of one result. -/
def Resolution.sources (host : Host) (result : Resolution) : Except Fault (List Source) :=
  result.item.load host (some result.location)

/-- Reading ends at the first result that cannot be read. -/
theorem Resolution.loadAll_eq_error_iff {host : Host} {results : List Resolution} {fault : Fault} :
    loadAll host results = .error fault ↔
      ∃ result, FirstFails (sources host) results result fault := by
  induction results with
  | nil => simp [loadAll, not_firstFails_nil]
  | cons result rest ih =>
      rw [loadAll, bind_eq_error_iff, exists_firstFails_cons_iff, ← ih]
      refine or_congr Iff.rfl (exists_congr fun found => and_congr_right fun _ => ?_)
      exact bind_pure_eq_error_iff

/-- Why reading a result reports a missing resource: it is a named file that is missing, or it is
there and its loader reports one. -/
inductive Resolution.Reports (host : Host) (result : Resolution) (resource : Text)
    (location : Option Location) : Prop
  | missing {x : Resource} (hitem : result.item = .resource x) (hnamed : x.reference.IsNamedFile)
      (hexists : x.handle.exists? host = .ok false) (hresource : resource = x.display host)
      (hlocation : location = some result.location)
  | loader {x : Resource} (hitem : result.item = .resource x)
      (hexists : x.handle.exists? host = .ok true)
      (hload : x.reference.loader.load host (x.sourceName host) x.handle =
        .error (.resourceNotFound resource location))

theorem Resolution.reports_of_sources {host : Host} {result : Resolution} {x : Resource}
    (hitem : result.item = .resource x) (hstands : x.Stands host) {resource : Text}
    {location : Option Location}
    (h : result.sources host = .error (.resourceNotFound resource location)) :
    result.Reports host resource location := by
  rw [sources, hitem, Item.load, Resource.load] at h
  cases hfile : x.isPlaceholder with
  | true =>
      rw [hfile] at h
      cases h
  | false =>
      rw [hfile] at h
      rcases bind_eq_error_iff.mp h with hrefused | ⟨isThere, hexists, h⟩
      · cases Handle.isResolution_of_exists? hrefused
      · cases isThere with
        | true => exact .loader hitem hexists h
        | false =>
            cases h
            exact .missing hitem (hstands.isNamedFile hexists) hexists rfl rfl

theorem Registry.exists_of_mem_tag {l : Location} {isProfileSpecific : Bool} {found : List Resource}
    {result : Resolution} (h : result ∈ tag l isProfileSpecific (found.map .resource)) :
    ∃ x ∈ found, result.item = .resource x := by
  rw [tag, List.map_map] at h
  obtain ⟨x, hx, rfl⟩ := List.mem_map.mp h
  exact ⟨x, hx, rfl⟩

/-- With the standard resolver, both passes of a registry give resources that were returned. -/
theorem Registry.returned_of_resolveWith {c : Context} {l : Location}
    {profiles : Option (List Text)} {r : StandardResolver} {results : List Resolution}
    (h : (resolveWith c l profiles (.standard r)).outcome = .ok results) :
    ∀ result ∈ results, ∃ x, result.item = .resource x ∧ r.Returned c.host x := by
  rw [resolveWith, Probe.outcome_bind, Resolver.resolve, Probe.outcome_bind] at h
  obtain ⟨_, hdefault, h⟩ := bind_eq_ok_iff.mp h
  obtain ⟨found, hfound, hpure⟩ := bind_eq_ok_iff.mp hdefault
  obtain rfl := pure_eq_ok_iff.mp hpure
  have hreturned : ∀ result ∈ tag l false (found.map .resource),
      ∃ x, result.item = .resource x ∧ r.Returned c.host x := by
    intro result hresult
    obtain ⟨x, hx, hitem⟩ := exists_of_mem_tag hresult
    exact ⟨x, hitem, c.parentReference?, l, found, hx, Or.inl hfound⟩
  cases profiles with
  | none =>
      obtain rfl := pure_eq_ok_iff.mp h
      exact hreturned
  | some profiles =>
      simp only [Resolver.resolveProfiles, Probe.outcome_bind] at h
      obtain ⟨_, hlater, h⟩ := bind_eq_ok_iff.mp h
      obtain ⟨more, hmore, hpure⟩ := bind_eq_ok_iff.mp hlater
      obtain rfl := pure_eq_ok_iff.mp hpure
      obtain rfl := pure_eq_ok_iff.mp h
      refine List.forall_mem_append.mpr ⟨hreturned, fun result hresult => ?_⟩
      obtain ⟨x, hx, hitem⟩ := exists_of_mem_tag hresult
      exact ⟨x, hitem, c.parentReference?, l, more, hx, Or.inr ⟨profiles, hmore⟩⟩

namespace StandardResolver

/-- Only a file that a mandatory location names may come back missing, and never in a pass for
profiles. Reading results reports a missing resource for such a file alone, unless the loader of a
resource that is there reports one. -/
theorem missing_only_if_named (r : StandardResolver) (host : Host) :
    (∀ parent l profiles found, (r.resolvePass host parent l profiles).outcome = .ok found →
      ∀ x ∈ found, x.Stands host ∧ (profiles.isSome = true → x.handle.exists? host = .ok true))
    ∧ ∀ results : List Resolution,
        (∀ result ∈ results, ∃ x, result.item = .resource x ∧ r.Returned host x) →
        ∀ resource location,
          Resolution.loadAll host results = .error (.resourceNotFound resource location) →
          ∃ result ∈ results, result.Reports host resource location := by
  constructor
  · intro parent l profiles found h x hx
    rw [resolvePass_eq] at h
    obtain ⟨t, ht, hfound⟩ := foundFor_of_mem_resolveTargets h hx
    refine ⟨hfound.stands, fun hprofiles => ?_⟩
    have hprofile : x.reference.profile.isSome = true := by
      rw [hfound.profile_eq]
      exact (Location.mem_targets ht).2 hprofiles
    refine hfound.stands.exists_of_not_isNamedFile fun hnamed => ?_
    rw [hnamed.no_profile] at hprofile
    cases hprofile
  · intro results hresults resource location h
    obtain ⟨result, hfirst⟩ := Resolution.loadAll_eq_error_iff.mp h
    obtain ⟨x, hitem, hreturned⟩ := hresults result hfirst.mem
    exact ⟨result, hfirst.mem,
      Resolution.reports_of_sources hitem hreturned.stands hfirst.eq_error⟩

/-- In an empty tree a pass hands out the file that it names, and reading it reports that. -/
theorem missing_only_if_named_app :
    ∃ results, (Registry.resolveWith ⟨emptyHost, none, none⟩ ⟨"app.yml", false, none⟩
        (some ["dev"]) (.standard sampleResolver)).outcome = .ok results
      ∧ ∃ result ∈ results,
        result.Reports emptyHost "file [/app.yml]" (some ⟨"app.yml", false, none⟩) := by
  have hresults : (Registry.resolveWith ⟨emptyHost, none, none⟩ ⟨"app.yml", false, none⟩
      (some ["dev"]) (.standard sampleResolver)).outcome = .ok _ := rfl
  exact ⟨_, hresults, (missing_only_if_named sampleResolver emptyHost).2 _
    (Registry.returned_of_resolveWith hresults) _ _ rfl⟩

end StandardResolver

end ConfigLocator

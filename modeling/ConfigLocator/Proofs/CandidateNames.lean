import ConfigLocator.Proofs.BeyondStore

/-!
# What candidates are called

The text of a candidate is that of a directory with a name, or what is left of a file without its
extension, and behind that the profile and the extension (`Reference.resourceLocation_eq`). Both begin
with a mark, and neither mark occurs in the scheme of packages. So no candidate lies in a package unless
its location does (`StandardResolver.startsWith_of_mem_references`), and what is found in a package is
found for a location in it (`StandardResolver.startsWith_of_found`).
-/

namespace ConfigLocator

/-- What a profile adds to a root; the empty one adds nothing. -/
def profileSuffix (profile : Text) : Text :=
  if profile = [] then [] else Reference.profileMark :: profile

/-- What an extension adds to that. -/
def extensionEnding (extension : Option Text) : Text :=
  match extension with
  | none => []
  | some extension => Path.dot :: extension

theorem Reference.resourceLocation_eq (x : Reference) :
    x.resourceLocation = x.root ++ profileSuffix (x.profile.getD []) ++ extensionEnding x.extension := by
  obtain ⟨location, directory, root, profile, extension, loader⟩ := x
  rcases profile with _ | _ | ⟨c, p⟩ <;> cases extension <;> rfl

/-! ## The scheme of packages -/

/-- A leading piece is not behind a character that it has not. -/
theorem prefix_of_prefix_append {head s more : Text} (h : head <+: s ++ more)
    (hmore : ∀ c ∈ more.head?, c ∉ head) : head <+: s := by
  cases more with
  | nil => rwa [List.append_nil] at h
  | cons c rest => exact Text.prefix_of_prefix_append_cons h (hmore c rfl)

/-- Neither a profile nor an extension makes a package of a root. -/
theorem Reference.packageScheme_prefix_root {x : Reference}
    (h : packageScheme <+: x.resourceLocation) : packageScheme <+: x.root := by
  rw [resourceLocation_eq] at h
  refine prefix_of_prefix_append (prefix_of_prefix_append h fun c hc => ?_) fun c hc => ?_
  · unfold extensionEnding at hc
    split at hc <;> cases hc
    decide
  · unfold profileSuffix at hc
    split at hc <;> cases hc
    decide

/-- A text that names a file in a package is in it with the mark of a hint as well. -/
theorem packageScheme_prefix_of_namedFile {text : Text}
    (h : packageScheme <+: StandardResolver.namedFile text) : packageScheme <+: text := by
  unfold StandardResolver.namedFile at h
  split at h
  · rename_i base extension hhint
    obtain ⟨hbase, -, word, rfl⟩ := splitHint?_eq_some hhint
    have hbefore := Text.prefix_of_prefix_append_cons h (by decide)
    exact hbefore.trans ((List.prefix_append base _).trans hbase)
  · exact h

/-- The package of a handle, none for a path of the file system. -/
def Handle.package? : Handle → Option Text
  | file _ => none
  | package name _ => some name

namespace StandardResolver

variable {r : StandardResolver} {host : Host} {parent : Option Reference} {l : Location}

theorem root_prefix_namedFile {text : Text} {profile : Option Text} {x : Reference}
    (h : r.fileReference l text profile = .ok x) : x.root <+: namedFile text := by
  rw [fileReference_eq] at h
  obtain ⟨found, -, h⟩ := bind_eq_ok_iff.mp h
  rcases found with _ | ⟨loader, e⟩
  · cases h
  · obtain rfl := Except.ok.inj h
    exact List.take_prefix _ _

/-- A candidate lies in a package only if its location does. -/
theorem startsWith_of_mem_references {t : Target} {refs : References} {x : Reference}
    (hrefs : r.references parent t = .ok refs) (hx : x ∈ refs.items)
    (h : Text.startsWith x.resourceLocation packageScheme = true) :
    Text.startsWith (resourceLocation parent t.location) packageScheme = true := by
  rw [Text.startsWith_iff] at h
  have hroot := Reference.packageScheme_prefix_root h
  rcases references_eq_ok hrefs with ⟨hdirectory, hlist⟩ | ⟨-, y, hfile, hitems⟩
  · obtain ⟨name, -, pairs, -, pair, -, rfl⟩ := mem_directoryReferences hlist hx
    have hslash : slash ∈ resourceLocation parent t.location := Text.mem_of_endsWith hdirectory
    rwa [candidate, ← Text.startsWith_iff, Text.startsWith_append hslash (by decide)] at hroot
  · obtain rfl : x = y := by simpa [hitems] using hx
    rw [Text.startsWith_iff]
    exact packageScheme_prefix_of_namedFile (hroot.trans (root_prefix_namedFile hfile))

theorem startsWith_of_found {targets : List Target} {found : List Resource}
    (h : (r.resolveTargets host parent targets).outcome = .ok found) {x : Resource} (hx : x ∈ found)
    {name : Text} (hname : name ∈ x.handle.package?) :
    ∃ t ∈ targets, Text.startsWith (resourceLocation parent t.location) packageScheme = true := by
  obtain ⟨t, ht, hfor⟩ := foundFor_of_mem_resolveTargets h hx
  refine ⟨t, ht, ?_⟩
  cases hfor with
  | placeholder _ _ _ hlist hin =>
      obtain ⟨-, -, -, path, hpath, -⟩ := mem_placeholders hlist hin
      rw [hpath] at hname
      cases hname
  | probed hrefs hreference _ hlist hin =>
      rcases probe_eq_ok hlist with ⟨-, hnone⟩ | ⟨-, handles, hhandles, -, hfound⟩ |
        ⟨-, handle, isThere, hhandle, -, hfound⟩
      · rw [hnone] at hin
        cases hin
      · rw [hfound] at hin
        obtain ⟨handle, hhandle, hx⟩ := List.mem_map.mp hin
        obtain ⟨path, rfl⟩ := Store.file_of_mem_expand hhandles hhandle
        rw [← hx] at hname
        cases hname
      · refine startsWith_of_mem_references hrefs hreference ?_
        rw [hfound] at hin
        split at hin
        · cases hin
        · rw [List.mem_singleton.mp hin] at hname
          cases handle with
          | file path => cases hname
          | package other path => exact Store.startsWith_of_handle_eq_package hhandle

end StandardResolver

end ConfigLocator

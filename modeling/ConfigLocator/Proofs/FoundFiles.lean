import ConfigLocator.Proofs.BeyondStore
import ConfigLocator.Proofs.Existence
import ConfigLocator.Proofs.Repeats

/-!
# Found files

A candidate is looked for in one of two ways. A pattern stands for regular files only, but of a
candidate without a wildcard the store is asked just whether anything is there, so a directory of its
name is taken for it (`StandardResolver.TakenByDirectory`).

`StandardResolver.resolvePass_files` says that this is the only way in which something that is no file
is found where directories and patterns are searched: a pass finds nothing but files exactly when none
of its candidates is taken by a directory, and a target without files and without such directories
falls back on its placeholders.
-/

namespace ConfigLocator

/-! ## Regular files -/

theorem Handle.not_isFile_of_directory {host : Host} {handle : Handle}
    (h : handle.entry? host = .ok (some .directory)) : ¬handle.IsFile host := by
  rintro ⟨content, hfile, -⟩
  rw [h] at hfile
  cases hfile

/-- Whatever is there is a regular file or a directory. -/
theorem Handle.isFile_or_directory {host : Host} {handle : Handle}
    (h : handle.exists? host = .ok true) :
    handle.IsFile host ∨ handle.entry? host = .ok (some .directory) := by
  obtain ⟨entry, hentry, h⟩ := bind_eq_ok_iff.mp h
  cases entry with
  | none => cases h
  | some entry =>
      cases entry with
      | directory => exact Or.inr hentry
      | file content => exact Or.inl (isFile_of_entry_file hentry)

/-- A regular file is handed to its loader. -/
theorem Resource.load_of_isFile {host : Host} {x : Resource} (h : x.handle.IsFile host)
    (hfile : x.isPlaceholder = false) (location : Option Location) :
    x.load host location = x.reference.loader.load host (x.sourceName host) x.handle := by
  rw [Resource.load, hfile, h.exists?]
  rfl

namespace StandardResolver

variable {r : StandardResolver} {host : Host} {parent : Option Reference} {l : Location}

/-! ## One candidate -/

/-- A directory has the name of a candidate that is looked up as it is. -/
structure TakenByDirectory (r : StandardResolver) (host : Host) (x : Reference) : Prop where
  plain : isPattern x.resourceLocation = false
  directory : ∃ handle, r.store.handle x.resourceLocation = .ok handle
    ∧ handle.entry? host = .ok (some .directory)

/-- A candidate that was guessed in a directory, or a pattern. -/
def IsSearched (x : Reference) : Prop :=
  x.directory.isSome = true ∨ isPattern x.resourceLocation = true

section Candidate

variable {x : Reference} {list : List Resource}

theorem isFile_or_taken (hsearched : IsSearched x) (h : (r.probe host x).outcome = .ok list)
    {a : Resource} (ha : a ∈ list) : a.handle.IsFile host ∨ r.TakenByDirectory host x := by
  rcases probe_eq_ok h with
    ⟨-, rfl⟩ | ⟨-, handles, hhandles, -, rfl⟩ | ⟨hplain, handle, isThere, hhandle, hexists, rfl⟩
  · cases ha
  · obtain ⟨handle, hhandle, rfl⟩ := List.mem_map.mp ha
    exact Or.inl (Store.isFile_of_mem_expand hhandles hhandle)
  · have hskip : x.isSkippable = true := by
      simp [Reference.isSkippable, hsearched.resolve_right (by simp [hplain])]
    cases isThere with
    | false =>
        rw [hskip] at ha
        cases ha
    | true =>
        obtain rfl := List.mem_singleton.mp ha
        rcases Handle.isFile_or_directory hexists with hfile | hdirectory
        · exact Or.inl hfile
        · exact Or.inr ⟨hplain, handle, hhandle, hdirectory⟩

/-- A directory that takes a candidate is found for it. -/
theorem TakenByDirectory.probe (h : r.TakenByDirectory host x) :
    ∃ handle, handle.entry? host = .ok (some .directory)
      ∧ (r.probe host x).outcome = .ok [⟨x, handle, false⟩] := by
  obtain ⟨hplain, handle, hhandle, hentry⟩ := h
  have hbeyond : isBeyondStore x = false := by
    simp [isBeyondStore, Store.supported_of_handle hhandle]
  have hexists : handle.exists? host = .ok true := by
    rw [Handle.exists?, hentry]
    rfl
  exact ⟨handle, hentry, (probe_entry_eq_ok_iff hbeyond hplain).mpr ⟨handle, true, hhandle, hexists, rfl⟩⟩

end Candidate

/-! ## Targets that are searched -/

/-- A target is a directory, or a file that is looked for with a pattern. -/
inductive Searches (r : StandardResolver) (parent : Option Reference) (t : Target) : Prop
  | directory (h : Path.isDirectoryText (resourceLocation parent t.location) = true)
  | files (h : ∀ x, r.fileReference t.location (resourceLocation parent t.location) t.profile = .ok x →
      isPattern x.resourceLocation = true)

theorem Searches.isSearched {t : Target} (h : r.Searches parent t) {refs : References}
    (hrefs : r.references parent t = .ok refs) {x : Reference} (hx : x ∈ refs.items) :
    IsSearched x := by
  rcases references_eq_ok hrefs with ⟨-, hlist⟩ | ⟨hopen, y, hfile, hitems⟩
  · obtain ⟨name, -, pairs, -, pair, -, rfl⟩ := mem_directoryReferences hlist hx
    exact Or.inl rfl
  · obtain rfl : x = y := by simpa [hitems] using hx
    cases h with
    | directory hdirectory =>
        rw [hopen] at hdirectory
        cases hdirectory
    | files hpattern => exact Or.inr (hpattern x hfile)

/-- The wildcard of a text is not in its hint. -/
theorem mem_namedFile_of_isPattern {text : Text} (h : isPattern text = true) :
    wildcard ∈ namedFile text := by
  have hmem : wildcard ∈ text := List.contains_iff_mem.mp h
  unfold namedFile
  split
  · rename_i base extension hhint
    obtain ⟨ending, rfl, hending⟩ := eq_of_splitHint? hhint
    have hout : wildcard ∉ ending := fun hin => by
      rcases hending wildcard hin with hclose | hline
      · exact absurd hclose (by decide)
      · exact absurd hline (by decide)
    have hmark : wildcard ≠ hintMark := by decide
    simp only [List.mem_append, List.mem_cons, hmark, hout, or_false, false_or] at hmem ⊢
    exact hmem
  · exact hmem

/-- A location with a wildcard is searched, as long as extensions are in ASCII and have none. -/
theorem searches_of_isPattern
    (hextensions : ∀ loader ∈ r.loaders, ∀ own, loader.extensions = .ok own →
      ∀ e ∈ own, e ≠ [] ∧ (∀ c ∈ e, c < 0x80) ∧ isPattern e = false) {t : Target}
    (hpattern : isPattern (resourceLocation parent t.location) = true) : r.Searches parent t := by
  refine .files fun x hfile => ?_
  obtain ⟨loader, hloader, own, hown, e, he, written, hparts, hwritten, -⟩ :=
    exists_root_of_fileReference (fun loader hloader own hown e he =>
      have hplain := hextensions loader hloader own hown e he
      ⟨hplain.1, hplain.2.1⟩) hfile
  have hmem := mem_namedFile_of_isPattern hpattern
  have hroot : wildcard ∈ x.root := by
    rw [hparts] at hmem
    rcases List.mem_append.mp hmem with hroot | hrest
    · exact hroot
    · rcases List.mem_cons.mp hrest with hdot | hin
      · exact absurd hdot (by decide)
      · have hplain := (hextensions loader hloader own hown e he).2.2
        rw [isPattern, List.contains_iff_mem.mpr (hwritten wildcard (by decide) hin)] at hplain
        cases hplain
  obtain ⟨more, htext, -⟩ := exists_resourceLocation x
  rw [htext, isPattern, List.contains_iff_mem]
  exact List.mem_append_left more hroot

/-! ## A target without files -/

/-- No regular file is found for any of the candidates. -/
def LacksFiles (r : StandardResolver) (host : Host) (group : List Reference) : Prop :=
  ∀ x ∈ group, ∀ list, (r.probe host x).outcome = .ok list → ∀ a ∈ list, ¬a.handle.IsFile host

/-- Nothing is found for candidates that no file and no directory stands for. -/
theorem resolveGroup_of_lacksFiles {group : List Reference} (hsearched : ∀ x ∈ group, IsSearched x)
    (hlacks : r.LacksFiles host group) (hfree : ∀ x ∈ group, ¬r.TakenByDirectory host x)
    {part : List Resource} (h : r.resolveGroup host group = .ok part) :
    ∃ empty, r.groupPlaceholders host group = .ok empty ∧ part = empty.items := by
  rcases resolveGroup_eq_ok h with ⟨hfound, hne⟩ | ⟨-, hempty⟩
  · obtain ⟨a, rest, rfl⟩ := List.exists_cons_of_ne_nil hne
    obtain ⟨x, hx, list, hlist, ha⟩ := Probe.exists_of_mem_collect hfound List.mem_cons_self
    rcases isFile_or_taken (hsearched x hx) hlist ha with hfile | htaken
    · exact absurd hfile (hlacks x hx list hlist a ha)
    · exact absurd htaken (hfree x hx)
  · exact hempty

end StandardResolver

/-- Of each placeholder one stays that stands for its directory. -/
theorem Resource.exists_mem_withoutRepeats {host : Host} {xs : List Resource} {x : Resource}
    {d : Text} (hx : x ∈ xs) (hd : x.placeholderDirectory? host = some d) (seen : List Text) :
    d ∈ seen ∨ ∃ y ∈ withoutRepeats host seen xs, y.placeholderDirectory? host = some d := by
  induction xs generalizing seen with
  | nil => cases hx
  | cons z rest ih =>
      unfold withoutRepeats
      split
      · rename_i hnone
        rcases List.mem_cons.mp hx with rfl | hx
        · rw [hnone] at hd
          cases hd
        · exact (ih hx seen).imp_right fun ⟨y, hy, hyd⟩ => ⟨y, List.mem_cons_of_mem z hy, hyd⟩
      · rename_i directory hdirectory
        rcases List.mem_cons.mp hx with rfl | hx
        · obtain rfl := Option.some.inj (hd.symm.trans hdirectory)
          split
          · exact Or.inl ‹_›
          · exact Or.inr ⟨x, List.mem_cons_self, hd⟩
        · split
          · exact ih hx seen
          · rcases ih hx (directory :: seen) with hseen | ⟨y, hy, hyd⟩
            · rcases List.mem_cons.mp hseen with rfl | hseen
              · exact Or.inr ⟨z, List.mem_cons_self, hdirectory⟩
              · exact Or.inl hseen
            · exact Or.inr ⟨y, List.mem_cons_of_mem z hy, hyd⟩

namespace StandardResolver

variable {r : StandardResolver} {host : Host} {parent : Option Reference} {l : Location}

/-! ## The pass -/

section Pass

variable {profiles : Option (List Text)} {found : List Resource}
  (hsearches : ∀ t ∈ l.targets profiles, r.Searches parent t)
  (h : (r.resolvePass host parent l profiles).outcome = .ok found)

include hsearches h

theorem isFile_or_taken_of_mem {a : Resource} (ha : a ∈ found) (hfile : a.isPlaceholder = false) :
    a.handle.IsFile host ∨ r.TakenByDirectory host a.reference := by
  obtain ⟨⟨t, ht, refs, hrefs, hx⟩, list, hlist, hin⟩ := exists_probe_of_mem h ha hfile
  exact isFile_or_taken ((hsearches t ht).isSearched hrefs hx) hlist hin

theorem forall_isFile_iff :
    (∀ a ∈ found, a.isPlaceholder = false → a.handle.IsFile host) ↔
      ∀ x, r.PassLists parent l profiles x → ¬r.TakenByDirectory host x := by
  constructor
  · intro hall x hx htaken
    obtain ⟨handle, hentry, hlist⟩ := htaken.probe
    have hfound := mem_resolvePass_of_probe h hx hlist List.mem_cons_self
    exact Handle.not_isFile_of_directory hentry (hall _ hfound rfl)
  · intro hfree a ha hfile
    exact (isFile_or_taken_of_mem hsearches h ha hfile).resolve_right
      (hfree _ (exists_probe_of_mem h ha hfile).1)

/-- A target without files falls back on its placeholders, each of which is returned by it or by a
target before. -/
theorem falls_back {t : Target} (ht : t ∈ l.targets profiles) {refs : References}
    (hrefs : r.references parent t = .ok refs) (hlacks : r.LacksFiles host refs.items)
    (hfree : ∀ x ∈ refs.items, ¬r.TakenByDirectory host x) :
    ∃ empty, r.groupPlaceholders host refs.items = .ok empty
      ∧ (r.resolveTargets host parent [t]).outcome = .ok empty.items
      ∧ ∀ p ∈ empty.items, ∃ q ∈ found, q.same host p = true := by
  obtain ⟨parts, rfl, part, hpart, _, ⟨refs', hrefs', rfl⟩, hgroup⟩ := exists_comes_of_mem_targets h ht
  obtain rfl := Except.ok.inj (hrefs.symm.trans hrefs')
  obtain ⟨empty, hempty, rfl⟩ := resolveGroup_of_lacksFiles
    (fun x hx => (hsearches t ht).isSearched hrefs hx) hlacks hfree hgroup
  refine ⟨empty, hempty, (resolveTargets_singleton hrefs).trans hgroup, fun p hp => ?_⟩
  obtain ⟨d, hd⟩ := placeholderDirectory?_of_mem_groupPlaceholders hempty p hp
  have hflat : p ∈ parts.flatten := List.mem_flatten.mpr ⟨_, hpart, hp⟩
  obtain ⟨q, hq, hqd⟩ := (Resource.exists_mem_withoutRepeats hflat hd []).resolve_left List.not_mem_nil
  exact ⟨q, hq, (Resource.same_iff_directory hqd hd).mpr rfl⟩

end Pass

/-- Where directories and patterns are searched, what a pass finds is a regular file, which reaches its
loader, or a directory of the name of a candidate. There is none of these exactly when no candidate is
taken by a directory; and a target that has neither falls back on its placeholders. -/
theorem resolvePass_files (r : StandardResolver) (host : Host) (parent : Option Reference)
    (l : Location) (profiles : Option (List Text)) {found : List Resource}
    (hsearches : ∀ t ∈ l.targets profiles, r.Searches parent t)
    (h : (r.resolvePass host parent l profiles).outcome = .ok found) :
    (∀ x ∈ found, x.isPlaceholder = false →
        (x.handle.IsFile host ∧ ∀ location, x.load host location =
            x.reference.loader.load host (x.sourceName host) x.handle)
          ∨ r.TakenByDirectory host x.reference)
      ∧ ((∀ x ∈ found, x.isPlaceholder = false → x.handle.IsFile host) ↔
        ∀ y, r.PassLists parent l profiles y → ¬r.TakenByDirectory host y)
      ∧ ∀ t ∈ l.targets profiles, ∀ refs, r.references parent t = .ok refs →
        r.LacksFiles host refs.items → (∀ y ∈ refs.items, ¬r.TakenByDirectory host y) →
        ∃ empty, r.groupPlaceholders host refs.items = .ok empty
          ∧ (r.resolveTargets host parent [t]).outcome = .ok empty.items
          ∧ ∀ p ∈ empty.items, ∃ q ∈ found, q.same host p = true := by
  refine ⟨fun x hx hfile => ?_, forall_isFile_iff hsearches h,
    fun t ht refs hrefs hlacks hfree => falls_back hsearches h ht hrefs hlacks hfree⟩
  exact (isFile_or_taken_of_mem hsearches h hx hfile).imp_left fun hregular =>
    ⟨hregular, Resource.load_of_isFile hregular hfile⟩

/-- A directory has the name of a candidate, and beside it is one with a file of that name. -/
def takenHost : Host where
  tree := ⟨[(["ws"], .directory), (["ws", "config"], .directory),
    (["ws", "config", "application.yml"], .directory), (["ws", "config", "a"], .directory),
    (["ws", "config", "a", "application.yml"], .file [])]⟩
  workingDirectory := ["ws"]
  environment := []

theorem resolvePass_files_taken : ∃ found,
    (sampleResolver.resolvePass takenHost none
        ⟨"config/;config/*/application.yml", false, none⟩ none).outcome = .ok found
      ∧ ¬∀ x ∈ found, x.isPlaceholder = false → x.handle.IsFile takenHost := by
  refine ⟨_, rfl, fun hall => ?_⟩
  have hsearches : ∀ t ∈ (⟨"config/;config/*/application.yml", false, none⟩ : Location).targets none,
      sampleResolver.Searches none t := by
    intro t ht
    rcases List.mem_cons.mp ht with rfl | ht
    · exact .directory (by decide)
    · obtain rfl := List.mem_singleton.mp ht
      refine searches_of_isPattern (fun loader hloader own hown e he => ?_) (by decide)
      obtain rfl := List.mem_singleton.mp hloader
      obtain rfl := Except.ok.inj hown
      obtain rfl := List.mem_singleton.mp he
      decide
  have hfree := (resolvePass_files sampleResolver takenHost none
    ⟨"config/;config/*/application.yml", false, none⟩ none hsearches rfl).2.1.mp hall
  exact hfree (patternCandidate "config/")
    ⟨⟨⟨"config/", false, none⟩, none⟩, List.mem_cons_self, _, rfl, List.mem_cons_self⟩
    ⟨by decide, _, rfl, rfl⟩

/-- Of the two only the pattern passes the directory over. -/
example : (sampleResolver.resolve takenHost none
      ⟨"config/;config/*/application.yml", false, none⟩).outcome.map
        (fun found => found.map fun x => (x.isPlaceholder, x.display takenHost)) =
    .ok [(false, "directory [/ws/config/application.yml]"),
      (false, "file [/ws/config/a/application.yml]")] := rfl

end StandardResolver

end ConfigLocator

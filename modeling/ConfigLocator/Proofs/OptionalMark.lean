import ConfigLocator.Proofs.DirectoryScan
import ConfigLocator.Proofs.FileNames
import ConfigLocator.Proofs.Patterns
import ConfigLocator.Proofs.Softening

/-!
# The optional mark

The mark turns missing data into nothing, and changes nothing else. It is read in four places: a
missing entry is passed over, a location beyond the store counts as missing, and a pattern may stand
for no files or for no subdirectories. Every step of resolution is softened by it
(`StandardResolver.softens_probe`, `StandardResolver.softens_placeholders`). Where steps are taken one
after the other, a guessed candidate is never the reason why a location is not found
(`StandardResolver.neverMissing_probe`), and if the subdirectories of a pattern are, they are so for
every candidate (`StandardResolver.softens_groupPlaceholders`).
-/

namespace ConfigLocator

/-! ## The mark in a text -/

/-- The mark makes a mandatory location optional. -/
theorem Location.of?_optionalMark {s : Text} {origin : Option Text} {l : Location}
    (h : of? s origin = some l) (hmandatory : l.isOptional = false) :
    of? (optionalMark ++ s) origin = some { l with isOptional := true } := by
  rw [of?, Text.dropLeading?_append]
  unfold of? at h
  split at h
  · split at h <;> cases h
    cases hmandatory
  · split at h
    · cases h
    · cases h
      dsimp only
      rw [if_neg ‹_›]

namespace StandardResolver

variable {r : StandardResolver} {host : Host} {o : Location} {x : Reference}

/-! ## One reference -/

theorem lookUp_of_isPattern (hbeyond : isBeyondStore x = false)
    (hpattern : isPattern x.resourceLocation = true) :
    r.lookUp host x = (r.store.expand host x.resourceLocation .files >>= fun handles =>
      if handles.isEmpty && !x.isSkippable then
        .error (.locationNotFound (some x.location)
          (some ("Config data location '" ++ x.location.toText ++ "' contains no files matching '" ++
            x.resourceLocation ++ "'")))
      else .ok (handles.map (⟨x, ·, false⟩))) := by
  rw [lookUp, if_neg (by simp [hbeyond]), if_pos hpattern, probePattern, Probe.outcome_bind,
    Probe.outcome_ofExcept]
  congr 1
  funext handles
  split <;> rfl

theorem lookUp_of_not_isPattern (hbeyond : isBeyondStore x = false)
    (hpattern : isPattern x.resourceLocation = false) :
    r.lookUp host x = (storeFault (r.store.handle x.resourceLocation) >>= fun handle =>
      handle.exists? host >>= fun isThere =>
        .ok (if !isThere && x.isSkippable then [] else [⟨x, handle, false⟩])) := by
  rw [lookUp, if_neg (by simp [hbeyond]), if_neg (by simp [hpattern]), probeEntry]
  simp only [Probe.outcome_bind, Probe.outcome_ofExcept]
  congr 1
  funext handle
  congr 1
  funext isThere
  split <;> rfl

/-- What a mandatory reference is found to be, without what is missing. -/
theorem softens_lookUp (hmandatory : x.location.isOptional = false) (hoptional : o.isOptional = true)
    (hsupported : isSupported x.resourceLocation = true) :
    Softens host o (r.lookUp host x) (r.lookUp host (x.relocate o)) := by
  have hbeyond : isBeyondStore x = false := by simp [isBeyondStore, hmandatory]
  have hbeyond' : isBeyondStore (x.relocate o) = false := by
    have hsame : isSupported (x.relocate o).resourceLocation = true := hsupported
    simp [isBeyondStore, hsame]
  have hskip' : (x.relocate o).isSkippable = true := by
    simp [Reference.isSkippable, Reference.relocate, hoptional]
  cases hpattern : isPattern x.resourceLocation with
  | true =>
      rw [lookUp_of_isPattern hbeyond hpattern, lookUp_of_isPattern hbeyond' hpattern]
      refine .ask (fun fault => Store.isResolution_of_expand) fun handles hhandles => ?_
      rw [hskip', Bool.not_true, Bool.and_false, if_neg Bool.false_ne_true]
      have hpresent : ∀ y ∈ handles.map (⟨x, ·, false⟩ : Handle → Resource),
          y.handle.isPresent host = true := by
        intro y hy
        obtain ⟨handle, hhandle, rfl⟩ := List.mem_map.mp hy
        exact Handle.isPresent_of_exists? (Store.exists_of_mem_expand_files hhandles hhandle)
      have hsame : Resource.softened host o (handles.map (⟨x, ·, false⟩)) =
          handles.map (⟨x.relocate o, ·, false⟩) := by
        rw [Resource.softened_of_present hpresent, List.map_map]
        rfl
      split
      · rename_i hnone
        obtain rfl : handles = [] := by simpa using (Bool.and_eq_true_iff.mp hnone).1
        exact .nothing rfl
      · exact .of_softened hsame
  | false =>
      rw [lookUp_of_not_isPattern hbeyond hpattern, lookUp_of_not_isPattern hbeyond' hpattern]
      refine .ask (fun fault => isResolution_of_storeFault) fun handle _ => ?_
      refine .ask (fun fault => Handle.isResolution_of_exists?) fun isThere hexists => ?_
      have hpresent : handle.isPresent host = isThere := Handle.isPresent_of_exists? hexists
      have hsame : Resource.softened host o
          (if !isThere && x.isSkippable then [] else [⟨x, handle, false⟩]) =
            if !isThere && (x.relocate o).isSkippable then [] else [⟨x.relocate o, handle, false⟩] := by
        rw [hskip']
        cases isThere <;> cases x.isSkippable <;>
          simp [Resource.softened, hpresent, Resource.relocate]
      exact .of_softened hsame

theorem softens_probe (hmandatory : x.location.isOptional = false) (hoptional : o.isOptional = true)
    (hsupported : isSupported x.resourceLocation = true) :
    Softens host o (r.probe host x).outcome (r.probe host (x.relocate o)).outcome := by
  rw [outcome_probe, outcome_probe]
  exact (softens_lookUp hmandatory hoptional hsupported).wrap x.location

/-- A guessed candidate is never the reason why a location is not found. -/
theorem neverMissing_probe (hskip : x.isSkippable = true) :
    NeverMissing (r.probe host x).outcome := by
  intro fault hfault
  rw [outcome_probe, wrapFaults_eq_error_iff] at hfault
  obtain ⟨original, horiginal, rfl⟩ := hfault
  rcases lookUp_eq_error horiginal with hrefused | ⟨hnot, -⟩
  · exact Fault.found_wrap_of_not_isResolution hrefused _
  · rw [hskip] at hnot
    cases hnot

/-! ## Placeholders -/

theorem softens_patternPlaceholders (hmandatory : x.location.isOptional = false)
    (hoptional : o.isOptional = true) (directory : Text) :
    Softens host o (r.patternPlaceholders host x directory)
      (r.patternPlaceholders host (x.relocate o) directory) := by
  refine .ask (fun fault => Store.isResolution_of_expand) fun handles hhandles => ?_
  have hoptional' : (x.relocate o).location.isOptional = true := hoptional
  rw [filterM_eq_filter (Store.exists?_of_mem_expand hhandles), hmandatory, hoptional', Bool.not_true,
    Bool.not_false, Bool.true_and, Bool.false_and, if_neg Bool.false_ne_true]
  split
  · rename_i hnone
    obtain rfl : handles = [] := List.isEmpty_iff.mp hnone
    exact .nothing rfl
  · have hpresent : ∀ y ∈ (handles.filter (Handle.isThere host)).map
        (⟨x, ·, true⟩ : Handle → Resource), y.handle.isPresent host = true := by
      intro y hy
      obtain ⟨handle, hhandle, rfl⟩ := List.mem_map.mp hy
      obtain ⟨hmem, hthere⟩ := List.mem_filter.mp hhandle
      rw [Handle.isPresent_of_exists? (Store.exists?_of_mem_expand hhandles handle hmem), hthere]
    have hsame : Resource.softened host o ((handles.filter (Handle.isThere host)).map (⟨x, ·, true⟩)) =
        (handles.filter (Handle.isThere host)).map (⟨x.relocate o, ·, true⟩) := by
      rw [Resource.softened_of_present hpresent, List.map_map]
      rfl
    exact .of_softened hsame

theorem softens_entryPlaceholder (directory : Text) :
    Softens host o (r.entryPlaceholder host x directory)
      (r.entryPlaceholder host (x.relocate o) directory) := by
  refine .ask (fun fault => isResolution_of_storeFault) fun handle _ => ?_
  cases handle with
  | package name path => exact .found []
  | file path =>
      refine .ask (fun fault => Handle.isResolution_of_isDirectory?) fun isDirectory hdirectory => ?_
      cases isDirectory with
      | false => exact .found []
      | true =>
          have hlookup := Handle.isDirectory?_file_eq_true.mp hdirectory
          have hpresent := Handle.isPresent_file_of_lookup hlookup
          have hsame : Resource.softened host o [⟨x, .file path, true⟩] =
              [⟨x.relocate o, .file path, true⟩] := by
            simp [Resource.softened, hpresent, Resource.relocate]
          exact .of_softened hsame

theorem softens_placeholders (hmandatory : x.location.isOptional = false)
    (hoptional : o.isOptional = true) :
    Softens host o (r.placeholders host x) (r.placeholders host (x.relocate o)) := by
  rw [placeholders_eq, placeholders_eq]
  refine Softens.wrap ?_ x.location
  have hsame : (x.relocate o).directory = x.directory := rfl
  rw [standIns, standIns, hsame]
  cases x.directory with
  | none => exact .found []
  | some directory =>
      dsimp only
      split
      · exact .found []
      · show Softens host o (if isPattern x.resourceLocation = true then _ else _)
          (if isPattern x.resourceLocation = true then _ else _)
        split
        · exact softens_patternPlaceholders hmandatory hoptional directory
        · exact softens_entryPlaceholder directory

theorem isPresent_of_mem_placeholders {list : List Resource} (h : r.placeholders host x = .ok list)
    {y : Resource} (hy : y ∈ list) : y.handle.isPresent host = true := by
  obtain ⟨-, -, -, path, hpath, hlookup⟩ := mem_placeholders h hy
  rw [hpath]
  exact Handle.isPresent_file_of_lookup hlookup

/-! ## The placeholders of a scan -/

/-- References that scan one directory. -/
def Scans (group : List Reference) (directory : Text) : Prop :=
  ∀ x ∈ group, x.directory = some directory ∧ ∃ more, x.resourceLocation = directory ++ more

theorem patternPlaceholders_of_lacks {directory : Text}
    (hlacks : r.LacksSubdirectories host directory) :
    r.patternPlaceholders host x directory =
      if x.location.isOptional then .ok []
      else .error (.locationNotFound (some x.location)
        (some ("Config data location '" ++ x.location.toText ++ "' contains no subdirectories"))) := by
  rw [patternPlaceholders, hlacks.2]
  show (if (!x.location.isOptional && true) = true then _ else _) = _
  cases x.location.isOptional <;> rfl

theorem standIns_eq_patternPlaceholders {directory : Text} (hdirectory : x.directory = some directory)
    (htext : ∃ more, x.resourceLocation = directory ++ more)
    (hlacks : r.LacksSubdirectories host directory) :
    r.standIns host x = r.patternPlaceholders host x directory := by
  obtain ⟨hsupported, hexpand⟩ := hlacks
  obtain ⟨more, hmore⟩ := htext
  have hpattern : isPattern directory = true :=
    (Store.checkPattern_eq_ok_iff.mp (Store.checkPattern_of_expand hexpand)).1
  have hpattern' : isPattern x.resourceLocation = true := by
    rw [hmore]
    simp only [isPattern, List.contains_iff_mem] at hpattern ⊢
    exact List.mem_append_left more hpattern
  rw [standIns, hdirectory]
  dsimp only
  rw [if_neg (by simp [hsupported]), if_pos hpattern']

/-- A location is not found only if its pattern stands for nothing. -/
theorem neverMissing_placeholders {directory : Text} (hdirectory : x.directory = some directory)
    (hlacks : ¬r.LacksSubdirectories host directory) : NeverMissing (r.placeholders host x) := by
  intro fault hfault
  rw [placeholders_eq, wrapFaults_eq_error_iff] at hfault
  obtain ⟨original, horiginal, rfl⟩ := hfault
  rcases standIns_eq_error horiginal with hrefused | ⟨⟨other, hother, hlacks'⟩, -⟩
  · exact Fault.found_wrap_of_not_isResolution hrefused _
  · obtain rfl := Option.some.inj (hdirectory.symm.trans hother)
    exact absurd hlacks' hlacks

/-- Gathering placeholders is collecting them, and keeping the first of those that are the same. -/
theorem groupPlaceholders_eq_collect (r : StandardResolver) (host : Host) (group : List Reference) :
    (r.groupPlaceholders host group >>= fun empty => pure empty.items) =
      ((Probe.collect (fun x => .ofExcept (r.placeholders host x)) group).outcome >>= fun list =>
        pure (OrderedSet.firstOccurrences (Resource.same host) [] list)) := by
  cases hcollect : (Probe.collect (fun x => .ofExcept (r.placeholders host x)) group).outcome with
  | ok list =>
      obtain ⟨lists, hlists, rfl⟩ := Probe.collect_eq_ok_iff.mp hcollect
      rw [groupPlaceholders_eq_ok_iff.mpr ⟨lists, hlists, rfl⟩]
      show Except.ok _ = Except.ok _
      rw [OrderedSet.items_ofList]
  | error fault =>
      rw [groupPlaceholders_eq_error_iff.mpr (Probe.collect_eq_error_iff.mp hcollect)]
      rfl

/-- When a pattern stands for no subdirectories, the optional run has no placeholder at all, and the
mandatory one ends at the first candidate. -/
theorem softens_collect_of_lacks {group : List Reference} {directory : Text}
    (hscans : Scans group directory) (hlacks : r.LacksSubdirectories host directory)
    (hmandatory : ∀ x ∈ group, x.location.isOptional = false) (hoptional : o.isOptional = true) :
    Softens host o (Probe.collect (fun x => .ofExcept (r.placeholders host x)) group).outcome
      (Probe.collect (fun x => .ofExcept (r.placeholders host x))
        (group.map (Reference.relocate o))).outcome := by
  have hnone : ∀ y ∈ group.map (Reference.relocate o),
      (Probe.ofExcept (r.placeholders host y)).outcome = .ok ((fun _ => []) y) := by
    intro y hy
    obtain ⟨x, hx, rfl⟩ := List.mem_map.mp hy
    obtain ⟨hdirectory, htext⟩ := hscans x hx
    have hstandIns := standIns_eq_patternPlaceholders (x := x.relocate o) hdirectory htext hlacks
    have hoptional' : (x.relocate o).location.isOptional = true := hoptional
    rw [Probe.outcome_ofExcept, placeholders_eq, hstandIns, patternPlaceholders_of_lacks hlacks,
      if_pos hoptional']
    rfl
  rw [Probe.collect_eq_flatMap hnone, List.flatMap_eq_nil_iff.mpr fun _ _ => rfl]
  cases group with
  | nil => exact .found []
  | cons x rest =>
      obtain ⟨hdirectory, htext⟩ := hscans x List.mem_cons_self
      have hnot : ¬x.location.isOptional = true := by simp [hmandatory x List.mem_cons_self]
      rw [Probe.collect, Probe.outcome_bind, Probe.outcome_ofExcept, placeholders_eq,
        standIns_eq_patternPlaceholders hdirectory htext hlacks, patternPlaceholders_of_lacks hlacks,
        if_neg hnot]
      exact .nothing rfl

theorem softened_firstOccurrences {found : List Resource}
    (h : ∀ y ∈ found, y.handle.isPresent host = true) :
    Resource.softened host o (OrderedSet.firstOccurrences (Resource.same host) [] found) =
      OrderedSet.firstOccurrences (Resource.same host) [] (Resource.softened host o found) := by
  have hsame : ∀ a b : Resource,
      Resource.same host (a.relocate o) (b.relocate o) = Resource.same host a b := fun _ _ => rfl
  rw [Resource.softened_of_present fun y hy => h y (OrderedSet.mem_of_mem_firstOccurrences hy),
    Resource.softened_of_present h]
  exact (OrderedSet.firstOccurrences_map hsame [] found).symm

theorem softens_groupPlaceholders {group : List Reference} {directory : Text}
    (hscans : Scans group directory)
    (hmandatory : ∀ x ∈ group, x.location.isOptional = false) (hoptional : o.isOptional = true) :
    Softens host o (r.groupPlaceholders host group >>= fun empty => pure empty.items)
      (r.groupPlaceholders host (group.map (Reference.relocate o)) >>= fun empty =>
        pure empty.items) := by
  rw [groupPlaceholders_eq_collect, groupPlaceholders_eq_collect]
  have hsoftens : Softens host o
      (Probe.collect (fun x => .ofExcept (r.placeholders host x)) group).outcome
      (Probe.collect (fun x => .ofExcept (r.placeholders host x))
        (group.map (Reference.relocate o))).outcome := by
    by_cases hlacks : r.LacksSubdirectories host directory
    · exact softens_collect_of_lacks hscans hlacks hmandatory hoptional
    · exact .collect (fun x hx => softens_placeholders (hmandatory x hx) hoptional)
        fun x hx => neverMissing_placeholders (hscans x hx).1 hlacks
  refine hsoftens.map rfl fun list hlist => softened_firstOccurrences fun y hy => ?_
  obtain ⟨x, -, own, hown, hy⟩ := Probe.exists_of_mem_collect hlist hy
  exact isPresent_of_mem_placeholders hown hy

/-! ## Groups -/

/-- A guessed candidate that is found is there. -/
theorem isPresent_of_mem_probe {list : List Resource} (hdirectory : x.directory.isSome = true)
    (h : (r.probe host x).outcome = .ok list) {y : Resource} (hy : y ∈ list) :
    y.handle.isPresent host = true := by
  have hreference := (mem_probe h hy).1
  refine Handle.isPresent_of_exists?
    ((stands_of_mem_probe h hy).exists_of_not_isNamedFile fun hnamed => ?_)
  rw [← hreference, hnamed.no_directory] at hdirectory
  cases hdirectory

theorem softens_resolveGroup_of_scans {group : List Reference} {directory : Text}
    (hscans : Scans group directory)
    (hmandatory : ∀ x ∈ group, x.location.isOptional = false) (hoptional : o.isOptional = true)
    (hsupported : ∀ x ∈ group, isSupported x.resourceLocation = true) :
    Softens host o (r.resolveGroup host group)
      (r.resolveGroup host (group.map (Reference.relocate o))) := by
  have hdirectory : ∀ x ∈ group, x.directory.isSome = true := fun x hx => by simp [(hscans x hx).1]
  have hskip : ∀ x ∈ group, x.isSkippable = true := fun x hx => by
    simp [Reference.isSkippable, hdirectory x hx]
  have hfound : ∀ x ∈ group, NeverMissing (r.probe host x).outcome :=
    fun x hx => neverMissing_probe (hskip x hx)
  have hcollect : Softens host o (Probe.collect (r.probe host) group).outcome
      (Probe.collect (r.probe host) (group.map (Reference.relocate o))).outcome :=
    .collect (fun x hx => softens_probe (hmandatory x hx) hoptional (hsupported x hx)) hfound
  refine hcollect.bind (neverMissing_collect hfound) fun found hlist => ?_
  have hpresent : ∀ y ∈ found, y.handle.isPresent host = true := by
    intro y hy
    obtain ⟨x, hx, list, hlist, hy⟩ := Probe.exists_of_mem_collect hlist hy
    exact isPresent_of_mem_probe (hdirectory x hx) hlist hy
  cases found with
  | nil => exact softens_groupPlaceholders hscans hmandatory hoptional
  | cons y rest =>
      have hsoftened := Resource.softened_of_present (o := o) hpresent
      rw [hsoftened]
      exact .of_softened hsoftened

theorem softens_resolveGroup_of_file (hdirectory : x.directory = none)
    (hmandatory : x.location.isOptional = false) (hoptional : o.isOptional = true)
    (hsupported : isSupported x.resourceLocation = true) :
    Softens host o (r.resolveGroup host [x]) (r.resolveGroup host [x.relocate o]) := by
  have hdirectory' : (x.relocate o).directory = none := hdirectory
  rw [resolveGroup_file hdirectory, resolveGroup_file hdirectory']
  exact softens_probe hmandatory hoptional hsupported

/-! ## Listing -/

section Listing

variable {parent : Option Reference} {l : Location}

/-- Listing for one location and for another one of the same value go together. -/
inductive Relists (o : Location) : Except Fault References → Except Fault References → Prop
  | listed {refs others : References} (h : others.items = refs.items.map (Reference.relocate o)) :
      Relists o (.ok refs) (.ok others)
  | failed {fault other : Fault} (h : fault.Alike other) : Relists o (.error fault) (.error other)

/-- No loader reports that a location is not found. -/
def LoadersNeverMissing (loaders : List Loader) : Prop :=
  ∀ loader ∈ loaders, NeverMissing loader.extensions

theorem relists_directoryReferences (hloaders : LoadersNeverMissing r.loaders) (directory : Text) :
    Relists o (r.directoryReferences l directory none) (r.directoryReferences o directory none) := by
  cases hpairs : Loader.candidates r.loaders with
  | ok pairs =>
      obtain ⟨refs, hrefs, hitems⟩ : ∃ refs, r.directoryReferences l directory none = .ok refs
          ∧ refs.items = r.scanList pairs l directory none := directoryReferences_eq hpairs
      obtain ⟨others, hothers, hitems'⟩ : ∃ refs, r.directoryReferences o directory none = .ok refs
          ∧ refs.items = r.scanList pairs o directory none := directoryReferences_eq hpairs
      rw [hrefs, hothers]
      refine .listed ?_
      rw [hitems, hitems', scanList, scanList, List.map_flatMap]
      simp only [List.map_map]
      rfl
  | error fault =>
      by_cases hnames : r.names = []
      · rw [directoryReferences_nil hnames, directoryReferences_nil hnames]
        exact .listed rfl
      · rw [directoryReferences_error hpairs hnames, directoryReferences_error hpairs hnames]
        obtain ⟨loader, hloader, hfault⟩ := Loader.exists_of_candidates_eq_error hpairs
        exact .failed ⟨rfl, hloaders loader hloader fault hfault⟩

theorem relists_fileReference (hloaders : LoadersNeverMissing r.loaders) (file : Text) :
    Relists o (r.fileReference l file none >>= fun x => pure (.ofList [x]))
      (r.fileReference o file none >>= fun x => pure (.ofList [x])) := by
  unfold fileReference
  dsimp only
  generalize hfind : Loader.findExtension? _ r.loaders = found
  cases found with
  | error fault =>
      obtain ⟨loader, hloader, hfault⟩ := Loader.exists_of_findExtension?_eq_error hfind
      exact .failed ⟨rfl, hloaders loader hloader fault hfault⟩
  | ok found =>
      cases found with
      | none => exact .failed ⟨rfl, rfl⟩
      | some pair => exact .listed rfl

theorem relists_references (hloaders : LoadersNeverMissing r.loaders) (hvalue : o.value = l.value) :
    Relists o (r.references parent ⟨l, none⟩) (r.references parent ⟨o, none⟩) := by
  have htext : resourceLocation parent o = resourceLocation parent l := by
    unfold resourceLocation Location.withoutLead
    rw [hvalue]
  have hlisting : Relists o (r.listing parent ⟨l, none⟩) (r.listing parent ⟨o, none⟩) := by
    unfold listing
    rw [htext]
    dsimp only
    split
    · exact relists_directoryReferences hloaders _
    · exact relists_fileReference hloaders _
  rw [references_eq, references_eq]
  generalize r.listing parent ⟨l, none⟩ = e at hlisting
  generalize r.listing parent ⟨o, none⟩ = e' at hlisting
  cases hlisting with
  | listed h => exact .listed h
  | failed h => exact .failed (h.wrap l o)

end Listing

/-! ## Locations within the store -/

/-- All references of a location lie within the store. -/
def Supports (r : StandardResolver) (parent : Option Reference) (l : Location) : Prop :=
  ∀ refs, r.references parent ⟨l, none⟩ = .ok refs →
    ∀ x ∈ refs.items, isSupported x.resourceLocation = true

section Resolve

variable {parent : Option Reference} {l : Location}

theorem scans_of_directoryReferences {refs : References} {directory : Text}
    (h : r.directoryReferences l directory none = .ok refs) : Scans refs.items directory := by
  intro x hx
  obtain ⟨name, -, pairs, -, pair, -, rfl⟩ := mem_directoryReferences h hx
  rw [candidate_resourceLocation (by simp)]
  exact ⟨rfl, entryText_eq_append ..⟩

/-- The root of a named file is where its text begins, or its text with the extension of the hint. -/
theorem root_of_fileReference {l : Location} {file : Text} {x : Reference}
    (h : r.fileReference l file none = .ok x) :
    (∃ n, x.root = file.take n)
      ∨ ∃ base extension, splitHint? file = some (base, extension)
        ∧ ∃ n, x.root = (base ++ extension).take n := by
  unfold fileReference at h
  obtain ⟨found, -, h⟩ := bind_eq_ok_iff.mp h
  cases found with
  | none => cases h
  | some pair =>
      obtain rfl := Except.ok.inj h
      cases hhint : splitHint? file with
      | none => exact Or.inl ⟨_, rfl⟩
      | some hint => exact Or.inr ⟨hint.1, hint.2, rfl, _, rfl⟩

/-- What begins the entry of a named file, and has no dot, begins its text. -/
theorem prefix_of_fileReference {l : Location} {file head : Text} {x : Reference}
    (h : r.fileReference l file none = .ok x) (hdot : Path.dot ∉ head)
    (hhead : head <+: x.resourceLocation) : head <+: file := by
  have hprofile := (fileReference_eq_ok h).2.2
  have hhead : head <+: x.root := by
    rw [Reference.resourceLocation, hprofile] at hhead
    cases hextension : x.extension with
    | none => simpa [hextension] using hhead
    | some written =>
        have hentry : head <+: x.root ++ Path.dot :: written := by simpa [hextension] using hhead
        exact Text.prefix_of_prefix_append_cons hentry hdot
  rcases root_of_fileReference h with ⟨n, hroot⟩ | ⟨base, extension, hhint, n, hroot⟩
  · exact hhead.trans (hroot ▸ List.take_prefix n file)
  · obtain ⟨hbase, -, word, rfl⟩ := splitHint?_eq_some hhint
    have hfile := hhead.trans (hroot ▸ List.take_prefix n _)
    have hbegins := Text.prefix_of_prefix_append_cons hfile hdot
    exact (hbegins.trans (List.prefix_append base [hintMark])).trans hbase

/-- A location lies within the store if its text does. -/
theorem supports_of_isSupported {parent : Option Reference} {l : Location}
    (hsupported : isSupported (resourceLocation parent l) = true)
    (hline : lineFeed ∉ resourceLocation parent l) : r.Supports parent l := by
  intro refs hrefs x hx
  rcases references_eq_ok hrefs with ⟨hdirectory, hlist⟩ | ⟨-, y, hfile, hitems⟩
  · obtain ⟨-, more, hmore⟩ := scans_of_directoryReferences hlist x hx
    rw [hmore]
    exact isSupported_append (Text.mem_of_endsWith hdirectory) hsupported more
  · obtain rfl : x = y := by simpa [hitems] using hx
    cases hscheme : hasScheme x.resourceLocation with
    | false => simp [isSupported, hscheme]
    | true =>
        obtain ⟨scheme, body, hisScheme, hbody⟩ := exists_of_hasScheme hscheme
        have hbegins : scheme ++ [colon] <+: x.resourceLocation := ⟨body, by simp [hbody]⟩
        have hdot : Path.dot ∉ scheme ++ [colon] := by
          simpa [hisScheme.dot_not_mem] using (by decide : Path.dot ≠ colon)
        obtain ⟨more, hmore⟩ := prefix_of_fileReference hfile hdot hbegins
        rw [List.append_assoc, List.singleton_append] at hmore
        rw [← hmore] at hsupported hline
        rw [hbody]
        exact hisScheme.isSupported_of (fun hmem => hline (by simp [hmem])) hsupported

/-! ## Resolving with and without the mark -/

theorem softens_references {refs : References} (hrefs : r.references parent ⟨l, none⟩ = .ok refs)
    (hmandatory : l.isOptional = false) (hoptional : o.isOptional = true)
    (hsupported : ∀ x ∈ refs.items, isSupported x.resourceLocation = true) :
    Softens host o (r.resolveGroup host refs.items)
      (r.resolveGroup host (refs.items.map (Reference.relocate o))) := by
  have hmandatory' : ∀ x ∈ refs.items, x.location.isOptional = false := fun x hx => by
    rw [(mem_references hrefs hx).1, hmandatory]
  rcases references_eq_ok hrefs with ⟨-, hdirectory⟩ | ⟨-, x, hfile, hitems⟩
  · exact softens_resolveGroup_of_scans (scans_of_directoryReferences hdirectory) hmandatory'
      hoptional hsupported
  · have hx : x ∈ refs.items := by simp [hitems]
    rw [hitems]
    exact softens_resolveGroup_of_file (fileReference_eq_ok hfile).2.1 (hmandatory' x hx) hoptional
      (hsupported x hx)

theorem softens_resolve (hmandatory : l.isOptional = false) (hoptional : o.isOptional = true)
    (hvalue : o.value = l.value) (hparts : l.parts = [l]) (hparts' : o.parts = [o])
    (hloaders : LoadersNeverMissing r.loaders) (hsupported : r.Supports parent l) :
    Softens host o (r.resolve host parent l).outcome (r.resolve host parent o).outcome := by
  show Softens host o (r.pass host parent l none).outcome (r.pass host parent o none).outcome
  rw [pass_of_parts hparts, pass_of_parts hparts']
  rw [outcome_resolveTargets_singleton, outcome_resolveTargets_singleton]
  have hrelists : Relists o (r.references parent ⟨l, none⟩) (r.references parent ⟨o, none⟩) :=
    relists_references hloaders hvalue
  have hgroup : ∀ refs, r.references parent ⟨l, none⟩ = .ok refs →
      Softens host o (r.resolveGroup host refs.items)
        (r.resolveGroup host (refs.items.map (Reference.relocate o))) :=
    fun refs hrefs => softens_references hrefs hmandatory hoptional (hsupported refs hrefs)
  generalize r.references parent ⟨l, none⟩ = e at hrelists hgroup
  generalize r.references parent ⟨o, none⟩ = e' at hrelists
  cases hrelists with
  | failed h => exact .failed h
  | listed h =>
      rename_i refs others
      show Softens host o (r.resolveGroup host refs.items) (r.resolveGroup host others.items)
      rw [h]
      exact hgroup refs rfl

end Resolve

/-- The mark only turns missing data into nothing. -/
theorem softens_resolve_optionalMark (r : StandardResolver) (host : Host)
    (parent : Option Reference) {s : Text} {origin : Option Text} {l : Location}
    (hl : Location.of? s origin = some l) (hmandatory : l.isOptional = false)
    (hsingle : ∀ c ∈ locationDelimiter, c ∉ s) (hloaders : LoadersNeverMissing r.loaders)
    (hsupported : r.Supports parent l) :
    ∃ o, Location.of? (optionalMark ++ s) origin = some o ∧ o.isOptional = true
      ∧ Softens host o (r.resolve host parent l).outcome (r.resolve host parent o).outcome := by
  have ho := Location.of?_optionalMark hl hmandatory
  have hsingle' : ∀ c ∈ locationDelimiter, c ∉ optionalMark ++ s := by
    intro c hc
    rw [List.mem_append, not_or]
    have hmark : ∀ c ∈ locationDelimiter, c ∉ optionalMark := by decide
    exact ⟨hmark c hc, hsingle c hc⟩
  exact ⟨_, ho, rfl, softens_resolve hmandatory rfl rfl (Location.parts_of_of? hl hsingle)
    (Location.parts_of_of? ho hsingle') hloaders hsupported⟩

theorem loadersNeverMissing_sampleResolver : LoadersNeverMissing sampleResolver.loaders := by
  intro loader hloader fault hfault
  obtain rfl := List.mem_singleton.mp hloader
  cases hfault

/-- Where a pattern stands for nothing, the mandatory location is not found and the optional one
comes to nothing. -/
theorem softens_resolve_optionalMark_config :
    ∃ o, Location.of? (optionalMark ++ "config/*/") none = some o ∧ o.isOptional = true
      ∧ Softens emptyHost o (sampleResolver.resolve emptyHost none ⟨"config/*/", false, none⟩).outcome
        (sampleResolver.resolve emptyHost none o).outcome :=
  softens_resolve_optionalMark sampleResolver emptyHost none rfl rfl (by decide)
    loadersNeverMissing_sampleResolver (supports_of_isSupported (by decide) (by decide))

end StandardResolver

end ConfigLocator

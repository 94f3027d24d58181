import Mathlib.Data.List.Pairwise
import ConfigLocator.Proofs.PatternRoots
import ConfigLocator.Proofs.Passes

/-!
# Repeats

Whatever is listed twice is probed once, and placeholders of one directory are returned once. Two
references that differ are both probed, even if they lead to one entry: a directory is spelled in two
ways, it is optional in one place only, or two loaders know one extension. Such an entry is returned
for each of them.

`StandardResolver.pairwise_resolvePass` says that nothing else is returned twice, and that a pass
returns nothing twice exactly when no two of its references meet (`StandardResolver.Meet`).
-/

namespace ConfigLocator

/-! ## Lists of distinct items -/

/-- What is true of each two items is true of what comes of them. -/
theorem pairwise_of_forall₂ {α β : Type} {T : α → β → Prop} {R : α → α → Prop} {S : β → β → Prop}
    {as : List α} {bs : List β} (h : List.Forall₂ T as bs) (has : as.Pairwise R)
    (hstep : ∀ a b, T a b → ∀ a' b', T a' b' → R a a' → S b b') : bs.Pairwise S := by
  induction h with
  | nil => exact .nil
  | @cons a b as bs hab hrest ih =>
      obtain ⟨ha, has⟩ := List.pairwise_cons.mp has
      refine List.pairwise_cons.mpr ⟨fun b' hb' => ?_, ih has⟩
      obtain ⟨a', ha', hab'⟩ := exists_of_mem_results hrest hb'
      exact hstep a b hab a' b' hab' (ha a' ha')

namespace Resource

variable {host : Host} {seen : List Text} {xs : List Resource} {x : Resource}

theorem same_comm (host : Host) (x y : Resource) : same host x y = same host y x := by
  have hhandle : x.handle.same host y.handle = y.handle.same host x.handle := Bool.beq_comm
  rw [same, same, hhandle, Bool.beq_comm (a := x.isPlaceholder)]

theorem isPlaceholder_eq_of_same {y : Resource} (h : x.same host y = true) :
    x.isPlaceholder = y.isPlaceholder := by
  rw [same, Bool.and_eq_true, beq_iff_eq] at h
  exact h.2

theorem withoutRepeats_sublist (host : Host) (seen : List Text) (xs : List Resource) :
    (withoutRepeats host seen xs).Sublist xs := by
  induction xs generalizing seen with
  | nil => exact List.nil_sublist []
  | cons y rest ih =>
      unfold withoutRepeats
      split
      · exact (ih seen).cons_cons y
      · split
        · exact (ih seen).cons y
        · exact (ih _).cons_cons y

/-- Only placeholders are left out. -/
theorem mem_withoutRepeats_of_file (hx : x ∈ xs) (hfile : x.isPlaceholder = false) :
    x ∈ withoutRepeats host seen xs := by
  induction xs generalizing seen with
  | nil => cases hx
  | cons y rest ih =>
      rcases List.mem_cons.mp hx with rfl | hx
      · rw [withoutRepeats, placeholderDirectory?_eq_none hfile]
        exact List.mem_cons_self
      · unfold withoutRepeats
        split
        · exact List.mem_cons_of_mem y (ih hx)
        · split
          · exact ih hx
          · exact List.mem_cons_of_mem y (ih hx)

/-- The placeholders that are kept stand for directories that are new, and differ. -/
theorem pairwise_directories (host : Host) (seen : List Text) (xs : List Resource) :
    (∀ x ∈ withoutRepeats host seen xs, ∀ d ∈ x.placeholderDirectory? host, d ∉ seen)
      ∧ (withoutRepeats host seen xs).Pairwise fun x y =>
        ∀ d ∈ x.placeholderDirectory? host, y.placeholderDirectory? host ≠ some d := by
  induction xs generalizing seen with
  | nil => exact ⟨fun x hx => absurd hx List.not_mem_nil, .nil⟩
  | cons y rest ih =>
      unfold withoutRepeats
      split
      · rename_i hnone
        obtain ⟨hnew, hpair⟩ := ih seen
        simp only [List.forall_mem_cons, List.pairwise_cons, hnone]
        exact ⟨⟨nofun, hnew⟩, fun _ _ => nofun, hpair⟩
      · rename_i directory hdirectory
        split
        · exact ih seen
        · rename_i hunseen
          obtain ⟨hnew, hpair⟩ := ih (directory :: seen)
          simp only [List.forall_mem_cons, List.pairwise_cons, hdirectory]
          refine ⟨⟨?_, fun x hx d hd hseen => hnew x hx d hd (List.mem_cons_of_mem _ hseen)⟩, ?_, hpair⟩
          · rintro _ ⟨⟩
            exact hunseen
          · rintro x hx _ ⟨⟩ hsame
            exact hnew x hx directory hsame List.mem_cons_self

end Resource

/-! ## One probe -/

/-- The files that a pattern stands for are in different places. -/
theorem Store.pairwise_expand_files (store : Store) {host : Host} (htree : host.tree.WellFormed)
    (hanchored : host.Anchored) {t : Text} {handles : List Handle}
    (h : store.expand host t .files = .ok handles) :
    handles.Pairwise fun x y => x.same host y = false := by
  have hcheck := checkPattern_of_expand h
  obtain ⟨-, d, f, hpattern, rfl⟩ := checkPattern_eq_ok_iff_exists.mp hcheck
  obtain ⟨hpackage, subs, hsubs, hnone⟩ := exists_wildcardDirectories hpattern h
  obtain ⟨handle, hhandle, ⟨-, rfl⟩ | ⟨path, rfl, hquestion, -⟩⟩ := subdirectories_eq_ok_iff.mp hsubs
  · rw [hnone rfl]
    exact .nil
  · obtain ⟨place, hlocate, hentry⟩ :=
      FileTree.lookup_eq_ok_iff.mp (Handle.isDirectory?_file_eq_true.mp hquestion)
    have hroot : store.WildcardRoot host (d ++ wildcardSegment) (host.absolutePath path) place :=
      ⟨⟨path, hhandle, hlocate, rfl⟩, hentry⟩
    have hdirectory := isPatternDirectory_append hpackage hpattern.no_wildcard
    rw [expand_files htree hanchored hroot hdirectory hpattern.no_slash hcheck] at h
    rw [← Except.ok.inj h, List.pairwise_map]
    refine ((subdirectoryNames_sorted htree place).filter _).imp_of_mem
      fun {name other} hname hother hlt => ?_
    have hplace : ∀ name ∈ (subdirectoryNames host place).filter (holdsFile host place f),
        Place.ofPath (host.absolutePath (Path.append (Path.append (host.absolutePath path) name) f)) =
          place ++ [name, f] := by
      intro name hname
      obtain ⟨hname, hholds⟩ := List.mem_filter.mp hname
      obtain ⟨content, hentry⟩ := holdsFile_iff.mp hholds
      exact (entry_path htree hanchored hroot (mem_subdirectoryNames.mp hname) hentry).2
    have hdiffer : place ++ [name, f] ≠ place ++ [other, f] := by
      simp only [ne_eq, List.append_cancel_left_eq, List.cons.injEq, and_true]
      rintro rfl
      exact lt_irrefl _ hlt
    rw [← hplace name hname, ← hplace other hother] at hdiffer
    simpa [Handle.same, Handle.canonical] using fun heq => hdiffer (congrArg Place.ofPath heq)

namespace StandardResolver

variable {r : StandardResolver} {host : Host} {parent : Option Reference}

theorem pairwise_probe (htree : host.tree.WellFormed) (hanchored : host.Anchored) {x : Reference}
    {found : List Resource} (h : (r.probe host x).outcome = .ok found) :
    found.Pairwise fun a b => a.same host b = false := by
  rcases probe_eq_ok h with ⟨-, rfl⟩ | ⟨-, handles, hhandles, -, rfl⟩ | ⟨-, handle, isThere, -, -, rfl⟩
  · exact .nil
  · rw [List.pairwise_map]
    refine (Store.pairwise_expand_files r.store htree hanchored hhandles).imp fun hdiffer => ?_
    simp [Resource.same, hdiffer]
  · split
    · exact .nil
    · exact List.pairwise_singleton ..

/-! ## One target -/

/-- Of two entries that are the same, both were found for references of their own. -/
def Apart (host : Host) (a b : Resource) : Prop :=
  a.same host b = true → a.isPlaceholder = false → a.reference.same b.reference = false

theorem reference_mem_of_resolveGroup {group : List Reference} {part : List Resource}
    (h : r.resolveGroup host group = .ok part) {a : Resource} (ha : a ∈ part) :
    a.reference ∈ group := by
  rcases resolveGroup_eq_ok h with ⟨hfound, -⟩ | ⟨-, empty, hempty, rfl⟩
  · exact (mem_collect_probe hfound ha).1
  · obtain ⟨x, hx, list, hlist, hin⟩ := exists_of_mem_groupPlaceholders hempty ha
    rw [(mem_placeholders hlist hin).1]
    exact hx

/-- What a probe finds is part of what its group comes to. -/
theorem mem_resolveGroup_of_probe {group : List Reference} {part list : List Resource}
    (h : r.resolveGroup host group = .ok part) {x : Reference} (hx : x ∈ group)
    (hlist : (r.probe host x).outcome = .ok list) {a : Resource} (ha : a ∈ list) : a ∈ part := by
  rcases resolveGroup_eq_ok h with ⟨hfound, -⟩ | ⟨hnone, -⟩
  · obtain ⟨lists, hlists, rfl⟩ := Probe.collect_eq_ok_iff.mp hfound
    obtain ⟨own, hmem, hown⟩ := exists_of_mem_results hlists.flip hx
    obtain rfl := Except.ok.inj (hlist.symm.trans hown)
    exact List.mem_flatten.mpr ⟨list, hmem, ha⟩
  · rw [Probe.collect_eq_nil_iff.mp hnone x hx] at hlist
    obtain rfl := Except.ok.inj hlist
    cases ha

theorem pairwise_resolveGroup (htree : host.tree.WellFormed) (hanchored : host.Anchored)
    {group : List Reference} (hgroup : group.Pairwise fun x y => x.same y = false)
    {part : List Resource} (h : r.resolveGroup host group = .ok part) :
    part.Pairwise (Apart host) := by
  rcases resolveGroup_eq_ok h with ⟨hfound, -⟩ | ⟨-, empty, -, rfl⟩
  · obtain ⟨lists, hlists, rfl⟩ := Probe.collect_eq_ok_iff.mp hfound
    refine List.pairwise_flatten.mpr ⟨fun list hlist => ?_, ?_⟩
    · obtain ⟨x, -, hx⟩ := exists_of_mem_results hlists hlist
      refine (pairwise_probe htree hanchored hx).imp fun hdiffer hsame => ?_
      rw [hdiffer] at hsame
      cases hsame
    · refine pairwise_of_forall₂ hlists hgroup fun x list hx y other hy hdiffer a ha b hb _ _ => ?_
      rw [(mem_probe hx ha).1, (mem_probe hy hb).1]
      exact hdiffer
  · refine empty.distinct.imp fun hdiffer hsame => ?_
    rw [hdiffer] at hsame
    cases hsame

/-! ## Many targets -/

theorem Comes.target_of_mem {t : Target} {part : List Resource} (h : r.Comes host parent t part)
    {a : Resource} (ha : a ∈ part) :
    a.reference.location = t.location ∧ a.reference.profile = t.profile := by
  obtain ⟨_, ⟨refs, hrefs, rfl⟩, hgroup⟩ := h
  exact mem_references hrefs (reference_mem_of_resolveGroup hgroup ha)

theorem pairwise_parts (htree : host.tree.WellFormed) (hanchored : host.Anchored)
    {targets : List Target} {parts : List (List Resource)}
    (hdistinct : targets.Pairwise fun t u => t.same u = false)
    (hparts : List.Forall₂ (r.Comes host parent) targets parts) :
    parts.flatten.Pairwise (Apart host) := by
  refine List.pairwise_flatten.mpr ⟨fun part hpart => ?_, ?_⟩
  · obtain ⟨t, -, _, ⟨refs, -, rfl⟩, hgroup⟩ := exists_of_mem_results hparts hpart
    exact pairwise_resolveGroup htree hanchored refs.distinct hgroup
  · refine pairwise_of_forall₂ hparts hdistinct fun t part ht u other hu hdiffer a ha b hb _ _ => ?_
    obtain ⟨hlocation, hprofile⟩ := ht.target_of_mem ha
    obtain ⟨hlocation', hprofile'⟩ := hu.target_of_mem hb
    rw [← Bool.not_eq_true] at hdiffer ⊢
    refine mt (fun hsame => ?_) hdiffer
    obtain ⟨hlocations, -, -, hprofiles, -⟩ := Reference.same_iff.mp hsame
    exact Target.same_iff.mpr ⟨hlocation ▸ hlocation' ▸ hlocations, hprofile ▸ hprofile' ▸ hprofiles⟩

/-- A placeholder that is returned stands for a directory of the file system. -/
theorem exists_placeholderDirectory {targets : List Target} {found : List Resource}
    (h : (r.resolveTargets host parent targets).outcome = .ok found) {a : Resource} (ha : a ∈ found)
    (hplaceholder : a.isPlaceholder = true) : ∃ d, a.placeholderDirectory? host = some d := by
  obtain ⟨t, -, hfor⟩ := foundFor_of_mem_resolveTargets h ha
  cases hfor with
  | probed _ _ hfile _ _ =>
      rw [hplaceholder] at hfile
      cases hfile
  | placeholder _ _ _ hlist hin =>
      obtain ⟨-, -, -, path, hpath, -⟩ := mem_placeholders hlist hin
      exact ⟨_, by rw [Resource.placeholderDirectory?, hplaceholder, hpath]⟩

/-! ## References that meet -/

/-- A reference that a pass lists. -/
def PassLists (r : StandardResolver) (parent : Option Reference) (l : Location)
    (profiles : Option (List Text)) (x : Reference) : Prop :=
  ∃ t ∈ l.targets profiles, ∃ refs, r.references parent t = .ok refs ∧ x ∈ refs.items

/-- Something that is found for one reference is found for the other as well. -/
def Meet (r : StandardResolver) (host : Host) (x y : Reference) : Prop :=
  ∃ found others, (r.probe host x).outcome = .ok found ∧ (r.probe host y).outcome = .ok others
    ∧ ∃ a ∈ found, ∃ b ∈ others, a.same host b = true

/-- References of two texts meet when the texts name one entry, which is there. -/
theorem meet_of_exists {x y : Reference} (hx : isPattern x.resourceLocation = false)
    (hy : isPattern y.resourceLocation = false) {handle other : Handle}
    (hhandle : r.store.handle x.resourceLocation = .ok handle)
    (hother : r.store.handle y.resourceLocation = .ok other)
    (hexists : handle.exists? host = .ok true) (hexists' : other.exists? host = .ok true)
    (hsame : handle.same host other = true) : r.Meet host x y := by
  have hprobe : ∀ {z : Reference} {own : Handle}, isPattern z.resourceLocation = false →
      r.store.handle z.resourceLocation = .ok own → own.exists? host = .ok true →
      (r.probe host z).outcome = .ok [⟨z, own, false⟩] := by
    intro z own hplain hown hthere
    have hbeyond : isBeyondStore z = false := by
      simp [isBeyondStore, Store.supported_of_handle hown]
    exact (probe_entry_eq_ok_iff hbeyond hplain).mpr ⟨own, true, hown, hthere, rfl⟩
  refine ⟨_, _, hprobe hx hhandle hexists, hprobe hy hother hexists', _, List.mem_singleton_self _, _,
    List.mem_singleton_self _, ?_⟩
  simp [Resource.same, hsame]

section Pass

variable {l : Location} {profiles : Option (List Text)} {found : List Resource}
  (h : (r.resolvePass host parent l profiles).outcome = .ok found)

include h

/-- What a pass returns has the part of each of its targets in it. -/
theorem exists_comes_of_mem_targets {t : Target} (ht : t ∈ l.targets profiles) :
    ∃ parts : List (List Resource), found = Resource.withoutRepeats host [] parts.flatten
      ∧ ∃ part ∈ parts, r.Comes host parent t part := by
  rw [resolvePass_eq, resolveTargets_eq_ok_iff_comes fun t => Location.origin_of_mem_targets] at h
  obtain ⟨parts, hparts, rfl⟩ := h
  obtain ⟨u, hu, hsame⟩ := OrderedSet.exists_mem_firstOccurrences Target.same_refl Target.same_trans ht
  have hu' : u ∈ l.targets profiles := OrderedSet.mem_of_mem_firstOccurrences hu
  obtain rfl := Target.eq_of_same
    ((Location.origin_of_mem_targets hu').trans (Location.origin_of_mem_targets ht).symm) hsame
  exact ⟨parts, rfl, exists_of_mem_results hparts.flip hu⟩

/-- Every reference of a pass is probed, and what is found for it is returned. -/
theorem mem_resolvePass_of_probe {x : Reference} (hx : r.PassLists parent l profiles x)
    {list : List Resource} (hlist : (r.probe host x).outcome = .ok list) {a : Resource}
    (ha : a ∈ list) : a ∈ found := by
  obtain ⟨t, ht, refs, hrefs, hmem⟩ := hx
  obtain ⟨parts, rfl, part, hpart, _, ⟨refs', hrefs', rfl⟩, hgroup⟩ := exists_comes_of_mem_targets h ht
  obtain rfl := Except.ok.inj (hrefs.symm.trans hrefs')
  exact Resource.mem_withoutRepeats_of_file
    (List.mem_flatten.mpr ⟨part, hpart, mem_resolveGroup_of_probe hgroup hmem hlist ha⟩)
    (mem_probe hlist ha).2

theorem exists_probe_of_mem {a : Resource} (ha : a ∈ found) (hfile : a.isPlaceholder = false) :
    r.PassLists parent l profiles a.reference
      ∧ ∃ list, (r.probe host a.reference).outcome = .ok list ∧ a ∈ list := by
  rw [resolvePass_eq] at h
  obtain ⟨t, ht, hfor⟩ := foundFor_of_mem_resolveTargets h ha
  cases hfor with
  | probed hrefs hreference _ hlist hin => exact ⟨⟨t, ht, _, hrefs, hreference⟩, _, hlist, hin⟩
  | placeholder _ _ hplaceholder _ _ =>
      rw [hfile] at hplaceholder
      cases hplaceholder

/-- No two placeholders are the same, and no two entries that were found for one reference. -/
theorem pairwise_apart (htree : host.tree.WellFormed) (hanchored : host.Anchored) :
    found.Pairwise fun a b => a.same host b = true →
      a.isPlaceholder = false ∧ a.reference.same b.reference = false := by
  rw [resolvePass_eq] at h
  have hdirectory := fun a ha => exists_placeholderDirectory h (a := a) ha
  rw [resolveTargets_eq_ok_iff_comes fun t => Location.origin_of_mem_targets] at h
  obtain ⟨parts, hparts, rfl⟩ := h
  have hapart := (pairwise_parts htree hanchored
    (OrderedSet.pairwise_firstOccurrences _) hparts).sublist
      (Resource.withoutRepeats_sublist host [] parts.flatten)
  refine ((Resource.pairwise_directories host [] parts.flatten).2.and hapart).imp_of_mem ?_
  rintro a b ha hb ⟨hdiffer, hapart⟩ hsame
  have hrole := Resource.isPlaceholder_eq_of_same hsame
  cases hplaceholder : a.isPlaceholder with
  | false => exact ⟨rfl, hapart hsame hplaceholder⟩
  | true =>
      obtain ⟨d, hd⟩ := hdirectory a ha hplaceholder
      obtain ⟨e, he⟩ := hdirectory b hb (hrole ▸ hplaceholder)
      rw [(Resource.same_iff_directory hd he).mp hsame] at hd
      exact absurd he (hdiffer e hd)

end Pass

/-- A pass returns nothing twice for one reference, and no placeholder twice; so it returns nothing
twice at all exactly when no two of its references meet. -/
theorem pairwise_resolvePass (r : StandardResolver) {host : Host} (htree : host.tree.WellFormed)
    (hanchored : host.Anchored) (parent : Option Reference) (l : Location)
    (profiles : Option (List Text)) {found : List Resource}
    (h : (r.resolvePass host parent l profiles).outcome = .ok found) :
    (found.Pairwise fun a b => a.same host b = true →
        a.isPlaceholder = false ∧ a.reference.same b.reference = false)
      ∧ (found.Pairwise (fun a b => a.same host b = false) ↔
        ∀ x y, r.PassLists parent l profiles x → r.PassLists parent l profiles y →
          x.same y = false → ¬r.Meet host x y) := by
  have hapart := pairwise_apart h htree hanchored
  refine ⟨hapart, fun hdistinct x y hx hy hdiffer => ?_, fun hmeet => ?_⟩
  · rintro ⟨list, others, hlist, hothers, a, ha, b, hb, hsame⟩
    have hne : a ≠ b := by
      rintro rfl
      rw [← (mem_probe hlist ha).1, ← (mem_probe hothers hb).1, Reference.same_refl] at hdiffer
      cases hdiffer
    have hsymm : Std.Symm fun a b => Resource.same host a b = false :=
      ⟨fun a b hab => (Resource.same_comm host b a).trans hab⟩
    have hfalse := hdistinct.forall
      (mem_resolvePass_of_probe h hx hlist ha) (mem_resolvePass_of_probe h hy hothers hb) hne
    rw [hsame] at hfalse
    cases hfalse
  · refine hapart.imp_of_mem fun {a b} ha hb hpair => ?_
    by_contra hsame
    rw [Bool.not_eq_false] at hsame
    obtain ⟨hfile, hdiffer⟩ := hpair hsame
    obtain ⟨hlists, list, hlist, hin⟩ := exists_probe_of_mem h ha hfile
    obtain ⟨hlists', others, hothers, hin'⟩ :=
      exists_probe_of_mem h hb ((Resource.isPlaceholder_eq_of_same hsame).symm.trans hfile)
    exact hmeet _ _ hlists hlists' hdiffer ⟨list, others, hlist, hothers, a, hin, b, hin', hsame⟩

/-- Two spellings of one directory. -/
theorem pairwise_resolvePass_spellings : ∃ found,
    (sampleResolver.resolvePass patternHost none ⟨"config/a/;./config/a/", false, none⟩ none).outcome =
        .ok found
      ∧ ¬found.Pairwise fun a b => a.same patternHost b = false := by
  refine ⟨_, rfl, fun hdistinct => ?_⟩
  have hmeet := (pairwise_resolvePass sampleResolver wellFormed_patternHost anchored_patternHost none
    ⟨"config/a/;./config/a/", false, none⟩ none rfl).2.mp hdistinct
  refine hmeet (patternCandidate "config/a/") (patternCandidate "./config/a/")
    ⟨⟨⟨"config/a/", false, none⟩, none⟩, List.mem_cons_self, _, rfl, List.mem_cons_self⟩
    ⟨⟨⟨"./config/a/", false, none⟩, none⟩, List.mem_cons_of_mem _ List.mem_cons_self, _, rfl,
      List.mem_cons_self⟩ (by decide) ?_
  exact meet_of_exists (by decide) (by decide) rfl rfl rfl rfl rfl

/-- Two loaders that know one extension. -/
example : (resolve ⟨["app"], [⟨1, "yaml", .ok ["yml"], fun _ _ _ => .ok []⟩,
      ⟨2, "json", .ok ["yml"], fun _ _ _ => .ok []⟩], {}⟩ plainHost none
        ⟨"config/", false, none⟩).outcome.map (fun found => found.map fun x =>
          (x.reference.loader.name, x.display plainHost)) =
    .ok [("json", "file [/ws/config/app.yml]"), ("yaml", "file [/ws/config/app.yml]")] := rfl

end StandardResolver

end ConfigLocator

import Mathlib.Data.List.Lex
import Mathlib.Data.List.Sort
import ConfigLocator.Proofs.CandidateNames
import ConfigLocator.Proofs.Imports
import ConfigLocator.Proofs.Patterns

/-!
# Adding a file

A new file hides no other one on its own. In a larger tree whatever was found is still found, and in
the same order: every question that the store has answered with an entry is answered with that entry
(`Handle.entry?_withTree`), and the names that a wildcard stands for stay in order between the new
ones, since they are sorted (`Store.sortNames_sublist`). Placeholders are not part of this, for a
directory that had one can get a file.

In a package this asks for more: the file may be a module that hides the package, so that nothing in
it is found any more (`StandardResolver.not_addFile_sublist_hidden_package`). What an import comes to
has to stay (`Host.KeepsPackage`), for the packages in which something was found.

`StandardResolver.resolveTargets_withTree` carries this through a whole pass, target by
target, and `StandardResolver.resolvePass_addFile_sublist` is the case of one file with the
directories on the way to it.
-/

namespace ConfigLocator

/-! ## Sorted names -/

theorem Text.le_iff {a b : Text} : Text.le a b = true ↔ a ≤ b := by
  induction a generalizing b with
  | nil =>
      rw [← not_lt]
      exact iff_of_true rfl (List.not_lt_nil b)
  | cons c rest ih =>
      cases b with
      | nil => exact iff_of_false Bool.false_ne_true (not_le.mpr (List.nil_lt_cons c rest))
      | cons d more =>
          rw [← not_lt, List.cons_lt_cons_iff, Text.le]
          split
          · rename_i heq
            rw [ih, ← not_lt]
            simp [heq]
          · rename_i hne
            simp only [Ne.symm hne, false_and, or_false, decide_eq_true_eq]
            omega

namespace Store

theorem insertName_eq (name : Text) (names : List Text) :
    insertName name names = names.orderedInsert (· ≤ ·) name := by
  induction names with
  | nil => rfl
  | cons other rest ih =>
      rw [insertName, List.orderedInsert_cons, ih]
      simp only [Text.le_iff]

theorem sortNames_eq (names : List Text) :
    sortNames names = names.insertionSort (· ≤ ·) := by
  induction names with
  | nil => rfl
  | cons name rest ih =>
      rw [List.insertionSort_cons, ← ih, ← insertName_eq]
      rfl

/-- Further names leave the others in order. -/
theorem sortNames_sublist {names more : List Text} (h : names.Sublist more) :
    (sortNames names).Sublist (sortNames more) := by
  rw [sortNames_eq, sortNames_eq]
  exact List.sublist_insertionSort' (List.pairwise_insertionSort _ names)
    ((List.perm_insertionSort _ names).subperm.trans h.subperm)

end Store

/-! ## Lists of results -/

/-- Two runs over the same items: where each result of the one is part of that of the other, so are
all of them together. -/
theorem flatMap_sublist {α β γ : Type} {R S : α → β → Prop} {f : β → List γ} {items : List α}
    {results more : List β} (h : List.Forall₂ R items results) (h' : List.Forall₂ S items more)
    (hpart : ∀ a, ∀ b ∈ results, ∀ c, R a b → S a c → (f b).Sublist (f c)) :
    (results.flatMap f).Sublist (more.flatMap f) := by
  induction h generalizing more with
  | nil => exact List.nil_sublist _
  | cons hfirst _ ih =>
      cases h' with
      | cons hfirst' hrest' =>
          rw [List.flatMap_cons, List.flatMap_cons]
          refine (hpart _ _ List.mem_cons_self _ hfirst hfirst').append (ih hrest' fun a b hb => ?_)
          exact hpart a b (List.mem_cons_of_mem _ hb)

/-! ## Results without placeholders -/

/-- Leaving out repeats concerns placeholders only. -/
theorem Resource.filter_withoutRepeats {host : Host} (seen : List Text) (xs : List Resource) :
    (withoutRepeats host seen xs).filter (!·.isPlaceholder) = xs.filter (!·.isPlaceholder) := by
  induction xs generalizing seen with
  | nil => rfl
  | cons x rest ih =>
      rw [withoutRepeats]
      split
      · rw [List.filter_cons, List.filter_cons, ih]
      · rename_i directory hdirectory
        have hplaceholder := (placeholderDirectory?_eq_some hdirectory).1
        split
        · rw [List.filter_cons_of_neg (by simp [hplaceholder]), ih]
        · rw [List.filter_cons, List.filter_cons, ih]

/-- Without placeholders a group comes to what is found for its references. -/
theorem StandardResolver.collect_of_resolveGroup {r : StandardResolver} {host : Host}
    {group : List Reference} {part : List Resource} (h : r.resolveGroup host group = .ok part) :
    (Probe.collect (r.probe host) group).outcome = .ok (part.filter (!·.isPlaceholder)) := by
  rcases resolveGroup_eq_ok h with ⟨hfound, -⟩ | ⟨hfound, empty, hempty, rfl⟩
  · have hall : part.filter (!·.isPlaceholder) = part :=
      List.filter_eq_self.mpr fun x hx => by simp [(mem_collect_probe hfound hx).2]
    rw [hall, hfound]
  · have hnone : empty.items.filter (!·.isPlaceholder) = [] := by
      refine List.filter_eq_nil_iff.mpr fun x hx => ?_
      obtain ⟨reference, -, list, hlist, hin⟩ := exists_of_mem_groupPlaceholders hempty hx
      simp [(mem_placeholders hlist hin).2.1]
    rw [hnone, hfound]

/-! ## Questions to a larger tree -/

/-- The host with another tree. -/
def Host.withTree (host : Host) (tree : FileTree) : Host := { host with tree := tree }

/-- If a package can be imported, it is imported from the same directory with another tree. -/
def Host.KeepsPackage (host : Host) (tree : FileTree) (name : Text) : Prop :=
  ∀ place, host.imports host.tree name = .package place → host.imports tree name = .package place

section Questions

variable {host : Host} {tree : FileTree}

theorem Host.packagePlace?_withTree {name : Text} {place : Place}
    (hkeeps : host.KeepsPackage tree name) (h : host.packagePlace? name = .ok (some place)) :
    (host.withTree tree).packagePlace? name = .ok (some place) := by
  obtain ⟨hname, hrelative, himports⟩ := packagePlace?_eq_some_iff.mp h
  exact packagePlace?_eq_some_iff.mpr ⟨hname, hrelative, hkeeps place himports⟩

variable (hgrows : host.tree.Extends tree)

include hgrows

theorem Host.packageEntry?_withTree {name path : Text} {entry : Entry}
    (hkeeps : host.KeepsPackage tree name)
    (h : host.packageEntry? name path = .ok (some entry)) :
    Host.packageEntry? (host.withTree tree) name path = .ok (some entry) := by
  obtain ⟨place, reached, hplace, hnul, hlength, hfollow, hentry⟩ := packageEntry?_eq_some_iff.mp h
  exact packageEntry?_eq_some_iff.mpr ⟨place, reached, packagePlace?_withTree hkeeps hplace, hnul,
    hlength, hgrows.follow hfollow, hgrows.entry? hentry⟩

theorem Handle.entry?_withTree {handle : Handle} {entry : Entry}
    (hkeeps : ∀ name ∈ handle.package?, host.KeepsPackage tree name)
    (h : handle.entry? host = .ok (some entry)) :
    handle.entry? (host.withTree tree) = .ok (some entry) := by
  cases handle with
  | package name path => exact Host.packageEntry?_withTree hgrows (hkeeps name rfl) h
  | file path =>
      cases hlookup : host.lookup path with
      | error fault =>
          rw [Handle.entry?, hlookup] at h
          cases h
      | ok found =>
          have hlarger : (host.withTree tree).lookup path = .ok found := hgrows.lookup hlookup
          rw [Handle.entry?, hlookup] at h
          rw [Handle.entry?, hlarger]
          exact h

/-- An answer about the entry at a handle stays if it is positive. -/
theorem Handle.exists?_withTree {handle : Handle}
    (hkeeps : ∀ name ∈ handle.package?, host.KeepsPackage tree name)
    (h : handle.exists? host = .ok true) : handle.exists? (host.withTree tree) = .ok true := by
  obtain ⟨found, hfound, h⟩ := bind_eq_ok_iff.mp h
  cases found with
  | none => cases h
  | some entry => exact bind_eq_ok_iff.mpr ⟨_, entry?_withTree hgrows hkeeps hfound, rfl⟩

theorem Handle.isDirectory?_withTree {path : Text}
    (h : (Handle.file path).isDirectory? host = .ok true) :
    (Handle.file path).isDirectory? (host.withTree tree) = .ok true := by
  obtain ⟨found, hfound, h⟩ := bind_eq_ok_iff.mp h
  cases found with
  | none => cases h
  | some entry => exact bind_eq_ok_iff.mpr ⟨_, entry?_withTree hgrows nofun hfound, h⟩

/-! ## Patterns in a larger tree -/

namespace Store

variable {store : Store}

theorem subdirectoryNames_withTree (place : Place) :
    (subdirectoryNames host place).Sublist (subdirectoryNames (host.withTree tree) place) := by
  refine sortNames_sublist ?_
  refine List.Sublist.trans (List.monotone_filter_right _ fun name hname => ?_)
    ((hgrows.children_sublist place).filter _)
  rw [Bool.and_eq_true] at hname ⊢
  exact ⟨hname.1, hgrows.any_entry? hname.2⟩

theorem subdirectories_withTree {pattern : Text} {found more : List Text}
    (h : store.subdirectories host pattern = .ok found)
    (h' : store.subdirectories (host.withTree tree) pattern = .ok more) : found.Sublist more := by
  obtain ⟨handle, hhandle, ⟨-, rfl⟩ | ⟨path, rfl, hdirectory, rfl⟩⟩ := subdirectories_eq_ok_iff.mp h
  · exact List.nil_sublist more
  · have hlarger := Handle.isDirectory?_withTree hgrows hdirectory
    obtain ⟨_, hsame, h'⟩ := subdirectories_eq_ok_iff.mp h'
    obtain rfl := Except.ok.inj (hhandle.symm.trans hsame)
    rcases h' with ⟨hnone, -⟩ | ⟨_, hpath, -, rfl⟩
    · rw [hlarger] at hnone
      cases hnone
    · obtain rfl := Handle.file.inj hpath
      exact (subdirectoryNames_withTree hgrows _).map _

/-- Files that a pattern stands for are still among those that it stands for, in order. -/
theorem expand_withTree {location : Text} {found more : List Handle}
    (h : store.expand host location .files = .ok found)
    (h' : store.expand (host.withTree tree) location .files = .ok more) : found.Sublist more := by
  unfold expand at h h'
  split at h
  · cases h
  · rename_i hcheck
    rw [hcheck] at h'
    obtain ⟨directories, hdirectories, h⟩ := bind_eq_ok_iff.mp h
    obtain ⟨larger, hlarger, h'⟩ := bind_eq_ok_iff.mp h'
    cases h
    cases h'
    refine List.Sublist.map _ (List.Sublist.trans
      (List.monotone_filter_right _ fun path hpath => ?_)
      (((subdirectories_withTree hgrows hdirectories hlarger).map _).filter _))
    cases hlookup : host.lookup path with
    | error fault =>
        rw [hlookup] at hpath
        cases hpath
    | ok entry =>
        have hsame : (host.withTree tree).lookup path = .ok entry := hgrows.lookup hlookup
        rw [hlookup] at hpath
        rw [hsame]
        exact hpath

end Store

/-! ## Passes in a larger tree -/

namespace StandardResolver

variable {r : StandardResolver} {parent : Option Reference}

/-- Whatever a probe has found it still finds. -/
theorem probe_withTree {x : Reference} {found more : List Resource}
    (hkeeps : ∀ y ∈ found, ∀ name ∈ y.handle.package?, host.KeepsPackage tree name)
    (h : (r.probe host x).outcome = .ok found)
    (h' : (r.probe (host.withTree tree) x).outcome = .ok more) : found.Sublist more := by
  cases hbeyond : isBeyondStore x with
  | true =>
      rw [probe, Probe.outcome_wrap, wrapFaults_eq_ok_iff, if_pos hbeyond] at h
      cases h
      exact List.nil_sublist more
  | false =>
      cases hpattern : isPattern x.resourceLocation with
      | true =>
          obtain ⟨handles, hhandles, -, rfl⟩ := (probe_pattern_eq_ok_iff hbeyond hpattern).mp h
          obtain ⟨larger, hlarger, -, rfl⟩ := (probe_pattern_eq_ok_iff hbeyond hpattern).mp h'
          exact (Store.expand_withTree hgrows hhandles hlarger).map _
      | false =>
          obtain ⟨handle, isThere, hhandle, hthere, rfl⟩ :=
            (probe_entry_eq_ok_iff hbeyond hpattern).mp h
          obtain ⟨_, isThere', hsame, hthere', rfl⟩ :=
            (probe_entry_eq_ok_iff hbeyond hpattern).mp h'
          obtain rfl := Except.ok.inj (hhandle.symm.trans hsame)
          cases isThere with
          | true =>
              rw [Handle.exists?_withTree hgrows (hkeeps _ List.mem_cons_self) hthere] at hthere'
              obtain rfl := Except.ok.inj hthere'
              exact List.Sublist.refl _
          | false =>
              cases hskip : x.isSkippable with
              | true => exact List.nil_sublist _
              | false =>
                  simp only [Bool.and_false, Bool.false_eq_true, if_false]
                  exact List.Sublist.refl _

theorem collect_withTree {group : List Reference} {found more : List Resource}
    (hkeeps : ∀ y ∈ found, ∀ name ∈ y.handle.package?, host.KeepsPackage tree name)
    (h : (Probe.collect (r.probe host) group).outcome = .ok found)
    (h' : (Probe.collect (r.probe (host.withTree tree)) group).outcome = .ok more) :
    found.Sublist more := by
  obtain ⟨lists, hlists, rfl⟩ := Probe.collect_eq_ok_iff.mp h
  obtain ⟨larger, hlarger, rfl⟩ := Probe.collect_eq_ok_iff.mp h'
  rw [← List.flatMap_id, ← List.flatMap_id]
  exact flatMap_sublist hlists hlarger fun x list hlist _ =>
    probe_withTree hgrows fun y hy => hkeeps y (List.mem_flatten_of_mem hlist hy)

theorem comes_withTree {t : Target} {part more : List Resource}
    (hkeeps : ∀ y ∈ part.filter (!·.isPlaceholder), ∀ name ∈ y.handle.package?,
      host.KeepsPackage tree name)
    (h : r.Comes host parent t part) (h' : r.Comes (host.withTree tree) parent t more) :
    (part.filter (!·.isPlaceholder)).Sublist (more.filter (!·.isPlaceholder)) := by
  obtain ⟨group, ⟨refs, hrefs, rfl⟩, hpart⟩ := h
  obtain ⟨_, ⟨same, hsame, rfl⟩, hmore⟩ := h'
  obtain rfl := Except.ok.inj (hrefs.symm.trans hsame)
  exact collect_withTree hgrows hkeeps (collect_of_resolveGroup hpart) (collect_of_resolveGroup hmore)

/-- Target by target, what was found stays in order. -/
theorem resolveTargets_withTree {origin : Option Text} {targets : List Target}
    (htargets : ∀ t ∈ targets, t.location.origin = origin) {found more : List Resource}
    (hkeeps : ∀ y ∈ found, ∀ name ∈ y.handle.package?, host.KeepsPackage tree name)
    (h : (r.resolveTargets host parent targets).outcome = .ok found)
    (h' : (r.resolveTargets (host.withTree tree) parent targets).outcome = .ok more) :
    (found.filter (!·.isPlaceholder)).Sublist (more.filter (!·.isPlaceholder)) := by
  obtain ⟨parts, hparts, rfl⟩ := (resolveTargets_eq_ok_iff_comes htargets).mp h
  obtain ⟨larger, hlarger, rfl⟩ := (resolveTargets_eq_ok_iff_comes htargets).mp h'
  have hall : ∀ y ∈ parts.flatten.filter (!·.isPlaceholder), ∀ name ∈ y.handle.package?,
      host.KeepsPackage tree name := by
    rw [← Resource.filter_withoutRepeats []]
    exact fun y hy => hkeeps y (List.mem_of_mem_filter hy)
  rw [Resource.filter_withoutRepeats, Resource.filter_withoutRepeats, List.filter_flatten,
    List.filter_flatten, ← List.flatMap_def, ← List.flatMap_def]
  refine flatMap_sublist hparts hlarger fun t part hpart _ => comes_withTree hgrows fun y hy => ?_
  rw [List.mem_filter] at hy
  exact hall y (List.mem_filter.mpr ⟨List.mem_flatten_of_mem hpart hy.1, hy.2⟩)

end StandardResolver

end Questions

namespace StandardResolver

/-- A new file that hides no package hides and reorders nothing: what a pass finds without it,
placeholders apart, is part of what the pass finds with it, in the same order. The packages are those
in which something was found, and there is none for locations outside of packages. -/
theorem resolvePass_addFile_sublist (r : StandardResolver) {host : Host} {place : Place}
    (hnew : host.tree.entry? place = none) (content : List UInt8) (parent : Option Reference)
    (l : Location) (profiles : Option (List Text)) {found more : List Resource}
    (h : (r.resolvePass host parent l profiles).outcome = .ok found)
    (h' : (r.resolvePass (host.withTree (host.tree.addFile place content)) parent l
      profiles).outcome = .ok more) :
    ((∀ x ∈ found, ∀ name ∈ x.handle.package?,
          host.KeepsPackage (host.tree.addFile place content) name) →
        (found.filter (!·.isPlaceholder)).Sublist (more.filter (!·.isPlaceholder)))
      ∧ ((∀ part ∈ l.parts, Text.startsWith (resourceLocation parent part) packageScheme = false) →
        ∀ x ∈ found, x.handle.package? = none) := by
  rw [resolvePass_eq] at h h'
  refine ⟨fun hkeeps => resolveTargets_withTree (FileTree.extends_addFile hnew content)
    (fun t => Location.origin_of_mem_targets) hkeeps h h', fun houtside x hx => ?_⟩
  rw [Option.eq_none_iff_forall_not_mem]
  intro name hname
  obtain ⟨t, ht, hinside⟩ := startsWith_of_found h hx hname
  rw [houtside t.location (Location.mem_targets ht).1] at hinside
  cases hinside

/-- A directory with one file, and a package inside of a bare directory. -/
def growingHost : Host where
  tree := ⟨[(["ws"], .directory), (["ws", "config"], .directory),
    (["ws", "config", "b"], .directory), (["ws", "config", "b", "app.yml"], .file []),
    (["ws", "a"], .directory), (["ws", "a", "b"], .directory),
    (["ws", "a", "b", "__init__.py"], .file []), (["ws", "a", "b", "app.yml"], .file [])]⟩
  workingDirectory := ["ws"]
  environment := []
  imports := ModuleDirectory.imports { place := ["ws"] }

theorem keepsPackage_growingHost {place : Place} (hnew : growingHost.tree.entry? place = none)
    (hsource : ∀ name ∈ place.getLast?, Text.endsWith name ModuleDirectory.sourceEnding = false)
    {name : Text} : growingHost.KeepsPackage (growingHost.tree.addFile place []) name :=
  fun _ => ModuleDirectory.imports_addFile hnew hsource [] { place := ["ws"] }

/-- A file in a new directory comes before the one that a wildcard stood for, and hides no package. -/
theorem resolvePass_addFile_sublist_config :
    ∃ found more,
      (sampleResolver.resolvePass growingHost none
          ⟨"config/*/app.yml;package:a.b/app.yml", false, none⟩ none).outcome = .ok found
        ∧ (sampleResolver.resolvePass
            (growingHost.withTree (growingHost.tree.addFile ["ws", "config", "a", "app.yml"] []))
            none ⟨"config/*/app.yml;package:a.b/app.yml", false, none⟩ none).outcome = .ok more
        ∧ found.map (·.handle) = [.file "/ws/config/b/app.yml", .package "a.b" "app.yml"]
        ∧ more.map (·.handle) =
          [.file "/ws/config/a/app.yml", .file "/ws/config/b/app.yml", .package "a.b" "app.yml"]
        ∧ (found.filter (!·.isPlaceholder)).Sublist (more.filter (!·.isPlaceholder)) := by
  have hnew : growingHost.tree.entry? ["ws", "config", "a", "app.yml"] = none := rfl
  have hfound : (sampleResolver.resolvePass growingHost none
      ⟨"config/*/app.yml;package:a.b/app.yml", false, none⟩ none).outcome = .ok _ := rfl
  have hmore : (sampleResolver.resolvePass
      (growingHost.withTree (growingHost.tree.addFile ["ws", "config", "a", "app.yml"] []))
      none ⟨"config/*/app.yml;package:a.b/app.yml", false, none⟩ none).outcome = .ok _ := rfl
  obtain ⟨hsublist, -⟩ :=
    resolvePass_addFile_sublist sampleResolver hnew [] none _ none hfound hmore
  exact ⟨_, _, hfound, hmore, rfl, rfl,
    hsublist fun _ _ _ _ => keepsPackage_growingHost hnew (by decide)⟩

/-- A source with the name of the bare directory hides the package in it. -/
theorem not_addFile_sublist_hidden_package :
    ¬∀ (r : StandardResolver) (host : Host) (place : Place) (content : List UInt8)
      (parent : Option Reference) (l : Location) (profiles : Option (List Text))
      (found more : List Resource), host.tree.entry? place = none →
      (r.resolvePass host parent l profiles).outcome = .ok found →
      (r.resolvePass (host.withTree (host.tree.addFile place content)) parent l
        profiles).outcome = .ok more →
      (found.filter (!·.isPlaceholder)).Sublist (more.filter (!·.isPlaceholder)) := by
  intro h
  have hfound : (sampleResolver.resolvePass growingHost none
      ⟨"package:a.b/app.yml", true, none⟩ none).outcome = .ok _ := rfl
  have hmore : (sampleResolver.resolvePass
      (growingHost.withTree (growingHost.tree.addFile ["ws", "a.py"] [])) none
      ⟨"package:a.b/app.yml", true, none⟩ none).outcome = .ok [] := rfl
  have hnone := h _ _ ["ws", "a.py"] [] none _ none _ _ rfl hfound hmore
  exact absurd hnone.length_le (by decide)

end StandardResolver

end ConfigLocator

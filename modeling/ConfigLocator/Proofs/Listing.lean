import ConfigLocator.Proofs.Location
import ConfigLocator.Proofs.OrderedSet
import ConfigLocator.Proofs.Outcome
import ConfigLocator.StandardResolver

/-!
# The references of a target

Before the store is asked, the resolver lists the references of every target. A reference carries
the location and the profile of its target (`StandardResolver.mem_references`), which is why two
targets never share one. For a directory the list is known exactly
(`StandardResolver.directoryReferences_eq`): name by name, each with the pairs of a loader and an
extension in order of `precedence`.
-/

namespace ConfigLocator

namespace OrderedSet

variable {α : Type} {same : α → α → Bool}

/-- Lists that are found for each item are gathered as one list would be. -/
theorem foldlM_insertMany {β γ : Type} {g : β → Except Fault γ} {h : β → γ} (list : γ → List α)
    {bs : List β} (hg : ∀ b ∈ bs, g b = .ok (h b)) (s : OrderedSet α same) :
    bs.foldlM (fun found b => do return found.insertMany (list (← g b))) s =
      .ok (s.insertMany (bs.flatMap fun b => list (h b))) := by
  induction bs generalizing s with
  | nil => rfl
  | cons b rest ih =>
      obtain ⟨hb, hrest⟩ := List.forall_mem_cons.mp hg
      rw [List.foldlM_cons, hb]
      show List.foldlM _ (s.insertMany (list (h b))) rest = _
      rw [ih hrest, List.flatMap_cons, insertMany_append]

end OrderedSet

/-! ## The same reference -/

namespace Reference

theorem same_iff {a b : Reference} :
    a.same b = true ↔
      a.location.same b.location = true ∧ a.directory = b.directory ∧ a.root = b.root
        ∧ a.profile = b.profile ∧ a.extension = b.extension ∧ a.loader.id = b.loader.id := by
  simp [same, Loader.same, and_assoc]

theorem same_refl (a : Reference) : a.same a = true :=
  same_iff.mpr ⟨Location.same_refl a.location, rfl, rfl, rfl, rfl, rfl⟩

theorem same_comm (a b : Reference) : a.same b = b.same a := by
  rw [Bool.eq_iff_iff, same_iff, same_iff, Location.same_iff, Location.same_iff]
  constructor <;> rintro ⟨⟨h1, h2⟩, h3, h4, h5, h6, h7⟩ <;> simp_all

theorem same_trans (a b c : Reference) (hab : a.same b = true) (hbc : b.same c = true) :
    a.same c = true := by
  rw [same_iff, Location.same_iff] at *
  obtain ⟨⟨h1, h2⟩, h3, h4, h5, h6, h7⟩ := hab
  obtain ⟨⟨k1, k2⟩, k3, k4, k5, k6, k7⟩ := hbc
  exact ⟨⟨h1.trans k1, h2.trans k2⟩, h3.trans k3, h4.trans k4, h5.trans k5, h6.trans k6,
    h7.trans k7⟩

end Reference

namespace StandardResolver

/-! ## Scanned directories -/

/-- The guess that a name with an extension of a loader is in a directory. -/
def candidate (l : Location) (directory : Text) (profile : Option Text) (name : Text)
    (pair : Loader × Text) : Reference :=
  ⟨l, some directory, directory ++ name, profile, some pair.2, pair.1⟩

/-- One loader and one extension. -/
def samePair (a b : Loader × Text) : Bool := a.1.same b.1 && a.2 == b.2

/-- The last registered pair first, each where it was registered first. -/
def precedence (pairs : List (Loader × Text)) : List (Loader × Text) :=
  (OrderedSet.firstOccurrences samePair [] pairs).reverse

section Candidates

variable {l : Location} {directory : Text} {profile : Option Text}

theorem same_candidate (name : Text) (p q : Loader × Text) :
    (candidate l directory profile name p).same (candidate l directory profile name q) =
      samePair p q := by
  rw [Bool.eq_iff_iff, Reference.same_iff]
  simp [candidate, samePair, Loader.same, Location.same_refl, and_comm]

theorem name_eq_of_same_candidate {name other : Text} {p q : Loader × Text}
    (h : (candidate l directory profile name p).same (candidate l directory profile other q) =
      true) : name = other := by
  have hroot := (Reference.same_iff.mp h).2.2.1
  simpa [candidate] using hroot

theorem items_candidates (pairs : List (Loader × Text)) (name : Text) :
    (OrderedSet.reversedPrecedence (pairs.map (candidate l directory profile name)) :
      References).items = (precedence pairs).map (candidate l directory profile name) := by
  rw [OrderedSet.items_reversedPrecedence fun a _ b _ => Reference.same_comm a b, precedence,
    List.map_reverse]
  congr 1
  exact OrderedSet.firstOccurrences_map (same_candidate name) [] pairs

theorem pairwise_candidates (pairs : List (Loader × Text)) (name : Text) :
    ((precedence pairs).map (candidate l directory profile name)).Pairwise
      fun a b => a.same b = false := by
  rw [← items_candidates]
  exact OrderedSet.distinct _

/-- Block by block: a name that came before brings its block again, which is dropped; a new name
brings a block that shares nothing with those before. -/
theorem firstOccurrences_blocks (pairs : List (Loader × Text)) (earlier names : List Text) :
    let block := fun name => (precedence pairs).map (candidate l directory profile name)
    OrderedSet.firstOccurrences Reference.same (earlier.flatMap block) (names.flatMap block) =
      (OrderedSet.firstOccurrences (· == ·) earlier names).flatMap block := by
  intro block
  induction names generalizing earlier with
  | nil => rfl
  | cons name rest ih =>
      rw [List.flatMap_cons, OrderedSet.firstOccurrences_append, OrderedSet.firstOccurrences]
      by_cases hname : name ∈ earlier
      · have hseen : ∀ a ∈ block name, (earlier.flatMap block).any (Reference.same · a) = true :=
          fun a ha => List.any_eq_true.mpr
            ⟨a, List.mem_flatMap.mpr ⟨name, hname, ha⟩, Reference.same_refl a⟩
        rw [OrderedSet.firstOccurrences_eq_nil hseen, List.nil_append, List.append_nil, ih,
          if_pos (by simpa using hname)]
      · have hnew : ∀ a ∈ block name, (earlier.flatMap block).any (Reference.same · a) = false := by
          intro a ha
          rw [← Bool.not_eq_true, List.any_eq_true]
          rintro ⟨b, hb, hba⟩
          obtain ⟨other, hother, hb⟩ := List.mem_flatMap.mp hb
          obtain ⟨p, -, rfl⟩ := List.mem_map.mp ha
          obtain ⟨q, -, rfl⟩ := List.mem_map.mp hb
          exact hname (name_eq_of_same_candidate hba ▸ hother)
        have hblocks : earlier.flatMap block ++ block name = (earlier ++ [name]).flatMap block := by
          simp
        rw [OrderedSet.firstOccurrences_eq_self (pairwise_candidates pairs name) hnew, hblocks, ih,
          if_neg (by simpa using hname), List.flatMap_cons]

end Candidates

/-! ## What a directory lists -/

/-- The candidates in a directory: the names in order, each with the pairs in order of precedence. -/
def scanList (r : StandardResolver) (pairs : List (Loader × Text)) (l : Location)
    (directory : Text) (profile : Option Text) : List Reference :=
  (OrderedSet.firstOccurrences (· == ·) [] r.names).flatMap fun name =>
    (precedence pairs).map (candidate l directory profile name)

section Directories

variable {r : StandardResolver} {l : Location} {directory : Text} {profile : Option Text}

theorem nameReferences_eq {pairs : List (Loader × Text)}
    (hpairs : Loader.candidates r.loaders = .ok pairs) (name : Text) :
    r.nameReferences l directory profile name =
      .ok (.reversedPrecedence (pairs.map (candidate l directory profile name))) := by
  rw [nameReferences, hpairs]
  rfl

/-- Of a directory exactly `scanList` is listed. -/
theorem directoryReferences_eq {pairs : List (Loader × Text)}
    (hpairs : Loader.candidates r.loaders = .ok pairs) :
    ∃ refs, r.directoryReferences l directory profile = .ok refs
      ∧ refs.items = r.scanList pairs l directory profile := by
  refine ⟨_, OrderedSet.foldlM_insertMany OrderedSet.items
    (fun name _ => nameReferences_eq hpairs name) .empty, ?_⟩
  simp only [items_candidates]
  rw [← OrderedSet.ofList, OrderedSet.items_ofList]
  exact firstOccurrences_blocks pairs [] r.names

/-- Without names the loaders are not asked. -/
theorem directoryReferences_nil (h : r.names = []) :
    r.directoryReferences l directory profile = .ok .empty := by
  rw [directoryReferences, h]
  rfl

theorem directoryReferences_error {fault : Fault} (hfault : Loader.candidates r.loaders = .error fault)
    (h : r.names ≠ []) : r.directoryReferences l directory profile = .error fault := by
  obtain ⟨name, rest, hnames⟩ := List.exists_cons_of_ne_nil h
  rw [directoryReferences, hnames, List.foldlM_cons, nameReferences, hfault]
  rfl

theorem mem_directoryReferences {refs : References} {x : Reference}
    (h : r.directoryReferences l directory profile = .ok refs) (hx : x ∈ refs.items) :
    ∃ name ∈ r.names, ∃ pairs, Loader.candidates r.loaders = .ok pairs
      ∧ ∃ pair ∈ pairs, x = candidate l directory profile name pair := by
  cases hpairs : Loader.candidates r.loaders with
  | error fault =>
      by_cases hnames : r.names = []
      · rw [directoryReferences_nil hnames] at h
        cases h
        cases hx
      · rw [directoryReferences_error hpairs hnames] at h
        cases h
  | ok pairs =>
      obtain ⟨refs', hrefs', hitems⟩ := directoryReferences_eq hpairs
      rw [hrefs'] at h
      cases h
      rw [hitems, scanList, List.mem_flatMap] at hx
      obtain ⟨name, hname, hx⟩ := hx
      obtain ⟨pair, hpair, rfl⟩ := List.mem_map.mp hx
      exact ⟨name, OrderedSet.mem_of_mem_firstOccurrences hname, pairs, rfl, pair,
        OrderedSet.mem_of_mem_firstOccurrences (List.mem_reverse.mp hpair), rfl⟩

end Directories

/-! ## What a target lists -/

section Targets

variable {r : StandardResolver}

theorem fileReference_eq_ok {l : Location} {file : Text} {profile : Option Text} {x : Reference}
    (h : r.fileReference l file profile = .ok x) :
    x.location = l ∧ x.directory = none ∧ x.profile = profile := by
  simp only [fileReference, bind_eq_ok_iff] at h
  obtain ⟨found, -, h⟩ := h
  cases found with
  | none => cases h
  | some pair =>
      cases h
      exact ⟨rfl, rfl, rfl⟩

/-- A directory lists its candidates, anything else a single file. -/
theorem references_eq_ok {parent : Option Reference} {t : Target} {refs : References}
    (h : r.references parent t = .ok refs) :
    let text := resourceLocation parent t.location
    (Path.isDirectoryText text = true ∧ r.directoryReferences t.location text t.profile = .ok refs)
      ∨ (Path.isDirectoryText text = false
        ∧ ∃ x, r.fileReference t.location text t.profile = .ok x ∧ refs.items = [x]) := by
  intro text
  rw [references, wrapFaults_eq_ok_iff] at h
  cases hdir : Path.isDirectoryText text with
  | true =>
      rw [if_pos hdir] at h
      exact Or.inl ⟨rfl, h⟩
  | false =>
      rw [if_neg (by simp [text, hdir]), bind_eq_ok_iff] at h
      obtain ⟨x, hx, h⟩ := h
      cases h
      exact Or.inr ⟨rfl, x, hx, rfl⟩

theorem mem_references {parent : Option Reference} {t : Target} {refs : References} {x : Reference}
    (h : r.references parent t = .ok refs) (hx : x ∈ refs.items) :
    x.location = t.location ∧ x.profile = t.profile := by
  rcases references_eq_ok h with ⟨-, hdir⟩ | ⟨-, y, hfile, hitems⟩
  · obtain ⟨name, -, pairs, -, pair, -, rfl⟩ := mem_directoryReferences hdir hx
    exact ⟨rfl, rfl⟩
  · rw [hitems, List.mem_singleton] at hx
    subst hx
    obtain ⟨hlocation, -, hprofile⟩ := fileReference_eq_ok hfile
    exact ⟨hlocation, hprofile⟩

end Targets

end StandardResolver

end ConfigLocator

import ConfigLocator.Proofs.Composition

/-!
# What a pass returns

Both passes of a resolver resolve a list of targets (`Location.targets`): the default pass takes the
parts of a location, the other one takes them for each profile in turn.

Whatever is returned was found for a reference of one of the targets, in one of two ways
(`StandardResolver.FoundFor`): the reference was probed, or the directory that it scans has a
placeholder. `StandardResolver.foundFor_of_mem_resolveTargets` is where every fact about returned
resources starts.
-/

namespace ConfigLocator

/-- The parts of a location in the default pass, and its parts for one profile after the other in the
pass for profiles. -/
def Location.targets (l : Location) : Option (List Text) → List Target
  | none => l.parts.map (⟨·, none⟩)
  | some profiles => profiles.flatMap fun profile => l.parts.map (⟨·, some profile⟩)

theorem Location.mem_targets {l : Location} {profiles : Option (List Text)} {t : Target}
    (h : t ∈ l.targets profiles) :
    t.location ∈ l.parts ∧ (profiles.isSome = true → t.profile.isSome = true) := by
  cases profiles with
  | none =>
      obtain ⟨part, hpart, rfl⟩ := List.mem_map.mp h
      exact ⟨hpart, fun hsome => by cases hsome⟩
  | some profiles =>
      obtain ⟨profile, -, h⟩ := List.mem_flatMap.mp h
      obtain ⟨part, hpart, rfl⟩ := List.mem_map.mp h
      exact ⟨hpart, fun _ => rfl⟩

theorem Location.origin_of_mem_targets {l : Location} {profiles : Option (List Text)} {t : Target}
    (h : t ∈ l.targets profiles) : t.location.origin = l.origin :=
  origin_of_mem_parts (mem_targets h).1

namespace StandardResolver

/-- The default pass, or the pass for some profiles. -/
def resolvePass (r : StandardResolver) (host : Host) (parent : Option Reference) (l : Location) :
    Option (List Text) → Probe (List Resource)
  | none => r.resolve host parent l
  | some profiles => r.resolveProfiles host parent l profiles

variable {r : StandardResolver} {host : Host} {parent : Option Reference} {x : Resource}

theorem resolvePass_eq (l : Location) (profiles : Option (List Text)) :
    r.resolvePass host parent l profiles = r.resolveTargets host parent (l.targets profiles) := by
  cases profiles <;> rfl

/-! ## Where a resource comes from -/

/-- How a resource is found for a target. -/
inductive FoundFor (r : StandardResolver) (host : Host) (parent : Option Reference) (t : Target)
    (x : Resource) : Prop
  | probed {refs : References} {list : List Resource} (hrefs : r.references parent t = .ok refs)
      (hreference : x.reference ∈ refs.items) (hfile : x.isPlaceholder = false)
      (hlist : (r.probe host x.reference).outcome = .ok list) (hx : x ∈ list)
  | placeholder {refs : References} {list : List Resource} (hrefs : r.references parent t = .ok refs)
      (hreference : x.reference ∈ refs.items) (hplaceholder : x.isPlaceholder = true)
      (hlist : r.placeholders host x.reference = .ok list) (hx : x ∈ list)

/-- A group holds references of one of the targets. -/
theorem exists_of_mem_referenceGroups {targets : List Target} {seen : References}
    {groups : List (List Reference)} (h : r.referenceGroups parent seen targets = .ok groups)
    {group : List Reference} (hgroup : group ∈ groups) :
    ∃ t ∈ targets, ∃ refs, r.references parent t = .ok refs ∧ ∀ y ∈ group, y ∈ refs.items := by
  induction targets generalizing seen groups with
  | nil =>
      cases h
      cases hgroup
  | cons t rest ih =>
      obtain ⟨refs, hrefs, later, hlater, rfl⟩ := referenceGroups_cons_eq_ok_iff.mp h
      rcases List.mem_cons.mp hgroup with rfl | hgroup
      · exact ⟨t, List.mem_cons_self, refs, hrefs, fun y hy => List.mem_of_mem_filter hy⟩
      · obtain ⟨u, hu, hfound⟩ := ih hlater hgroup
        exact ⟨u, List.mem_cons_of_mem t hu, hfound⟩

theorem foundFor_of_mem_resolveTargets {targets : List Target} {found : List Resource}
    (h : (r.resolveTargets host parent targets).outcome = .ok found) (hx : x ∈ found) :
    ∃ t ∈ targets, r.FoundFor host parent t x := by
  rw [resolveTargets, Probe.outcome_bind, Probe.outcome_ofExcept, bind_eq_ok_iff] at h
  obtain ⟨groups, hgroups, h⟩ := h
  obtain ⟨parts, hparts, rfl⟩ := (resolveGroups_eq_ok_iff Resource.tracks_empty).mp h
  obtain ⟨part, hpart, hmem⟩ := List.mem_flatten.mp (Resource.mem_of_mem_withoutRepeats hx)
  obtain ⟨group, hgroup, hcomes⟩ := exists_of_mem_results hparts hpart
  obtain ⟨t, ht, refs, hrefs, hsubset⟩ := exists_of_mem_referenceGroups hgroups hgroup
  refine ⟨t, ht, ?_⟩
  rcases resolveGroup_eq_ok hcomes with ⟨hfound, -⟩ | ⟨-, empty, hempty, rfl⟩
  · obtain ⟨reference, hreference, list, hlist, hin⟩ := Probe.exists_of_mem_collect hfound hmem
    obtain ⟨rfl, hfile⟩ := mem_probe hlist hin
    exact .probed hrefs (hsubset _ hreference) hfile hlist hin
  · obtain ⟨reference, hreference, list, hlist, hin⟩ := exists_of_mem_groupPlaceholders hempty hmem
    obtain ⟨rfl, hplaceholder, -⟩ := mem_placeholders hlist hin
    exact .placeholder hrefs (hsubset _ hreference) hplaceholder hlist hin

/-- A resource that some pass of the resolver finds. -/
def Returned (r : StandardResolver) (host : Host) (x : Resource) : Prop :=
  ∃ parent l found, x ∈ found ∧ ((r.resolve host parent l).outcome = .ok found
    ∨ ∃ profiles, (r.resolveProfiles host parent l profiles).outcome = .ok found)

theorem Returned.foundFor (h : r.Returned host x) : ∃ parent t, r.FoundFor host parent t x := by
  obtain ⟨parent, l, found, hx, h | ⟨profiles, h⟩⟩ := h
  · obtain ⟨t, -, ht⟩ := foundFor_of_mem_resolveTargets h hx
    exact ⟨parent, t, ht⟩
  · obtain ⟨t, -, ht⟩ := foundFor_of_mem_resolveTargets h hx
    exact ⟨parent, t, ht⟩

/-! ## Samples -/

/-- Looks for one name with one extension. -/
def sampleResolver : StandardResolver :=
  ⟨["application"], [⟨1, "yaml", .ok ["yml"], fun _ _ _ => .ok []⟩], {}⟩

/-- Nothing is there. -/
def emptyHost : Host where
  tree := .empty
  workingDirectory := []
  environment := []

end StandardResolver

end ConfigLocator

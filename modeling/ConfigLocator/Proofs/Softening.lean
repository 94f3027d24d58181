import ConfigLocator.Proofs.Existence
import ConfigLocator.Proofs.Failure

/-!
# Softened steps

A step for a mandatory location and the same step for its optional counterpart go together
(`Softens`): what is found is the same without the entries that are missing, a location that is not
found comes to nothing, and any other fault stays. Faults are compared up to the location that they
name (`Fault.Alike`), and resources are taken over to the other location (`Resource.relocate`).

Steps can be taken one after the other as long as the first does not end for want of a location
(`NeverMissing`), for there the optional run goes on where the mandatory one ends.
-/

namespace ConfigLocator

/-! ## Faults that differ in their location -/

namespace Fault

/-- The fault without the location that it names. -/
def withoutLocation : Fault → Fault
  | locationNotFound _ detail => locationNotFound none detail
  | resourceNotFound resource _ => resourceNotFound resource none
  | unsupportedLocation _ => unsupportedLocation none
  | unknownExtension _ file => unknownExtension none file
  | unresolvable _ cause => unresolvable none cause
  | fault => fault

def isLocationNotFound : Fault → Bool
  | locationNotFound .. => true
  | _ => false

/-- The same fault up to the location, and not that a location is not found. -/
structure Alike (fault other : Fault) : Prop where
  same : fault.withoutLocation = other.withoutLocation
  found : fault.isLocationNotFound = false

theorem found_of_not_isResolution {fault : Fault} (h : fault.isResolution = false) :
    fault.isLocationNotFound = false := by
  cases fault <;> first | rfl | cases h

theorem found_wrap_of_not_isResolution {fault : Fault} (h : fault.isResolution = false)
    (l : Location) : (fault.wrap l).isLocationNotFound = false := by
  unfold wrap
  split
  · exact found_of_not_isResolution h
  · rfl

theorem isResolution_withoutLocation (fault : Fault) :
    fault.withoutLocation.isResolution = fault.isResolution := by
  cases fault <;> rfl

theorem withoutLocation_of_not_isResolution {fault : Fault} (h : fault.isResolution = false) :
    fault.withoutLocation = fault := by
  cases fault <;> first | rfl | cases h

/-- A cause names no location, so it is kept as it is. -/
theorem Alike.wrap {fault other : Fault} (h : fault.Alike other) (l o : Location) :
    (fault.wrap l).Alike (other.wrap o) := by
  have hsame : fault.isResolution = other.isResolution := by
    rw [← isResolution_withoutLocation, h.same, isResolution_withoutLocation]
  cases hother : other.isResolution with
  | true =>
      rw [hother] at hsame
      rw [wrap_of_isResolution hsame, wrap_of_isResolution hother]
      exact h
  | false =>
      rw [hother] at hsame
      obtain rfl : fault = other := by
        rw [← withoutLocation_of_not_isResolution hsame, h.same,
          withoutLocation_of_not_isResolution hother]
      cases hpasses : fault.isInterruption with
      | true =>
          rw [wrap_of_isInterruption hpasses, wrap_of_isInterruption hpasses]
          exact h
      | false =>
          rw [wrap_of_not_isInterruption hother hpasses, wrap_of_not_isInterruption hother hpasses]
          exact ⟨rfl, rfl⟩

end Fault

/-! ## The same resource for another location -/

/-- The reference for another location. -/
def Reference.relocate (o : Location) (x : Reference) : Reference := { x with location := o }

/-- The resource for another location. -/
def Resource.relocate (o : Location) (x : Resource) : Resource :=
  { x with reference := x.reference.relocate o }

/-- Something is known to stand at a handle. -/
def Handle.isPresent (host : Host) (h : Handle) : Bool :=
  match h.exists? host with
  | .ok b => b
  | .error _ => false

theorem Handle.isPresent_of_exists? {host : Host} {h : Handle} {b : Bool}
    (hexists : h.exists? host = .ok b) : h.isPresent host = b := by
  rw [isPresent, hexists]

theorem Handle.isPresent_file_of_lookup {host : Host} {path : Text} {entry : Entry}
    (hlookup : host.lookup path = .ok entry) : (Handle.file path).isPresent host = true := by
  refine isPresent_of_exists? ?_
  rw [exists?_file, isThere, hlookup]
  rfl

/-- The resources that are there, for another location. -/
def Resource.softened (host : Host) (o : Location) (found : List Resource) : List Resource :=
  (found.filter (·.handle.isPresent host)).map (relocate o)

theorem Resource.softened_append (host : Host) (o : Location) (xs ys : List Resource) :
    softened host o (xs ++ ys) = softened host o xs ++ softened host o ys := by
  rw [softened, List.filter_append, List.map_append]
  rfl

theorem Resource.softened_of_present {host : Host} {o : Location} {found : List Resource}
    (h : ∀ x ∈ found, x.handle.isPresent host = true) :
    softened host o found = found.map (relocate o) := by
  rw [softened, List.filter_eq_self.mpr h]

/-! ## Steps with and without the mark -/

/-- How a step for a mandatory location and the step for its optional counterpart go together. -/
inductive Softens (host : Host) (o : Location) :
    Except Fault (List Resource) → Except Fault (List Resource) → Prop
  | found (list : List Resource) : Softens host o (.ok list) (.ok (Resource.softened host o list))
  | nothing {fault : Fault} (h : fault.isLocationNotFound = true) :
      Softens host o (.error fault) (.ok [])
  | failed {fault other : Fault} (h : fault.Alike other) :
      Softens host o (.error fault) (.error other)

section Softens

variable {host : Host} {o : Location} {e e' : Except Fault (List Resource)}

theorem Softens.of_softened {list others : List Resource}
    (h : Resource.softened host o list = others) : Softens host o (.ok list) (.ok others) := by
  subst h
  exact .found list

/-- No step fails because a location is not found. -/
def NeverMissing {α : Type} (e : Except Fault α) : Prop :=
  ∀ fault, e = .error fault → fault.isLocationNotFound = false

theorem Softens.bind {k k' : List Resource → Except Fault (List Resource)} (h : Softens host o e e')
    (hfound : NeverMissing e)
    (hk : ∀ list, e = .ok list → Softens host o (k list) (k' (Resource.softened host o list))) :
    Softens host o (e >>= k) (e' >>= k') := by
  cases h with
  | found list => exact hk list rfl
  | nothing h =>
      rw [hfound _ rfl] at h
      cases h
  | failed h => exact .failed h

/-- Rearranging what is found. -/
theorem Softens.map {g : List Resource → List Resource} (h : Softens host o e e') (hnil : g [] = [])
    (hg : ∀ list, e = .ok list →
      Resource.softened host o (g list) = g (Resource.softened host o list)) :
    Softens host o (e >>= fun list => pure (g list)) (e' >>= fun list => pure (g list)) := by
  cases h with
  | found list =>
      exact .of_softened (hg list rfl)
  | nothing h =>
      show Softens host o _ (.ok (g []))
      rw [hnil]
      exact .nothing h
  | failed h => exact .failed h

/-- Both ask the store the same question. -/
theorem Softens.ask {α : Type} {question : Except Fault α}
    {k k' : α → Except Fault (List Resource)}
    (hrefused : ∀ fault, question = .error fault → fault.isResolution = false)
    (hk : ∀ a, question = .ok a → Softens host o (k a) (k' a)) :
    Softens host o (question >>= k) (question >>= k') := by
  cases question with
  | ok a => exact hk a rfl
  | error fault =>
      exact .failed ⟨rfl, Fault.found_of_not_isResolution (hrefused fault rfl)⟩

theorem Softens.wrap (h : Softens host o e e') (l : Location) :
    Softens host o (wrapFaults l e) (wrapFaults o e') := by
  cases h with
  | found list => exact .found list
  | failed h => exact .failed (h.wrap l o)
  | nothing h =>
      rename_i fault
      refine .nothing ?_
      cases fault <;> exact h

theorem neverMissing_collect {f : Reference → Probe (List Resource)} {group : List Reference}
    (h : ∀ x ∈ group, NeverMissing (f x).outcome) : NeverMissing (Probe.collect f group).outcome := by
  intro fault hfault
  obtain ⟨x, hx⟩ := Probe.collect_eq_error_iff.mp hfault
  exact h x hx.mem fault hx.eq_error

/-- Steps one after the other. -/
theorem Softens.collect {f f' : Reference → Probe (List Resource)} {group : List Reference}
    (h : ∀ x ∈ group, Softens host o (f x).outcome (f' (x.relocate o)).outcome)
    (hfound : ∀ x ∈ group, NeverMissing (f x).outcome) :
    Softens host o (Probe.collect f group).outcome
      (Probe.collect f' (group.map (Reference.relocate o))).outcome := by
  induction group with
  | nil => exact .found []
  | cons x rest ih =>
      obtain ⟨hx, hrest⟩ := List.forall_mem_cons.mp h
      obtain ⟨hxfound, hrestfound⟩ := List.forall_mem_cons.mp hfound
      rw [List.map_cons, Probe.collect, Probe.collect, Probe.outcome_bind, Probe.outcome_bind]
      refine hx.bind hxfound fun list _ => ?_
      rw [Probe.outcome_bind, Probe.outcome_bind]
      refine (ih hrest hrestfound).bind (neverMissing_collect hrestfound) fun later _ => ?_
      exact .of_softened (Resource.softened_append host o list later)

end Softens

end ConfigLocator

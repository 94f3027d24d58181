import ConfigLocator.Proofs.Outcome
import ConfigLocator.Proofs.Passes
import ConfigLocator.Registry

/-!
# Dispatch of locations

A registry asks the resolvers supplied from outside in the order in which they were given, and takes
the first one that accepts the location. The standard resolver is left over for what none of them
accepts, wherever it stood when the registry was built (`Registry.outcome_dispatch_append_iff` for
the resolvers that are asked, `Registry.resolvers_ofList` for the order).

`Registry.outcome_resolve_ofList_iff` says what a resolution comes to in every case: with no
location, with a resolver that accepts or whose answer is a fault, with the standard resolver alone,
and with nobody who accepts. The results of a resolver are those of its default pass and then, when
profiles are given, those of its pass for profiles (`Resolver.Serves`).
-/

namespace ConfigLocator

/-! ## The two kinds of resolvers -/

namespace Resolver

/-- A resolver supplied from outside. -/
def custom? : Resolver → Option CustomResolver
  | standard _ => none
  | custom r => some r

def standard? : Resolver → Option StandardResolver
  | standard r => some r
  | custom _ => none

end Resolver

namespace Registry

/-- The resolvers supplied from outside, in order. -/
def customs (resolvers : List Resolver) : List CustomResolver :=
  resolvers.filterMap Resolver.custom?

def standards (resolvers : List Resolver) : List StandardResolver :=
  resolvers.filterMap Resolver.standard?

/-- At most one of the resolvers is a standard one. -/
def AtMostOneStandard (resolvers : List Resolver) : Prop := (standards resolvers).length ≤ 1

theorem map_customs (resolvers : List Resolver) :
    (customs resolvers).map .custom = resolvers.filter (!·.isStandard) := by
  induction resolvers with
  | nil => rfl
  | cons r rest ih =>
      cases r with
      | standard r => exact ih
      | custom r =>
          show .custom r :: (customs rest).map .custom = .custom r :: rest.filter (!·.isStandard)
          rw [ih]

theorem map_standards (resolvers : List Resolver) :
    (standards resolvers).map .standard = resolvers.filter (·.isStandard) := by
  induction resolvers with
  | nil => rfl
  | cons r rest ih =>
      cases r with
      | custom r => exact ih
      | standard r =>
          show .standard r :: (standards rest).map .standard = .standard r :: rest.filter (·.isStandard)
          rw [ih]

theorem mem_standards {resolvers : List Resolver} {r : StandardResolver} :
    r ∈ standards resolvers ↔ .standard r ∈ resolvers := by
  have hfilter : (.standard r : Resolver) ∈ resolvers.filter (·.isStandard) ↔
      .standard r ∈ resolvers := by
    simp [Resolver.isStandard]
  rw [← hfilter, ← map_standards, List.mem_map]
  constructor
  · exact fun h => ⟨r, h, rfl⟩
  · rintro ⟨other, hother, heq⟩
    obtain rfl := Resolver.standard.inj heq
    exact hother

/-- However the resolvers were given, those from outside come first and the standard one last. -/
theorem resolvers_ofList {resolvers : List Resolver} (hone : AtMostOneStandard resolvers) :
    (ofList resolvers).resolvers =
      (customs resolvers).map .custom ++ (standards resolvers).map .standard := by
  have hlast : ((standards resolvers).map Resolver.standard).getLast?.toList =
      (standards resolvers).map .standard := by
    unfold AtMostOneStandard at hone
    match hstandards : standards resolvers with
    | [] => rfl
    | [r] => rfl
    | r :: other :: rest =>
        rw [hstandards] at hone
        simp only [List.length_cons] at hone
        omega
  rw [ofList, ← map_customs, ← map_standards, hlast]

end Registry

/-! ## Both passes -/

namespace Resolver

variable {c : Context} {l : Location} {r : Resolver} {profiles : Option (List Text)}
  {e : Except Fault (List Resolution)}

/-- The default pass by itself, which may come to no list. -/
def defaultPass (c : Context) (l : Location) : Resolver → Except Fault (Option (List Item))
  | standard r => do return some ((← (r.resolve c.host c.parentReference? l).outcome).map .resource)
  | custom r => r.resolve c l

/-- The pass for profiles by itself, which may come to no list. -/
def profilePass (c : Context) (l : Location) (profiles : List Text) :
    Resolver → Except Fault (Option (List Item))
  | standard r => do
    return some ((← (r.resolveProfiles c.host c.parentReference? l profiles).outcome).map .resource)
  | custom r => r.resolveProfiles c l profiles

theorem outcome_resolve (r : Resolver) :
    (resolve c l r).outcome = r.defaultPass c l >>= fun items => pure (items.getD []) := by
  cases r with
  | custom r => rw [resolve, Probe.outcome_bind]; rfl
  | standard r =>
      rw [resolve, Probe.outcome_bind, defaultPass]
      cases (r.resolve c.host c.parentReference? l).outcome <;> rfl

theorem outcome_resolveProfiles (r : Resolver) (profiles : List Text) :
    (resolveProfiles c l profiles r).outcome =
      r.profilePass c l profiles >>= fun items => pure (items.getD []) := by
  cases r with
  | custom r => rw [resolveProfiles, Probe.outcome_bind]; rfl
  | standard r =>
      rw [resolveProfiles, Probe.outcome_bind, profilePass]
      cases (r.resolveProfiles c.host c.parentReference? l profiles).outcome <;> rfl

/-- What the passes of a resolver come to for a location: the items of the default pass and then,
when profiles are given, those of the pass for profiles, or the fault of the first pass that fails.
No list counts as an empty one. -/
inductive Serves (c : Context) (l : Location) (r : Resolver) :
    Option (List Text) → Except Fault (List Resolution) → Prop
  | failed {profiles : Option (List Text)} {fault : Fault} (h : r.defaultPass c l = .error fault) :
      Serves c l r profiles (.error fault)
  | default {items : Option (List Item)} (h : r.defaultPass c l = .ok items) :
      Serves c l r none (.ok ((items.getD []).map (⟨l, ·, false⟩)))
  | profilesFailed {items : Option (List Item)} {profiles : List Text} {fault : Fault}
      (h : r.defaultPass c l = .ok items) (hprofiles : r.profilePass c l profiles = .error fault) :
      Serves c l r (some profiles) (.error fault)
  | both {items more : Option (List Item)} {profiles : List Text}
      (h : r.defaultPass c l = .ok items) (hprofiles : r.profilePass c l profiles = .ok more) :
      Serves c l r (some profiles)
        (.ok ((items.getD []).map (⟨l, ·, false⟩) ++ (more.getD []).map (⟨l, ·, true⟩)))

theorem serves_resolveWith (c : Context) (l : Location) (r : Resolver)
    (profiles : Option (List Text)) :
    r.Serves c l profiles (Registry.resolveWith c l profiles r).outcome := by
  rw [Registry.resolveWith, Probe.outcome_bind, outcome_resolve]
  cases hdefault : r.defaultPass c l with
  | error fault => exact .failed hdefault
  | ok items =>
      cases profiles with
      | none => exact .default hdefault
      | some profiles =>
          show r.Serves c l (some profiles)
            (Probe.outcome (resolveProfiles c l profiles r >>= fun more => _))
          rw [Probe.outcome_bind, outcome_resolveProfiles]
          cases hprofiles : r.profilePass c l profiles with
          | error fault => exact .profilesFailed hdefault hprofiles
          | ok more => exact .both hdefault hprofiles

/-- The passes come to one thing only. -/
theorem Serves.unique {e' : Except Fault (List Resolution)} (h : r.Serves c l profiles e)
    (h' : r.Serves c l profiles e') : e = e' := by
  cases h with
  | failed hdefault => cases h' <;> simp_all
  | default hdefault => cases h' <;> simp_all
  | profilesFailed hdefault hprofiles => cases h' <;> simp_all
  | both hdefault hprofiles => cases h' <;> simp_all

theorem outcome_resolveWith_eq_iff :
    (Registry.resolveWith c l profiles r).outcome = e ↔ r.Serves c l profiles e := by
  constructor
  · rintro rfl
    exact serves_resolveWith c l r profiles
  · exact fun h => (serves_resolveWith c l r profiles).unique h

end Resolver

/-! ## Who is asked -/

namespace Registry

variable {c : Context} {l : Location} {profiles : Option (List Text)}
  {e : Except Fault (List Resolution)}

/-- All of them refuse the location. -/
def Refuse (c : Context) (l : Location) (resolvers : List CustomResolver) : Prop :=
  ∀ r ∈ resolvers, r.accepts c l = .ok false

/-- A resolver that does not refuse decides: it accepts the location, and its passes are run, or its
answer is a fault. -/
inductive Decides (c : Context) (l : Location) (profiles : Option (List Text)) (r : CustomResolver) :
    Except Fault (List Resolution) → Prop
  | accepted {e : Except Fault (List Resolution)} (haccepts : r.accepts c l = .ok true)
      (hserves : (Resolver.custom r).Serves c l profiles e) : Decides c l profiles r e
  | failed {fault : Fault} (hfault : r.accepts c l = .error fault) :
      Decides c l profiles r (.error fault)

/-- The first of the resolvers that does not refuse decides. -/
def Settles (c : Context) (l : Location) (profiles : Option (List Text))
    (resolvers : List CustomResolver) (e : Except Fault (List Resolution)) : Prop :=
  ∃ before r after, resolvers = before ++ r :: after ∧ Refuse c l before ∧ Decides c l profiles r e

theorem not_settles_nil : ¬Settles c l profiles [] e := by
  rintro ⟨before, r, after, h, -⟩
  simp at h

theorem settles_cons_iff {r : CustomResolver} {rest : List CustomResolver} :
    Settles c l profiles (r :: rest) e ↔
      Decides c l profiles r e ∨ (r.accepts c l = .ok false ∧ Settles c l profiles rest e) := by
  constructor
  · rintro ⟨before, s, after, hresolvers, hbefore, hdecides⟩
    cases before with
    | nil =>
        obtain ⟨rfl, -⟩ := List.cons.inj hresolvers
        exact Or.inl hdecides
    | cons b before =>
        obtain ⟨rfl, rfl⟩ := List.cons.inj hresolvers
        obtain ⟨hr, hbefore⟩ := List.forall_mem_cons.mp hbefore
        exact Or.inr ⟨hr, before, s, after, rfl, hbefore, hdecides⟩
  · rintro (hdecides | ⟨hr, before, s, after, rfl, hbefore, hdecides⟩)
    · exact ⟨[], r, rest, rfl, by simp [Refuse], hdecides⟩
    · exact ⟨r :: before, s, after, rfl, List.forall_mem_cons.mpr ⟨hr, hbefore⟩, hdecides⟩

/-- One resolver is asked: it decides, or leaves the location to those behind it. -/
theorem outcome_dispatch_cons_iff {r : CustomResolver} {others : List Resolver} :
    (dispatch c l profiles (.custom r :: others)).outcome = e ↔
      Decides c l profiles r e
        ∨ (r.accepts c l = .ok false ∧ (dispatch c l profiles others).outcome = e) := by
  have hstep : (dispatch c l profiles (.custom r :: others)).outcome =
      (r.accepts c l >>= fun accepted =>
        (if accepted then resolveWith c l profiles (.custom r)
          else dispatch c l profiles others).outcome) := by
    rw [dispatch, Probe.outcome_bind]
    rfl
  rw [hstep]
  cases hr : r.accepts c l with
  | error fault =>
      constructor
      · rintro rfl
        exact Or.inl (.failed hr)
      · rintro (hdecides | ⟨hrefuses, -⟩)
        · cases hdecides with
          | accepted haccepts => simp [hr] at haccepts
          | failed hfault =>
              rw [hr] at hfault
              obtain rfl := Except.error.inj hfault
              rfl
        · cases hrefuses
  | ok accepted =>
      cases accepted with
      | false =>
          constructor
          · exact fun h => Or.inr ⟨rfl, h⟩
          · rintro (hdecides | ⟨-, h⟩)
            · cases hdecides with
              | accepted haccepts => simp [hr] at haccepts
              | failed hfault => simp [hr] at hfault
            · exact h
      | true =>
          show (resolveWith c l profiles (.custom r)).outcome = e ↔ _
          rw [Resolver.outcome_resolveWith_eq_iff]
          constructor
          · exact fun hserves => Or.inl (.accepted hr hserves)
          · rintro (hdecides | ⟨hrefuses, -⟩)
            · cases hdecides with
              | accepted _ hserves => exact hserves
              | failed hfault => simp [hr] at hfault
            · simp at hrefuses

/-- The first of the resolvers from outside that does not refuse decides; what all of them refuse is
left to those behind them. -/
theorem outcome_dispatch_append_iff (resolvers : List CustomResolver) (others : List Resolver) :
    (dispatch c l profiles (resolvers.map .custom ++ others)).outcome = e ↔
      Settles c l profiles resolvers e
        ∨ (Refuse c l resolvers ∧ (dispatch c l profiles others).outcome = e) := by
  induction resolvers with
  | nil => simp [not_settles_nil, Refuse]
  | cons r rest ih =>
      have hrefuse : Refuse c l (r :: rest) ↔ r.accepts c l = .ok false ∧ Refuse c l rest :=
        List.forall_mem_cons
      rw [List.map_cons, List.cons_append, outcome_dispatch_cons_iff, ih, settles_cons_iff, hrefuse]
      tauto

/-! ## Resolution -/

/-- What the resolution of a location comes to with some resolvers, of which at most one is a standard
one. It does not matter where that stands among them. -/
inductive ComesTo (c : Context) (resolvers : List Resolver) (profiles : Option (List Text)) :
    Option Location → Except Fault (List Resolution) → Prop
  | absent : ComesTo c resolvers profiles none (.ok [])
  | settled {l : Location} {e : Except Fault (List Resolution)}
      (h : Settles c l profiles (customs resolvers) e) : ComesTo c resolvers profiles (some l) e
  | standard {l : Location} {r : StandardResolver} {e : Except Fault (List Resolution)}
      (hrefuse : Refuse c l (customs resolvers)) (hr : .standard r ∈ resolvers)
      (hserves : (Resolver.standard r).Serves c l profiles e) :
      ComesTo c resolvers profiles (some l) e
  | unsupported {l : Location} (hrefuse : Refuse c l (customs resolvers))
      (hnone : ∀ r, .standard r ∉ resolvers) :
      ComesTo c resolvers profiles (some l) (.error (.unsupportedLocation (some l)))

/-- The standard resolver accepts whatever is left to it, and without one nobody does. -/
theorem outcome_dispatch_standards_iff {resolvers : List Resolver}
    (hone : AtMostOneStandard resolvers) :
    (dispatch c l profiles ((standards resolvers).map .standard)).outcome = e ↔
      (∃ r, .standard r ∈ resolvers ∧ (Resolver.standard r).Serves c l profiles e)
        ∨ ((∀ r, .standard r ∉ resolvers) ∧ e = .error (.unsupportedLocation (some l))) := by
  unfold AtMostOneStandard at hone
  simp only [← mem_standards]
  match hstandards : standards resolvers with
  | [] =>
      show Except.error (Fault.unsupportedLocation (some l)) = e ↔ _
      simp [eq_comm]
  | [r] =>
      have hstep : (dispatch c l profiles [.standard r]).outcome =
          (resolveWith c l profiles (.standard r)).outcome := by
        rw [dispatch, Probe.outcome_bind]
        rfl
      rw [List.map_singleton, hstep, Resolver.outcome_resolveWith_eq_iff]
      simp
  | r :: other :: rest =>
      rw [hstandards] at hone
      simp only [List.length_cons] at hone
      omega

/-- A resolution comes to exactly one thing: nothing for an absent location; what the first resolver
from outside that does not refuse decides; what the standard resolver finds where all of them refuse;
or the fault that nobody accepts the location. -/
theorem outcome_resolve_ofList_iff {resolvers : List Resolver} (hone : AtMostOneStandard resolvers)
    (c : Context) (location : Option Location) (profiles : Option (List Text))
    (e : Except Fault (List Resolution)) :
    ((ofList resolvers).resolve c location profiles).outcome = e ↔
      ComesTo c resolvers profiles location e := by
  cases location with
  | none =>
      constructor
      · rintro rfl
        exact .absent
      · intro h
        cases h
        rfl
  | some l =>
      rw [resolve, resolvers_ofList hone, outcome_dispatch_append_iff,
        outcome_dispatch_standards_iff hone]
      constructor
      · rintro (hsettles | ⟨hrefuse, ⟨r, hr, hserves⟩ | ⟨hnone, rfl⟩⟩)
        · exact .settled hsettles
        · exact .standard hrefuse hr hserves
        · exact .unsupported hrefuse hnone
      · intro h
        cases h with
        | settled hsettles => exact Or.inl hsettles
        | standard hrefuse hr hserves => exact Or.inr ⟨hrefuse, Or.inl ⟨_, hr, hserves⟩⟩
        | unsupported hrefuse hnone => exact Or.inr ⟨hrefuse, Or.inr ⟨hnone, rfl⟩⟩

/-- Accepts locations with its lead, and finds one item in the default pass, no list in the pass for
profiles. -/
def leadResolver (lead item : Text) : CustomResolver where
  typeName := "LeadResolver"
  name := lead
  lead := some lead
  accepts := fun _ l => .ok (l.hasLead lead)
  resolve := fun _ _ => .ok (some [.text item])
  resolveProfiles := fun _ _ _ => .ok none

/-- A location that the first resolver from outside refuses and the second one accepts is not left to
the standard resolver, although that was given first. -/
theorem outcome_resolve_ofList_leads :
    AtMostOneStandard [.standard StandardResolver.sampleResolver, .custom (leadResolver "vault:" "a"),
        .custom (leadResolver "env:" "b")]
      ∧ ((ofList [.standard StandardResolver.sampleResolver, .custom (leadResolver "vault:" "a"),
          .custom (leadResolver "env:" "b")]).resolve ⟨StandardResolver.emptyHost, none, none⟩
            (some ⟨"env:app", false, none⟩) (some ["dev"])).outcome =
        .ok [⟨⟨"env:app", false, none⟩, .text "b", false⟩] := by
  have hone : AtMostOneStandard [.standard StandardResolver.sampleResolver,
      .custom (leadResolver "vault:" "a"), .custom (leadResolver "env:" "b")] := by
    show 1 ≤ 1
    omega
  refine ⟨hone, (outcome_resolve_ofList_iff hone _ _ _ _).mpr (.settled ?_)⟩
  refine ⟨[leadResolver "vault:" "a"], leadResolver "env:" "b", [], rfl, ?_, .accepted rfl ?_⟩
  · intro r hr
    obtain rfl := List.mem_singleton.mp hr
    rfl
  · have hdefault : (Resolver.custom (leadResolver "env:" "b")).defaultPass
        ⟨StandardResolver.emptyHost, none, none⟩ ⟨"env:app", false, none⟩ =
          .ok (some [.text "b"]) := rfl
    have hprofiles : (Resolver.custom (leadResolver "env:" "b")).profilePass
        ⟨StandardResolver.emptyHost, none, none⟩ ⟨"env:app", false, none⟩ ["dev"] = .ok none := rfl
    exact .both hdefault hprofiles

end Registry

end ConfigLocator

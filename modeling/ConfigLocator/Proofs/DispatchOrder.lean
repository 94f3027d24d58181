import Mathlib.Data.List.Perm.Basic
import ConfigLocator.Bootstrap
import ConfigLocator.Proofs.Dispatch

/-!
# The order of dispatch

A registry has one place for a standard resolver, at the end. One more resolver from outside goes in
front of that place (`Registry.resolvers_ofList_concat_custom`), and one more standard resolver takes
it, so that the one before is no longer there (`Registry.resolvers_ofList_concat_standard`).

Taken one after the other, the resolvers that are given come to those in the registry and those that
lost their place (`Registry.perm_resolvers_ofList`). So the registry has all of them exactly when at
most one is a standard one, and the same goes for the resolvers that are built from a list of blocks
(`Registry.holds_all_iff`).
-/

namespace ConfigLocator

namespace Registry

variable {resolvers : List Resolver}

/-! ## One resolver more -/

theorem customs_concat_custom (resolvers : List Resolver) (r : CustomResolver) :
    customs (resolvers ++ [.custom r]) = customs resolvers ++ [r] :=
  List.filterMap_append

theorem customs_concat_standard (resolvers : List Resolver) (r : StandardResolver) :
    customs (resolvers ++ [.standard r]) = customs resolvers := by
  rw [customs, List.filterMap_append]
  exact List.append_nil _

theorem standards_concat_custom (resolvers : List Resolver) (r : CustomResolver) :
    standards (resolvers ++ [.custom r]) = standards resolvers := by
  rw [standards, List.filterMap_append]
  exact List.append_nil _

theorem standards_concat_standard (resolvers : List Resolver) (r : StandardResolver) :
    standards (resolvers ++ [.standard r]) = standards resolvers ++ [r] :=
  List.filterMap_append

/-- The standard resolver that has the place, if there is one. -/
def placed (resolvers : List Resolver) : List StandardResolver :=
  (standards resolvers).getLast?.toList

/-- The standard resolvers that a later one has taken the place of. -/
def displaced (resolvers : List Resolver) : List StandardResolver := (standards resolvers).dropLast

theorem displaced_append_placed (resolvers : List Resolver) :
    displaced resolvers ++ placed resolvers = standards resolvers := by
  rw [displaced, placed]
  cases hlast : (standards resolvers).getLast? with
  | none =>
      rw [List.getLast?_eq_none_iff] at hlast
      rw [hlast]
      rfl
  | some r => exact List.dropLast_append_getLast? r hlast

theorem displaced_eq_nil_iff : displaced resolvers = [] ↔ AtMostOneStandard resolvers := by
  rw [← List.length_eq_zero_iff, displaced, List.length_dropLast, AtMostOneStandard]
  omega

/-- Those from outside in order, and the last of the standard ones. -/
theorem resolvers_ofList_eq (resolvers : List Resolver) :
    (ofList resolvers).resolvers =
      (customs resolvers).map .custom ++ (placed resolvers).map .standard := by
  rw [ofList, ← map_customs, ← map_standards, List.getLast?_map, Option.toList_map, placed]

theorem resolvers_ofList_concat_custom (resolvers : List Resolver) (r : CustomResolver) :
    (ofList (resolvers ++ [.custom r])).resolvers =
      (customs resolvers).map .custom ++ .custom r :: (placed resolvers).map .standard := by
  rw [resolvers_ofList_eq, customs_concat_custom, placed, standards_concat_custom, ← placed]
  simp

theorem resolvers_ofList_concat_standard (resolvers : List Resolver) (r : StandardResolver) :
    (ofList (resolvers ++ [.standard r])).resolvers =
      (customs resolvers).map .custom ++ [.standard r] := by
  rw [resolvers_ofList_eq, customs_concat_standard, placed, standards_concat_standard]
  simp

/-! ## All resolvers -/

/-- None is lost but those that lost their place. -/
theorem perm_resolvers_ofList (resolvers : List Resolver) :
    ((ofList resolvers).resolvers ++ (displaced resolvers).map Resolver.standard).Perm resolvers := by
  induction resolvers using List.reverseRecOn with
  | nil => exact .refl _
  | append_singleton rest r ih =>
      refine .trans ?_ (List.perm_append_singleton r rest).symm
      rw [resolvers_ofList_eq] at ih
      cases r with
      | custom r =>
          rw [resolvers_ofList_concat_custom, displaced, standards_concat_custom, ← displaced,
            List.append_assoc, List.cons_append]
          refine List.perm_middle.trans ?_
          rw [← List.append_assoc]
          exact ih.cons _
      | standard r =>
          rw [resolvers_ofList_concat_standard, displaced, standards_concat_standard,
            List.dropLast_concat, ← displaced_append_placed rest, List.map_append,
            List.append_assoc, List.singleton_append]
          refine List.perm_middle.trans (.cons _ (.trans ?_ ih))
          rw [List.append_assoc]
          exact List.perm_append_comm.append_left _

theorem length_resolvers_ofList (resolvers : List Resolver) :
    (ofList resolvers).resolvers.length + (displaced resolvers).length = resolvers.length := by
  simpa using (perm_resolvers_ofList resolvers).length_eq

/-- As many as were given are left exactly when no standard one lost its place. -/
theorem length_resolvers_ofList_eq_iff :
    (ofList resolvers).resolvers.length = resolvers.length ↔ AtMostOneStandard resolvers := by
  rw [← displaced_eq_nil_iff, ← List.length_eq_zero_iff, ← length_resolvers_ofList resolvers]
  omega

theorem perm_resolvers_ofList_iff :
    (ofList resolvers).resolvers.Perm resolvers ↔ AtMostOneStandard resolvers := by
  constructor
  · exact fun h => length_resolvers_ofList_eq_iff.mp h.length_eq
  · intro hone
    have hperm := perm_resolvers_ofList resolvers
    rwa [displaced_eq_nil_iff.mpr hone, List.map_nil, List.append_nil] at hperm

/-! ## Registries of blocks -/

/-- What the blocks describe, one resolver for each. -/
def Describe (host : Host) (binder : Option Binder) (loaders : Option (List Loader))
    (store : Option Store) (additions : ResolverCatalog) :
    List Value → List Resolver → Prop :=
  List.Forall₂ fun block r =>
    Blueprint.instantiate (Catalog.update (Bootstrap.resolverCatalog host) additions) block none
      (Bootstrap.offers binder loaders store) = .ok r

/-- Whatever is given, the registry has all resolvers from outside in order and the last of the
standard ones behind them. Those that are missing are the standard ones before it. So the registry
has exactly the resolvers that are given, or one for each block, when at most one of them is a
standard one, and in no other case. -/
theorem holds_all_iff (resolvers : List Resolver) (host : Host) (blocks : List Value)
    (binder : Option Binder) (loaders : Option (List Loader)) (store : Option Store)
    (additions : ResolverCatalog) :
    ((ofList resolvers).resolvers =
        (customs resolvers).map .custom ++ (standards resolvers).getLast?.toList.map .standard
      ∧ ((ofList resolvers).resolvers ++
          (standards resolvers).dropLast.map Resolver.standard).Perm resolvers
      ∧ ((ofList resolvers).resolvers.Perm resolvers ↔ (standards resolvers).length ≤ 1))
    ∧ ∀ registry,
      Bootstrap.registry host blocks binder loaders store additions = .ok registry ↔
        ∃ built, Describe host binder loaders store additions blocks built
          ∧ registry = ofList built
          ∧ registry.resolvers.length + (standards built).dropLast.length = blocks.length
          ∧ (registry.resolvers.length = blocks.length ↔ (standards built).length ≤ 1) := by
  refine ⟨⟨resolvers_ofList_eq resolvers, perm_resolvers_ofList resolvers,
    perm_resolvers_ofList_iff⟩, fun registry => ?_⟩
  rw [Bootstrap.registry, bind_eq_ok_iff]
  constructor
  · rintro ⟨built, hbuilt, hregistry⟩
    have hdescribe := mapM_eq_ok_iff.mp hbuilt
    obtain rfl := Except.ok.inj hregistry
    rw [hdescribe.length_eq]
    exact ⟨built, hdescribe, rfl, length_resolvers_ofList built, length_resolvers_ofList_eq_iff⟩
  · rintro ⟨built, hdescribe, rfl, -⟩
    exact ⟨built, mapM_eq_ok_iff.mpr hdescribe, rfl⟩

end Registry

end ConfigLocator

import ConfigLocator.Proofs.Outcome
import ConfigLocator.StandardResolver

/-!
# What a probe finds

A probe of a reference returns in one of three ways: the location is beyond the store, a pattern was
expanded, or one entry was looked up. `StandardResolver.probe_entry_eq_ok_iff` and
`StandardResolver.probe_pattern_eq_ok_iff` say when the last two return, and with what;
`StandardResolver.probe_eq_ok` takes any probe apart that has returned.
-/

namespace ConfigLocator

namespace StandardResolver

variable {r : StandardResolver} {host : Host} {reference : Reference} {found : List Resource}

theorem storeFault_eq_ok_iff {e : Except StoreFault Handle} {handle : Handle} :
    storeFault e = .ok handle ↔ e = .ok handle := by
  cases e <;> simp [storeFault]

/-- A missing entry is passed over only if that is allowed. -/
theorem probe_entry_eq_ok_iff (hbeyond : isBeyondStore reference = false)
    (hpattern : isPattern reference.resourceLocation = false) :
    (r.probe host reference).outcome = .ok found ↔ ∃ handle isThere,
      r.store.handle reference.resourceLocation = .ok handle
        ∧ handle.exists? host = .ok isThere
        ∧ found = if !isThere && reference.isSkippable then [] else [⟨reference, handle, false⟩] := by
  have hstep : ∀ (handle : Handle) (isThere : Bool),
      (if !isThere && reference.isSkippable then Probe.skip reference
        else pure [⟨reference, handle, false⟩] : Probe (List Resource)).outcome =
        .ok (if !isThere && reference.isSkippable then [] else [⟨reference, handle, false⟩]) := by
    intro handle isThere
    cases !isThere && reference.isSkippable <;> rfl
  rw [probe, Probe.outcome_wrap, wrapFaults_eq_ok_iff, if_neg (by simp [hbeyond]),
    if_neg (by simp [hpattern]), probeEntry]
  simp only [Probe.outcome_bind, Probe.outcome_ofExcept, hstep, bind_eq_ok_iff, storeFault_eq_ok_iff,
    Except.ok.injEq]
  constructor
  · rintro ⟨handle, hhandle, isThere, hthere, rfl⟩
    exact ⟨handle, isThere, hhandle, hthere, rfl⟩
  · rintro ⟨handle, isThere, hhandle, hthere, rfl⟩
    exact ⟨handle, hhandle, isThere, hthere, rfl⟩

/-- A pattern has to stand for something unless it may be passed over. -/
theorem probe_pattern_eq_ok_iff (hbeyond : isBeyondStore reference = false)
    (hpattern : isPattern reference.resourceLocation = true) :
    (r.probe host reference).outcome = .ok found ↔ ∃ handles,
      r.store.expand host reference.resourceLocation .files = .ok handles
        ∧ (handles = [] → reference.isSkippable = true)
        ∧ found = handles.map (⟨reference, ·, false⟩) := by
  rw [probe, Probe.outcome_wrap, wrapFaults_eq_ok_iff, if_neg (by simp [hbeyond]), if_pos hpattern,
    probePattern]
  simp only [Probe.outcome_bind, Probe.outcome_ofExcept, bind_eq_ok_iff]
  refine exists_congr fun handles => and_congr_right fun _ => ?_
  cases handles with
  | nil =>
      cases reference.isSkippable with
      | false =>
          refine iff_of_false (fun h => by cases h) ?_
          rintro ⟨hskip, -⟩
          cases hskip rfl
      | true => exact ⟨fun h => ⟨fun _ => rfl, (Except.ok.inj h).symm⟩, fun ⟨_, h⟩ => h ▸ rfl⟩
  | cons handle rest =>
      have hne : handle :: rest ≠ [] := List.cons_ne_nil handle rest
      exact ⟨fun h => ⟨fun hnil => absurd hnil hne, (Except.ok.inj h).symm⟩, fun ⟨_, h⟩ => h ▸ rfl⟩

theorem probe_eq_ok (h : (r.probe host reference).outcome = .ok found) :
    (isBeyondStore reference = true ∧ found = [])
    ∨ (isPattern reference.resourceLocation = true ∧ ∃ handles,
        r.store.expand host reference.resourceLocation .files = .ok handles
          ∧ (handles = [] → reference.isSkippable = true)
          ∧ found = handles.map (⟨reference, ·, false⟩))
    ∨ (isPattern reference.resourceLocation = false ∧ ∃ handle isThere,
        r.store.handle reference.resourceLocation = .ok handle
          ∧ handle.exists? host = .ok isThere
          ∧ found =
            if !isThere && reference.isSkippable then [] else [⟨reference, handle, false⟩]) := by
  cases hbeyond : isBeyondStore reference with
  | true =>
      rw [probe, Probe.outcome_wrap, wrapFaults_eq_ok_iff, if_pos hbeyond] at h
      exact Or.inl ⟨rfl, (Except.ok.inj h).symm⟩
  | false =>
      cases hpattern : isPattern reference.resourceLocation with
      | true => exact Or.inr (Or.inl ⟨rfl, (probe_pattern_eq_ok_iff hbeyond hpattern).mp h⟩)
      | false => exact Or.inr (Or.inr ⟨rfl, (probe_entry_eq_ok_iff hbeyond hpattern).mp h⟩)

/-- A probe finds resources of its reference, and no placeholder. -/
theorem mem_probe (h : (r.probe host reference).outcome = .ok found) {x : Resource} (hx : x ∈ found) :
    x.reference = reference ∧ x.isPlaceholder = false := by
  rcases probe_eq_ok h with ⟨-, rfl⟩ | ⟨-, handles, -, -, rfl⟩ | ⟨-, handle, isThere, -, -, rfl⟩
  · cases hx
  · obtain ⟨handle, -, rfl⟩ := List.mem_map.mp hx
    exact ⟨rfl, rfl⟩
  · split at hx
    · cases hx
    · obtain rfl := List.mem_singleton.mp hx
      exact ⟨rfl, rfl⟩

theorem mem_collect_probe {group : List Reference}
    (h : (Probe.collect (r.probe host) group).outcome = .ok found) {x : Resource} (hx : x ∈ found) :
    x.reference ∈ group ∧ x.isPlaceholder = false := by
  obtain ⟨reference, hreference, list, hlist, hx⟩ := Probe.exists_of_mem_collect h hx
  obtain ⟨rfl, hplaceholder⟩ := mem_probe hlist hx
  exact ⟨hreference, hplaceholder⟩

end StandardResolver

end ConfigLocator

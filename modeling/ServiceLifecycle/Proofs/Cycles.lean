import ServiceLifecycle.Proofs.Closure

/-!
# Cycles never come up

Several services may be enabled at once that refer to each other in a circle, since each
may count on the others. All of them are then on their way up, but none of them ever
arrives: what is up stands on the ground, and whoever builds on a circle does not.

* **paths** — from the ground one reaches only what stands on it (`Grounded.reaches`);
* **cycles** — no service that leads into a cycle is up, whatever the run
  (`Setup.cycles_stay_down`), nor is its activation hook ever called
  (`Setup.cycles_never_activate`).
-/

namespace ServiceLifecycle

open Relation

namespace Scene

variable {S : Scene} {n m : Incarnation}

/-! ## Paths -/

theorem Grounded.refers (h : S.Grounded n) (href : S.Refers n m) : S.Grounded m := by
  obtain ⟨y, hy, hm⟩ := href
  cases h with
  | intro _ _ hground => exact hground y hy m hm

/-- Whatever can be reached from the ground along references stands on it. -/
theorem Grounded.reaches (h : S.Grounded n) (hpath : ReflTransGen S.Refers n m) :
    S.Grounded m := by
  induction hpath with
  | refl => exact h
  | tail _ hlast ih => exact ih.refers hlast

/-- A service whose references are all enabled has only references that stand on the ground. -/
theorem Supported.grounded_of_ready (h : Supported S) (hready : S.Ready n) (href : S.Refers n m) :
    S.Grounded m := by
  obtain ⟨y, hy, hm⟩ := href
  obtain ⟨m', hm', hup⟩ := Option.map_eq_some_iff.mp (hready y hy)
  obtain rfl : m' = m := Option.some.inj (hm'.symm.trans hm)
  exact h.grounded m' (by rw [hup]; rfl)

end Scene

/-! ## Cycles -/

namespace Provider

/-- Along references to registered services the service leads to one that refers to itself,
directly or through others. -/
def LeadsIntoCycle (p : Provider) (n : Incarnation) : Prop :=
  ∃ m, ReflTransGen p.Refers n m ∧ TransGen p.Refers m m

variable {p : Provider} {n : Incarnation}

theorem not_leadsIntoCycle (h : p.scene.Grounded n) : ¬ p.LeadsIntoCycle n := by
  rintro ⟨m, hpath, hcycle⟩
  rw [← refers_scene] at hpath hcycle
  exact (h.reaches hpath).acyclic hcycle

/-- Not even a service that is about to come up leads into a cycle. -/
theorem not_leadsIntoCycle_of_ready (h : p.scene.Lawful) (hready : p.scene.Ready n) :
    ¬ p.LeadsIntoCycle n := by
  rintro ⟨m, hpath, hcycle⟩
  -- the first reference on the way stands on the ground
  have hnext : ∀ k, p.Refers n k → ¬ p.LeadsIntoCycle k := fun k hk =>
    not_leadsIntoCycle (h.supported.grounded_of_ready hready (p.refers_scene ▸ hk))
  rcases hpath.cases_head with rfl | ⟨k, hk, hrest⟩
  · obtain ⟨k, hk, hback⟩ := TransGen.head'_iff.mp hcycle
    exact hnext k hk ⟨n, hback, hcycle⟩
  · exact hnext k hk ⟨m, hrest, hcycle⟩

end Provider

namespace Setup

/-- After every run, no service that leads into a cycle is enabled or disabling. -/
theorem cycles_stay_down (setup : Setup) (events : List Event) (n : Incarnation)
    (hcycle : (setup.provider.after events).LeadsIntoCycle n) :
    ((setup.provider.after events).service n).state ≠ .enabled ∧
      ((setup.provider.after events).service n).state ≠ .disabling := by
  have hdown : ((setup.provider.after events).service n).state.isUp ≠ true := fun hup =>
    Provider.not_leadsIntoCycle ((setup.lawful_after events).supported.grounded n hup) hcycle
  constructor <;> intro hstate <;> exact hdown (by rw [hstate]; rfl)

/-- Three services are enabled at once: two that refer to each other and one that refers to
the first of them. -/
def entangledRun : List Event :=
  [.request (.create "plain" ⟨"a"⟩ false), .request (.create "plain" ⟨"b"⟩ false),
    .request (.create "plain" ⟨"c"⟩ false), .request (.setProperty ⟨"a"⟩ "upstream" "b"),
    .request (.setProperty ⟨"b"⟩ "upstream" "a"), .request (.setProperty ⟨"c"⟩ "upstream" "a"),
    .request (.enableAll [⟨"c"⟩, ⟨"a"⟩, ⟨"b"⟩])]

theorem cycles_stay_down_entangled :
    ((plain.provider.after entangledRun).service 2).state = .enabling ∧
      (plain.provider.after entangledRun).LeadsIntoCycle 2 ∧
      ((plain.provider.after entangledRun).service 2).state ≠ .enabled ∧
      ((plain.provider.after entangledRun).service 2).state ≠ .disabling := by
  have hcycle : (plain.provider.after entangledRun).LeadsIntoCycle 2 :=
    ⟨0, .single (by decide +kernel), .tail (.single (by decide +kernel : Provider.Refers _ 0 1))
      (by decide +kernel)⟩
  exact ⟨by decide +kernel, hcycle, cycles_stay_down plain entangledRun 2 hcycle⟩

/-- The activation hook of a service that leads into a cycle is never under way, nor is it
called by the next event. -/
theorem cycles_never_activate (setup : Setup) (events : List Event) (n : Incarnation)
    (hcycle : (setup.provider.after events).LeadsIntoCycle n) (e : Event) :
    ¬ (setup.provider.after events).ActivatesIn e n := fun hin =>
  have hlaw := setup.lawful_after events
  Provider.not_leadsIntoCycle_of_ready hlaw (Provider.ready_of_activatesIn hlaw hin).2 hcycle

end Setup

end ServiceLifecycle

import ServiceLifecycle.Proofs.Workers
import ServiceLifecycle.Proofs.Works

/-!
# What requests do to the scheduler

A request submits tasks, or shuts the scheduler down, and does nothing else to it; nor does
it touch the settings of the registry. That is so whoever gets in before it is done, as long
as it holds for what they do; and what others do is again a list of requests.

* **intake** — tasks are taken in, and the scheduler may be shut down (`Provider.Assigns`);
* **requests** — every request is an intake (`Provider.assigns_perform`), also one that
  others interrupt (`Provider.assigns_serve`).
-/

namespace ServiceLifecycle

open Relation

/-- Between the two the scheduler has only received requests, and the settings are the same. -/
structure Provider.Assigns (p p' : Provider) : Prop where
  receives : ReflTransGen Scheduler.Receives p.tasks p'.tasks
  settings : p'.registry.settings = p.registry.settings

/-- Whoever gets in does no more to scheduler and settings than requests do. -/
def Interference.Assigns (between : Interference) : Prop :=
  ∀ (probe : Probe) (p : Provider), p.Assigns (between probe p)

theorem undisturbed_assigns : undisturbed.Assigns := fun _ _ => ⟨.refl, rfl⟩

namespace Provider

variable {between : Interference} {p p' p'' : Provider}

theorem Assigns.refl (p : Provider) : p.Assigns p := ⟨.refl, rfl⟩

theorem Assigns.trans (h : p.Assigns p') (h' : p'.Assigns p'') : p.Assigns p'' :=
  ⟨h.receives.trans h'.receives, h'.settings.trans h.settings⟩

/-- Nothing is done to scheduler and settings. -/
theorem assigns_of_eq (htasks : p'.tasks = p.tasks)
    (hsettings : p'.registry.settings = p.registry.settings) : p.Assigns p' :=
  ⟨htasks ▸ .refl, hsettings⟩

/-- What holds of the scheduler and is kept by whatever it receives still holds. -/
theorem Assigns.keeps {I : Scheduler Job HookRun → Prop} (hassigns : p.Assigns p') (h : I p.tasks)
    (hreceives : ∀ {s s'}, I s → Scheduler.Receives s s' → I s') : I p'.tasks := by
  have gen : ∀ {s s'}, ReflTransGen Scheduler.Receives s s' → I s → I s' := by
    intro s s' hsteps hs
    induction hsteps with
    | refl => exact hs
    | tail _ hlast ih => exact hreceives ih hlast
  exact gen hassigns.receives h

theorem Blames.assigns (h : Blames p p') : p.Assigns p' := by
  cases h with
  | nobody => exact .refl p
  | somebody => exact assigns_of_eq rfl rfl

section Between

variable (hbetween : between.Assigns)

include hbetween

/-- What keeps the ledger is an intake. -/
theorem Handles.assigns (h : Handles between p p') : p.Assigns p' := by
  induction h with
  | refl => exact .refl p
  | tail _ htouch ih =>
    refine ih.trans ?_
    cases htouch with
    | keeps htasks hledger => exact assigns_of_eq htasks (congrArg Ledger.settings hledger)
    | submits job gates => exact ⟨.single (.submits _ _ _ _), rfl⟩
    | shuts => exact ⟨.single .shuts, rfl⟩
    | opens => exact assigns_of_eq rfl rfl
    | yields probe => exact hbetween probe _

theorem Edit.assigns (h : Edit between p p') : p.Assigns p' := by
  rcases h.tends with ⟨probe, rfl⟩ | htends
  · exact hbetween probe p
  · exact assigns_of_eq htends.tasks htends.settings

/-- So is every series of works. -/
theorem Works.assigns (h : Works between p p') : p.Assigns p' := by
  induction h with
  | refl => exact .refl p
  | tail _ hwork ih =>
    refine ih.trans ?_
    cases hwork with
    | deed hdeed => exact hdeed.handles.assigns hbetween
    | edit hedit => exact hedit.assigns hbetween

/-! ## Requests -/

/-- Every request is an intake. -/
theorem assigns_perform (q : Request) (p : Provider) : p.Assigns (p.perform between q).2 := by
  have hfulfils := fulfils_perform between q p
  generalize (p.perform between q).2 = p' at hfulfils
  cases hfulfils with
  | works hworks => exact Works.assigns hbetween hworks
  | tends htends => exact assigns_of_eq htends.tasks htends.settings
  | creates hcreates =>
    obtain ⟨r, hworks, hblames⟩ := hcreates.works_blames
    exact (Works.assigns hbetween hworks).trans hblames.assigns
  | arms => exact assigns_of_eq rfl rfl

end Between

/-- What others do at a moment is an intake. -/
theorem assigns_interferenceWithin (depth : Nat) : (interferenceWithin depth).Assigns :=
  relates_interferenceWithin .refl .trans assigns_perform (fun _ _ => assigns_of_eq rfl rfl)
    (fun _ _ => assigns_of_eq rfl rfl) depth

/-- Every request is an intake, also where others get in. -/
theorem assigns_serve (p : Provider) (q : Request) : p.Assigns (p.serve q).2 :=
  assigns_perform (assigns_interferenceWithin _) q p

end Provider

end ServiceLifecycle

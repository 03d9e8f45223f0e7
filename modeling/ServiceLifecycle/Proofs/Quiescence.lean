import ServiceLifecycle.Proofs.Intake
import ServiceLifecycle.Proofs.Ownership

/-!
# Nothing is left in transit

Requests may submit tasks in any order, on references that run in circles or lead nowhere
and that change all the time, before the shutdown of the scheduler and after it. Still no
task waits for ever: once none can take a step and no hook is executing, all of them have
finished, and no service is left on its way up or down.

* **staff** — after every run the line and the workers are accounted for
  (`Setup.staffed_after`);
* **quiescence** — when nothing goes on any more, everything is done
  (`Setup.quiescent_finished`).
-/

namespace ServiceLifecycle

open Relation

namespace Provider

variable {p : Provider} {i : TaskId}

/-- No submitted task can take a step, and no hook is executing. -/
structure Quiescent (p : Provider) : Prop where
  still : ∀ i < p.tasks.tasks.size, ¬ p.tasks.CanMove Registry.workload p.registry i
  idle : ∀ t ∈ p.tasks.tasks, t.stage.isRunning = false

instance (p : Provider) (i : TaskId) :
    Decidable (p.tasks.CanMove Registry.workload p.registry i) :=
  inferInstanceAs (Decidable (_ = true))

instance (p : Provider) : Decidable p.Quiescent :=
  decidable_of_iff
    ((∀ i < p.tasks.tasks.size, ¬ p.tasks.CanMove Registry.workload p.registry i) ∧
      ∀ t ∈ p.tasks.tasks, t.stage.isRunning = false)
    ⟨fun h => ⟨h.1, h.2⟩, fun h => ⟨h.still, h.idle⟩⟩

/-- Once nothing goes on any more, all tasks have ended. -/
theorem Quiescent.ended (h : p.Quiescent) (hgated : p.scene.Gated) (hpresent : p.scene.Present)
    (hstaffed : p.tasks.Staffed) :
    ∀ (i : TaskId) t, p.tasks.tasks[i]? = some t → ∃ ending, t.stage = .ended ending :=
  hstaffed.all_ended hpresent.isPresent
    (fun i t ht => (hgated.employed i t ht).imp fun _ h => h.1)
    (fun i t ht g hg => (hgated.gates i t ht g hg).1) h.still h.idle

/-! ## Staff -/

/-- Every event but the beginning of the teardown keeps account of the line and the workers. -/
theorem staffed_step (h : p.tasks.Staffed) (halive : p.tasks.isAlive = true) {e : Event}
    (he : e ≠ .stop) : (p.step e).tasks.Staffed := by
  cases e with
  | request q => exact (assigns_perform undisturbed_assigns q p).keeps h fun h => h.receives
  | move i =>
    show ((Scheduler.move Registry.workload i p.tasks p.registry).elim p p.withParts).tasks.Staffed
    cases hmove : Scheduler.move Registry.workload i p.tasks p.registry with
    | none => exact h
    | some parts => exact h.move hmove
  | pass moment => exact h.passTo moment
  | stop => exact absurd rfl he
  | tear i =>
    rw [step_tear_of_alive halive]
    exact h

end Provider

namespace Setup

/-- As long as there is no teardown, the line and the workers are accounted for. -/
theorem staffed_after (setup : Setup) {events : List Event} (hevents : ∀ e ∈ events, e ≠ .stop) :
    (setup.provider.after events).tasks.Staffed := by
  induction events using List.reverseRecOn with
  | nil => exact Scheduler.staffed_new setup.name setup.workers
  | append_singleton done e ih =>
    have hdone : ∀ e ∈ done, e ≠ .stop := fun e he => hevents e (List.mem_append_left _ he)
    rw [Provider.after_append]
    exact Provider.staffed_step (ih hdone) (setup.present_after hdone).isAlive
      (hevents e (by simp))

/-! ## Quiescence -/

/-- As long as there is no teardown, a provider in which no submitted task can take a step and
no hook is executing has finished all its tasks, and none of its services is in transit. -/
theorem quiescent_finished (setup : Setup) (events : List Event)
    (hevents : ∀ e ∈ events, e ≠ .stop) (hquiet : (setup.provider.after events).Quiescent) :
    (∀ t ∈ (setup.provider.after events).tasks.tasks, t.isFinished = true) ∧
      ∀ n, ((setup.provider.after events).service n).state ≠ .enabling ∧
        ((setup.provider.after events).service n).state ≠ .disabling := by
  generalize hp : setup.provider.after events = p at hquiet
  have horderly : p.scene.Orderly := hp ▸ (setup.lawful_after events).orderly
  have hpresent : p.scene.Present := hp ▸ setup.present_after hevents
  have hstaffed : p.tasks.Staffed := hp ▸ setup.staffed_after hevents
  have hended := hquiet.ended horderly.gated hpresent hstaffed
  have hresting : ∀ n (d : Direction), (p.service n).state ≠ d.via := horderly.owned.resting hended
  refine ⟨fun t ht => ?_, fun n => ⟨hresting n .up, hresting n .down⟩⟩
  obtain ⟨i, hi⟩ := Array.mem_iff_getElem?.mp ht
  exact Task.isFinished_iff.mpr (hended i t hi)

/-- A slow service, one that builds on it, and two that refer to each other are enabled at
once. While the slow one is at its hook, the scheduler is shut down; a request to enable one
more service comes after that. Then the hook returns. -/
def strandedRun : List Event :=
  [.request (.create "mock.Slow" ⟨"s"⟩ false), .request (.create "mock.Dependent" ⟨"d"⟩ false),
    .request (.create "mock.Dependent" ⟨"a"⟩ false), .request (.create "mock.Dependent" ⟨"b"⟩ false),
    .request (.create "mock.Dependent" ⟨"e"⟩ false),
    .request (.setProperty ⟨"d"⟩ "Other Service" "s"),
    .request (.setProperty ⟨"a"⟩ "Other Service" "b"),
    .request (.setProperty ⟨"b"⟩ "Other Service" "a"),
    .request (.enableAll [⟨"d"⟩, ⟨"a"⟩, ⟨"b"⟩, ⟨"s"⟩]), .move 0, .move 0, .move 0,
    .request .shutdown, .request (.enable ⟨"e"⟩)] ++ Event.rounds 8 3 ++ [.pass 50] ++
    Event.rounds 8 3

theorem quiescent_finished_stranded :
    let p := mock.provider.after strandedRun
    (p.service 0).state = .enabled ∧ (∀ n < 4, (p.service (n + 1)).state = .disabled) ∧
      p.Quiescent ∧ (∀ t ∈ p.tasks.tasks, t.isFinished = true) ∧
      ∀ n, (p.service n).state ≠ .enabling ∧ (p.service n).state ≠ .disabling := by
  have hevents : ∀ e ∈ strandedRun, e ≠ .stop := by
    rintro e he rfl
    simp [strandedRun, Event.rounds] at he
  exact ⟨by decide +kernel, by decide +kernel, by decide +kernel,
    quiescent_finished mock strandedRun hevents (by decide +kernel)⟩

end Setup

end ServiceLifecycle

import ServiceLifecycle.Proofs.Operation
import ServiceLifecycle.Task.Script

/-!
# Accounting

A task changes two counters and takes and gives back a worker on its way, and there are many ways
to go. Whatever way it goes, the counters tell how many tasks are pending and how many bodies are
under way, and a worker is free unless a body has it.

* **moves** — what a move takes from the counters was there to be taken (`Scheduler.Exact`);
* **balance** — after every run the counters and the workers agree with the tasks
  (`Scheduler.Balanced`, `Scheduler.balanced_operate`).
-/

namespace ServiceLifecycle

variable {ι κ σ : Type}

/-- Whether a task has a body and this status. -/
def Task.isAt (status : TaskStatus) (t : Task ι κ) : Bool := t.job.isSome && t.status = status

namespace Scheduler

variable {work : Workload ι κ σ} {s s' : Scheduler ι κ} {env env' : σ} {i : TaskId} {t : Task ι κ}

/-! ## Moves -/

/-- With the move of a task from `t` to `t'` the counters and the free workers change by the
difference between the two, and none of them would have to fall below zero. -/
structure Exact (t t' : Task ι κ) (s s' : Scheduler ι κ) : Prop where
  pending : s'.pending + (t.isAt .pending).toNat = s.pending + (t'.isAt .pending).toNat
  running : s'.running + (t.isAt .running).toNat = s.running + (t'.isAt .running).toNat
  free : s'.free + (t'.isAt .running).toNat = s.free + (t.isAt .running).toNat

/-- The status of a task with a body tells its stage. -/
theorem Sound.isAt_eq (h : s.Sound) (ht : s.tasks[i]? = some t) :
    t.isAt .pending = t.stage.isPending ∧ t.isAt .running = t.stage.isRunning := by
  unfold Task.isAt Task.status
  cases hjob : t.job with
  | none =>
    have hlive := h.idle i t ht hjob
    rw [Stage.isLive_eq, Bool.or_eq_false_iff] at hlive
    exact ⟨hlive.1.symm, hlive.2.symm⟩
  | some job =>
    rcases h.employed i t ht (by rw [hjob]; rfl) with hlive | ⟨ending, hended⟩
    · cases hstage : t.stage <;> rw [hstage] at hlive <;> first | exact ⟨rfl, rfl⟩ | cases hlive
    · rw [hended]
      exact ⟨rfl, rfl⟩

theorem Sound.exact (h : s.Sound) (hmove : Scheduler.move work i s env = some (s', env')) :
    ∃ t t', s.tasks[i]? = some t ∧ s'.tasks[i]? = some t' ∧ Exact t t' s s' := by
  obtain ⟨t, stage, ht, hcounts⟩ := counts_of_move hmove
  have ht' : s'.tasks[i]? = some { t with stage } := by
    rw [hcounts.tasks, getElem?_putStage, if_pos rfl, ht]
    rfl
  have hafter := h.move hmove
  obtain ⟨hpending, hrunning⟩ := h.isAt_eq ht
  obtain ⟨hpending', hrunning'⟩ := hafter.isAt_eq ht'
  refine ⟨t, _, ht, ht', ?_, ?_, ?_⟩
  · rw [hpending, hpending']
    exact (h.pending_put ht hcounts).1
  · rw [hrunning, hrunning']
    exact (h.running_put ht hcounts).1
  · -- the workers are as many as before
    have hbefore := h.staffed.manned
    have hmanned := hafter.staffed.manned
    rw [← h.running] at hbefore
    rw [← hafter.running, hcounts.configured] at hmanned
    have hput := (h.running_put ht hcounts).1
    rw [hrunning, hrunning']
    show s'.free + stage.isRunning.toNat = s.free + t.stage.isRunning.toNat
    omega

/-! ## Balance -/

/-- The counters and the workers agree with the tasks. -/
structure Balanced (work : Workload ι κ σ) (configured : Nat) (s : Scheduler ι κ) (env : σ) :
    Prop where
  pending : s.pending = s.tasks.countP (Task.isAt .pending)
  running : s.running = s.tasks.countP (Task.isAt .running)
  bounded : s.running ≤ max configured 1
  /-- A task that waits for its gates, or for a worker, has none. -/
  free : s.free = max configured 1 - s.running
  /-- A free worker can be had: the first in line gets it. -/
  available : ∀ i ∈ s.line.head?, s.isShutdown = false → s.running < max configured 1 →
    (move work i s env).isSome = true
  /-- Nothing is taken from a counter that is not there. -/
  exact : ∀ i s' env', move work i s env = some (s', env') →
    ∃ t t', s.tasks[i]? = some t ∧ s'.tasks[i]? = some t' ∧ Exact t t' s s'

theorem Sound.balanced (h : s.Sound) (work : Workload ι κ σ) (env : σ) :
    Balanced work s.configured s env := by
  have hmanned : s.free + s.running = max s.configured 1 := h.running ▸ h.staffed.manned
  have hcount : ∀ {p q : Task ι κ → Bool}, (∀ (i : TaskId) t, s.tasks[i]? = some t → p t = q t) →
      s.tasks.countP p = s.tasks.countP q := by
    intro p q heq
    refine Array.countP_congr fun t ht => ?_
    obtain ⟨i, hi⟩ := Array.mem_iff_getElem?.mp ht
    rw [heq i t hi]
  refine ⟨h.pending.trans (hcount fun i t ht => (h.isAt_eq ht).1.symm),
    h.running.trans (hcount fun i t ht => (h.isAt_eq ht).2.symm), by omega, by omega,
    fun i hi hopen hroom => ?_, fun i s' env' hmove => h.exact hmove⟩
  have hhead : s.line.head? = some i := hi
  obtain ⟨t, ht, hwaiting⟩ := (h.staffed.lined i).mp (List.mem_of_head? hhead)
  have hstage : t.stage = .waiting := by
    cases hcase : t.stage <;> rw [hcase] at hwaiting <;> first | rfl | cases hwaiting
  obtain ⟨job, hjob⟩ := Option.isSome_iff_exists.mp (h.job_of_live ht (by rw [hstage]; rfl))
  have hfree : 0 < s.free := by omega
  exact (MovesTo.starts ht hstage hjob hopen hhead hfree).canMove

theorem configured_step (work : Workload ι κ σ) (p : Scheduler ι κ × σ) (e : Event ι σ) :
    (step work p e).1.configured = p.1.configured := by
  have hadvances := advances_step work p e
  generalize step work p e = q at hadvances
  cases hadvances with
  | idles | watches | reports => rfl
  | receives hreceives => cases hreceives <;> rfl
  | moves hmove => exact (counts_of_move hmove).choose_spec.choose_spec.2.configured

/-- Whatever the bodies and the owners do, and in whatever order things happen, as long as there is
no teardown the counters and the workers agree with the tasks. -/
theorem balanced_operate (work : Workload ι κ σ) (name : String) (configured : Nat) (env : σ)
    (events : List (Event ι σ)) :
    let p := operate work name configured env events
    Balanced work configured p.1 p.2 := by
  intro p
  have hconfigured : p.1.configured = configured :=
    List.foldlRecOn (motive := fun q : Scheduler ι κ × σ => q.1.configured = configured) events
      (step work) rfl fun q hq e _ => (configured_step work q e).trans hq
  rw [← hconfigured]
  exact (sound_operate work name configured env events).balanced work p.2

/-- A body sleeps, one panics, and one task finds its gate failed; another is in line and one waits
for the sleeper when the scheduler is shut down. -/
example :
    let p := operate Script.workload "main" 2 ()
      [.submit "sleeps" .empty [.delay 5] true, .submit "panics" .empty [.panic none] true,
        .submit "blocked" (.ofList [1]) [] true, .submit "hangs" .empty [.hang] true,
        .submit "late" .empty [] true, .submit "behind" (.ofList [0]) [] true,
        .move 0, .move 0, .move 0, .move 1, .move 1, .move 1, .move 2, .move 2, .move 3, .move 3,
        .move 3, .move 4, .move 4, .move 4, .move 5, .shutdown, .move 4]
    (p.1.tasks.toList.map Task.status, p.1.pending, p.1.running, p.1.free) =
      ([.running, .finished (.failed "task panicked: unknown panic"),
        .finished (.aborted "gate panics (#) failed: task panicked: unknown panic"), .running,
        .finished (.aborted "scheduler main is shut down"), .pending], 1, 2, 0) := by
  decide +kernel

end Scheduler

end ServiceLifecycle

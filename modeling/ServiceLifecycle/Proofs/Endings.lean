import Mathlib.Data.List.Induction
import ServiceLifecycle.Proofs.Operation
import ServiceLifecycle.Proofs.Outcomes

/-!
# Endings

The owner of a task is told when its body does not run to its end. There are several points at
which that can turn out, and a shutdown may come before, between or after them. Still the owner is
told once and why, or, if the body returned, not at all; and once the scheduler is shut down what
is under way ends as it does, and the rest is given up.

That the owner is told the reason which is published holds only as long as the owner takes it
calmly. An owner who panics over being told takes the task down: it is aborted, for having been
let go of, and not for the reason its owner was told, even if its body had panicked before.

* **steps** — what an event can make of a task (`Scheduler.Comes`, `Scheduler.comes_of_step`);
* **causes** — a task has ended at a move of its own, by its body or because it was given up
  (`Scheduler.Ends`, `Scheduler.ends_within`);
* **answers** — what the owner has been told follows from how the task ended, or was to end
  (`Scheduler.Answered`, `Task.Disrupted`);
* **runs** — all of it, over every run (`Scheduler.Honours`, `Scheduler.honours_operate`).
-/

namespace ServiceLifecycle

variable {ι κ σ : Type}

/-- The reason that an outcome carries. -/
def Outcome.reason? : Outcome → Option String
  | .completed => none
  | .failed reason | .aborted reason => some reason

/-- The task was to end for the reason `told`, but its owner panicked over being told so. It was
let go of, and aborted for that. -/
def Task.Disrupted (t : Task ι κ) (told : String) : Prop :=
  ∃ ending, t.stage = .ended (.disrupted ending t.droppedReason) ∧
    ending.callbackReason? = some told ∧ ending.outcome.reason? = some told

namespace Scheduler

variable {work : Workload ι κ σ} {p q : Scheduler ι κ × σ} {e : Event ι σ} {i : TaskId}
  {t t' : Task ι κ} {s : Scheduler ι κ}

/-! ## Steps -/

/-- What an event can make of a task. -/
inductive Comes (work : Workload ι κ σ) (p : Scheduler ι κ × σ) (e : Event ι σ) (i : TaskId)
    (t' : Task ι κ) : Prop
  | stays : p.1.tasks[i]? = some t' → Comes work p e i t'
  /-- It is new. -/
  | arrives : p.1.tasks[i]? = none → t'.stage.hasStarted = false → t'.isFinished = false →
      Comes work p e i t'
  /-- Somebody else has reported on it. -/
  | reported {t : Task ι κ} {started : Bool} : p.1.tasks[i]? = some t →
      t.stage = .external started → t'.job = none → Comes work p e i t'
  /-- It has made a move. -/
  | goes {t : Task ι κ} : e = .move i → p.1.tasks[i]? = some t →
      t' = { t with stage := t'.stage } → Goes work p.1 p.2 t t'.stage → Comes work p e i t'

theorem comes_of_push {t u : Task ι κ} (hstarted : t.stage.hasStarted = false)
    (hfinished : t.isFinished = false) (hu : (p.1.tasks.push t)[i]? = some u) :
    Comes work p e i u := by
  rw [Array.getElem?_push] at hu
  split at hu
  · next heq =>
    obtain rfl := Option.some.inj hu
    exact .arrives (heq ▸ Array.getElem?_eq_none (Nat.le_refl _)) hstarted hfinished
  · exact .stays hu

theorem comes_of_step (h : p.1.Sound) (ht' : (step work p e).1.tasks[i]? = some t') :
    Comes work p e i t' := by
  have hadvances := advances_step work p e
  generalize step work p e = q at hadvances ht'
  cases hadvances with
  | idles => exact .stays ht'
  | receives hreceives =>
    cases hreceives with
    | shuts => exact .stays ht'
    | submits name gates job hasCallback =>
      refine comes_of_push ?_ ?_ ht' <;> rw [if_pos h.isAlive] <;> rfl
  | watches name => exact comes_of_push rfl rfl ht'
  | reports ht hstage =>
    have hjob := h.job_of_external ht hstage
    rw [setStage_tasks, getElem?_putStage] at ht'
    split at ht'
    · next heq =>
      subst heq
      have htask := ht
      rw [ht] at ht'
      obtain rfl := Option.some.inj ht'
      exact .reported htask hstage hjob
    · exact .stays ht'
  | moves hmove =>
    obtain ⟨u, stage, hu, htasks, hgoes⟩ := (moves_of_move hmove).1.goes
    rw [htasks, getElem?_putStage] at ht'
    split at ht'
    · next heq =>
      subst heq
      have htask := hu
      rw [hu] at ht'
      obtain rfl := Option.some.inj ht'
      exact .goes rfl htask rfl hgoes
    · exact .stays ht'

/-- No task is lost. -/
theorem size_step (work : Workload ι κ σ) (p : Scheduler ι κ × σ) (e : Event ι σ) :
    p.1.tasks.size ≤ (step work p e).1.tasks.size := by
  have hadvances := advances_step work p e
  generalize step work p e = q at hadvances
  cases hadvances with
  | idles => exact Nat.le_refl _
  | receives hreceives =>
    cases hreceives with
    | shuts => exact Nat.le_refl _
    | submits => exact Nat.le_of_lt (Array.size_push _ ▸ Nat.lt_succ_self _)
  | watches => exact Nat.le_of_lt (Array.size_push _ ▸ Nat.lt_succ_self _)
  | reports => exact Nat.le_of_eq (by rw [setStage_tasks, size_putStage])
  | moves hmove =>
    obtain ⟨u, stage, -, htasks, -⟩ := (moves_of_move hmove).1.goes
    exact Nat.le_of_eq (by rw [htasks, size_putStage])

/-- What an event makes of a task that is there. -/
theorem comes_of_task (work : Workload ι κ σ) (h : p.1.Sound) (ht : p.1.tasks[i]? = some t)
    (e : Event ι σ) :
    ∃ t', (step work p e).1.tasks[i]? = some t' ∧ Comes work p e i t' := by
  have hlt := Nat.lt_of_lt_of_le (Array.getElem?_eq_some_iff.mp ht).1 (size_step work p e)
  exact ⟨_, Array.getElem?_eq_getElem hlt, comes_of_step h (Array.getElem?_eq_getElem hlt)⟩

/-- What is published stays as it is. -/
theorem kept_of_finished (h : p.1.Sound) (ht : p.1.tasks[i]? = some t)
    (hfinished : t.isFinished = true) (e : Event ι σ) :
    (step work p e).1.tasks[i]? = some t := by
  obtain ⟨ending, hended⟩ := Task.isFinished_iff.mp hfinished
  obtain ⟨t', ht', hcomes⟩ := comes_of_task work h ht e
  cases hcomes with
  | stays hsame => exact ht'.trans (hsame.symm.trans ht)
  | arrives hnone =>
    rw [ht] at hnone
    cases hnone
  | reported hu hstage =>
    obtain rfl := Option.some.inj (ht.symm.trans hu)
    rw [hended] at hstage
    cases hstage
  | goes _ hu _ hgoes =>
    obtain rfl := Option.some.inj (ht.symm.trans hu)
    have hlive := hgoes.isLive.1
    rw [hended] at hlive
    cases hlive

theorem kept_after (h : p.1.Sound) (ht : p.1.tasks[i]? = some t) (hfinished : t.isFinished = true)
    (events : List (Event ι σ)) : (after work p events).1.tasks[i]? = some t :=
  (List.foldlRecOn (motive := fun q : Scheduler ι κ × σ => q.1.Sound ∧ q.1.tasks[i]? = some t) events
    (step work) ⟨h, ht⟩ fun _ hq e _ => ⟨hq.1.step e, kept_of_finished hq.1 hq.2 hfinished e⟩).2

/-- A shutdown is for good. -/
theorem isShutdown_after (h : p.1.isShutdown = true) (events : List (Event ι σ)) :
    (after work p events).1.isShutdown = true := by
  refine List.foldlRecOn (motive := fun q : Scheduler ι κ × σ => q.1.isShutdown = true) events
    (step work) h fun q hq e _ => ?_
  have hadvances := advances_step work q e
  generalize step work q e = r at hadvances
  cases hadvances with
  | idles | watches | reports => exact hq
  | receives hreceives => cases hreceives <;> first | exact hq | rfl
  | moves hmove => exact (moves_of_move hmove).2.2.trans hq

/-! ## Causes -/

/-- How a task may end with its next move. -/
inductive Ends (work : Workload ι κ σ) (p : Scheduler ι κ × σ) (i : TaskId) : Ending → Prop
  /-- It is given up before its body has started. -/
  | givenUp {t : Task ι κ} {reason : String} {ending : Ending} {env : σ} :
      p.1.tasks[i]? = some t → t.stage.isPending = true →
      Closes work t (.aborted reason) (remarked work t (.aborted reason) p.2) ending env →
      Ends work p i ending
  /-- Its body, which is under way or starts, comes to its end. -/
  | byBody {t : Task ι κ} {turn : Turn κ} {ending ending' : Ending} {env env' : σ} :
      p.1.tasks[i]? = some t → t.turn? work p.2 = some (turn, env) → turn.ending? = some ending →
      Closes work t ending (remarked work t ending env) ending' env' → Ends work p i ending'

/-- A task that has ended did so with a move of its own. -/
theorem ends_within (h : p.1.Sound) (events : List (Event ι σ))
    (ht' : (after work p events).1.tasks[i]? = some t') (hjob : t'.job.isSome = true)
    {ending : Ending} (hstage : t'.stage = .ended ending) :
    p.1.tasks[i]? = some t' ∨ ∃ before rest, events = before ++ .move i :: rest ∧
      Ends work (after work p before) i ending := by
  induction events using List.reverseRecOn with
  | nil => exact .inl ht'
  | append_singleton done e ih =>
    rw [after_append] at ht'
    cases comes_of_step (sound_after work h done) ht' with
    | stays hsame =>
      refine (ih hsame).imp id ?_
      rintro ⟨before, rest, rfl, hends⟩
      exact ⟨before, rest ++ [e], by simp, hends⟩
    | arrives _ _ hfinished =>
      rw [Task.isFinished_iff.mpr ⟨ending, hstage⟩] at hfinished
      cases hfinished
    | reported _ _ hnone =>
      rw [hnone] at hjob
      cases hjob
    | goes hmove hu _ hgoes =>
      refine .inr ⟨done, [], by rw [hmove], ?_⟩
      rw [hstage] at hgoes
      cases hgoes with
      | waits _ hpending => cases hpending
      | givenUp hpending hcloses => exact .givenUp hu hpending hcloses
      | ends hturn hend _ hcloses => exact .byBody hu hturn hend hcloses

/-! ## Bodies under way and bodies that never start -/

/-- Only a body that has a worker, or is given one, takes a turn. -/
theorem stage_of_turn {turn : Turn κ × σ} {env : σ} (h : t.turn? work env = some turn) :
    t.stage = .waiting ∨ t.stage.isRunning = true := by
  unfold Task.turn? at h
  split at h
  · next hstage _ => exact .inl hstage
  · next hstage =>
    rw [hstage]
    exact .inr rfl
  · cases h

/-- After a shutdown a move starts no body. -/
theorem Goes.unstarted {env : σ} {stage : Stage κ} (h : Goes work s env t stage)
    (hshut : s.isShutdown = true) (hbefore : t.stage.hasStarted = false) :
    stage.hasStarted = false := by
  have hno : ∀ {turn}, t.turn? work env = some turn →
      (t.stage = .waiting → s.isShutdown = false) → False := by
    intro turn hturn hopen
    rcases stage_of_turn hturn with hwaiting | hrunning
    · rw [hopen hwaiting] at hshut
      cases hshut
    · cases hstage : t.stage <;> simp_all [Stage.isRunning, Stage.hasStarted]
  cases h with
  | waits _ hpending => cases stage <;> first | rfl | cases hpending
  | givenUp _ hcloses => cases hcloses <;> rfl
  | sleeps hturn hopen => exact (hno hturn hopen).elim
  | ends hturn _ hopen => exact (hno hturn hopen).elim

/-- The body of task `i`, if there is one, has not started. -/
def Unstarted (p : Scheduler ι κ × σ) (i : TaskId) : Prop :=
  ∀ t, p.1.tasks[i]? = some t → t.job.isSome = true → t.stage.hasStarted = false

theorem Unstarted.after (h : Unstarted p i) (hsound : p.1.Sound) (hshut : p.1.isShutdown = true)
    (events : List (Event ι σ)) : Unstarted (after work p events) i := by
  induction events using List.reverseRecOn with
  | nil => exact h
  | append_singleton done e ih =>
    have hdone := sound_after work hsound done
    rw [after_append]
    intro t' ht' hjob
    cases comes_of_step hdone ht' with
    | stays hsame => exact ih t' hsame hjob
    | arrives _ hstarted => exact hstarted
    | reported _ _ hnone =>
      rw [hnone] at hjob
      cases hjob
    | goes _ hu _ hgoes =>
      exact hgoes.unstarted (isShutdown_after hshut done)
        (ih _ hu (hdone.job_of_live hu hgoes.isLive.1))

/-- A body that is under way stays so until it comes to its end. -/
theorem running_after (work : Workload ι κ σ) (h : p.1.Sound) (ht : p.1.tasks[i]? = some t)
    (hrunning : t.stage.isRunning = true) (events : List (Event ι σ)) :
    ∃ u, (after work p events).1.tasks[i]? = some u ∧ u.job = t.job ∧
      (u.stage.isRunning = true ∨ u.isFinished = true) := by
  induction events using List.reverseRecOn with
  | nil => exact ⟨t, ht, rfl, .inl hrunning⟩
  | append_singleton done e ih =>
    obtain ⟨u, hu, hjob, hstage⟩ := ih
    have hdone := sound_after work h done
    rw [after_append]
    rcases hstage with hrunning | hfinished
    · obtain ⟨u', hu', hcomes⟩ := comes_of_task work hdone hu e
      cases hcomes with
      | stays hsame =>
        obtain rfl := Option.some.inj (hu.symm.trans hsame)
        exact ⟨u, hu', hjob, .inl hrunning⟩
      | arrives hnone =>
        rw [hu] at hnone
        cases hnone
      | reported hv hstage =>
        obtain rfl := Option.some.inj (hu.symm.trans hv)
        rw [hstage] at hrunning
        cases hrunning
      | goes _ hv hsame hgoes =>
        obtain rfl := Option.some.inj (hu.symm.trans hv)
        refine ⟨u', hu', (congrArg Task.job hsame).trans hjob, ?_⟩
        generalize hstage : u'.stage = stage at hgoes
        cases hgoes with
        | waits hpending | givenUp hpending =>
          rw [Stage.isRunning_of_isPending hpending] at hrunning
          cases hrunning
        | sleeps => exact .inl rfl
        | ends => exact .inr (Task.isFinished_iff.mpr ⟨_, hstage⟩)
    · exact ⟨u, kept_of_finished hdone hu hfinished e, hjob, .inr hfinished⟩

/-- A body that is under way ends by itself. -/
theorem Ends.own {ending : Ending} (h : Ends work p i ending) (ht : p.1.tasks[i]? = some t)
    (hstage : t.stage.isRunning = true ∨ t.isFinished = true) :
    ∃ turn own env env', t.stage.isRunning = true ∧ t.turn? work p.2 = some (turn, env) ∧
      turn.ending? = some own ∧ Closes work t own (remarked work t own env) ending env' := by
  cases h with
  | givenUp hu hpending =>
    obtain rfl := Option.some.inj (ht.symm.trans hu)
    exfalso
    rcases hstage with hrunning | hfinished
    · rw [Stage.isRunning_of_isPending hpending] at hrunning
      cases hrunning
    · obtain ⟨ending, hended⟩ := Task.isFinished_iff.mp hfinished
      rw [hended] at hpending
      cases hpending
  | byBody hu hturn hend hcloses =>
    obtain rfl := Option.some.inj (ht.symm.trans hu)
    refine ⟨_, _, _, _, ?_, hturn, hend, hcloses⟩
    rcases stage_of_turn hturn with hwaiting | hrunning
    · rw [Task.isFinished_iff, hwaiting] at hstage
      rcases hstage with hrunning | ⟨_, hended⟩
      · cases hrunning
      · cases hended
    · exact hrunning

/-! ## Answers -/

/-- A turn that calls for the owner to be told gives the reason of its outcome. -/
theorem reason_of_turn {turn : Turn κ} {ending : Ending} {told : String}
    (hend : turn.ending? = some ending) (hreason : ending.callbackReason? = some told) :
    ending.outcome.reason? = some told := by
  cases turn with
  | sleeps => cases hend
  | returns | fails =>
    cases hend
    cases hreason
  | panics =>
    cases hend
    exact hreason

/-- What a move disrupts was to end for the reason that its owner was told, and the owner has
panicked. -/
theorem Goes.disrupted {env : σ} {stage : Stage κ} (h : Goes work s env t stage) {ending : Ending}
    {reason : String} (hstage : stage = .ended (.disrupted ending reason)) :
    ¬ work.IsCalm ∧ ∃ told, { t with stage }.Disrupted told := by
  have hcalm : ∀ {told env}, PanicsOver work t told env → ¬ work.IsCalm :=
    fun hpanics h => not_panicsOver h t _ _ hpanics
  cases h with
  | waits _ hpending =>
    rw [hstage] at hpending
    cases hpending
  | sleeps => cases hstage
  | givenUp _ hcloses =>
    cases hcloses with
    | announced => cases hstage
    | disrupted hreason hpanics => exact ⟨hcalm hpanics, _, _, rfl, hreason, hreason⟩
  | @ends turn own _ _ _ hturn hend _ hcloses =>
    cases hcloses with
    | announced =>
      obtain rfl := Stage.ended.inj hstage
      cases turn <;> cases hend
    | disrupted hreason hpanics =>
      exact ⟨hcalm hpanics, _, _, rfl, hreason, reason_of_turn hend hreason⟩

/-- A task is disrupted only by its owner, over the reason for which it was to end. -/
def Regular (work : Workload ι κ σ) (s : Scheduler ι κ) : Prop :=
  ∀ (i : TaskId) t ending reason, s.tasks[i]? = some t → t.job.isSome = true →
    t.stage = .ended (.disrupted ending reason) → ¬ work.IsCalm ∧ ∃ told, t.Disrupted told

theorem regular_after (hsound : p.1.Sound) (h : Regular work p.1) (events : List (Event ι σ)) :
    Regular work (after work p events).1 := by
  induction events using List.reverseRecOn with
  | nil => exact h
  | append_singleton done e ih =>
    rw [after_append]
    intro i t ending reason ht hjob hstage
    cases comes_of_step (sound_after work hsound done) ht with
    | stays hsame => exact ih i t ending reason hsame hjob hstage
    | arrives _ _ hfinished =>
      rw [Task.isFinished_iff.mpr ⟨_, hstage⟩] at hfinished
      cases hfinished
    | reported _ _ hnone =>
      rw [hnone] at hjob
      cases hjob
    | goes _ _ hsame hgoes =>
      rw [hsame]
      exact hgoes.disrupted hstage

/-- The owner of a disrupted task was told once, and not for what the task was aborted. -/
theorem notices_of_disrupted {told : String} (h : t.Disrupted told) (hjob : t.job.isSome = true)
    (hcallback : t.hasCallback = true) :
    t.notices = [told] ∧ t.outcome? = some (.aborted t.droppedReason) := by
  obtain ⟨ending, hstage, htold, -⟩ := h
  obtain ⟨job, hjob⟩ := Option.isSome_iff_exists.mp hjob
  unfold Task.notices Task.outcome?
  simp only [hstage, hjob, hcallback, Ending.callbackReason?, htold]
  exact ⟨rfl, rfl⟩

/-- What the owner of a task has been told. -/
structure Answered (s : Scheduler ι κ) (i : TaskId) (t : Task ι κ) : Prop where
  once : (s.notices i).length ≤ 1
  /-- Nothing is told but what the outcome says, and that is published by then; unless the owner
  panics over it. Then it was told what the outcome was to say. -/
  carried : ∀ told ∈ s.notices i, ∃ o, t.outcome? = some o ∧
    (o.reason? = some told ∨ t.Disrupted told ∧ o = .aborted t.droppedReason)
  /-- Once there is an outcome, the owner has been told something if the body did not return. -/
  told : ∀ o, t.outcome? = some o → (s.notices i ≠ [] ↔
    (∃ reason, o = .aborted reason) ∨ ∃ payload, t.stage = .ended (.panicked payload))

theorem Tallied.answered (h : s.Tallied) (hregular : Regular work s) (ht : s.tasks[i]? = some t)
    (hjob : t.job.isSome = true) (hcallback : t.hasCallback = true) : Answered s i t := by
  have hnotices : s.notices i = t.notices := by rw [h i, ht, Option.map_some, Option.getD_some]
  cases hstage : t.stage with
  | ended ending =>
    have houtcome : t.outcome? = some ending.outcome := by simp [Task.outcome?, hstage]
    cases ending with
    | completed | failed | panicked | aborted =>
      obtain ⟨job, hjob⟩ := Option.isSome_iff_exists.mp hjob
      unfold Task.notices at hnotices
      simp only [hstage, hjob, hcallback] at hnotices
      refine ⟨?_, ?_, fun o ho => ?_⟩
      · simp [hnotices, Ending.callbackReason?]
      · simp [hnotices, houtcome, Ending.callbackReason?, Ending.outcome, Outcome.reason?]
      · obtain rfl := Option.some.inj (houtcome.symm.trans ho)
        simp [hnotices, Ending.callbackReason?, Ending.outcome, hstage]
    | disrupted ending reason =>
      obtain ⟨-, told, hdisrupted⟩ := hregular i t ending reason ht hjob hstage
      obtain ⟨honly, haborted⟩ := notices_of_disrupted hdisrupted hjob hcallback
      rw [← hnotices] at honly
      refine ⟨by simp [honly], fun x hx => ⟨_, haborted, .inr ⟨?_, rfl⟩⟩, fun o ho => ?_⟩
      · obtain rfl : x = told := by simpa [honly] using hx
        exact hdisrupted
      · obtain rfl := Option.some.inj (haborted.symm.trans ho)
        simp [honly]
  | queued | gated | waiting | running | external | dropped =>
    have hnone : t.notices = [] := by simp [Task.notices, hstage]
    rw [hnone] at hnotices
    have houtcome : t.outcome? = none := by simp [Task.outcome?, hstage]
    exact ⟨by simp [hnotices], by simp [hnotices], by simp [houtcome]⟩

/-! ## Runs -/

/-- From `p` on, owners are told what their tasks come to, and what has started and what has been
published is respected. -/
structure Honours (work : Workload ι κ σ) (p : Scheduler ι κ × σ) (later : List (Event ι σ)) :
    Prop where
  answered : ∀ (i : TaskId) t, (after work p later).1.tasks[i]? = some t → t.job.isSome = true →
    t.hasCallback = true → Answered (after work p later).1 i t
  /-- Where no owner panics, every owner is told the reason that is published. -/
  calm : work.IsCalm → ∀ (i : TaskId) t told, (after work p later).1.tasks[i]? = some t →
    t.job.isSome = true → ¬ t.Disrupted told
  /-- A task that has ended since did so with a move of its own. -/
  cause : ∀ (i : TaskId) t ending, (after work p later).1.tasks[i]? = some t →
    t.job.isSome = true → t.stage = .ended ending → p.1.tasks[i]? = some t ∨
      ∃ before rest, later = before ++ .move i :: rest ∧ Ends work (after work p before) i ending
  /-- What is published stays as it is. -/
  final : ∀ (i : TaskId) t, p.1.tasks[i]? = some t → t.isFinished = true →
    (after work p later).1.tasks[i]? = some t
  /-- After a shutdown no body starts, and what has not started is given up. -/
  unstarted : p.1.isShutdown = true → ∀ (i : TaskId) t, (after work p later).1.tasks[i]? = some t →
    t.job.isSome = true → Unstarted p i →
      t.stage.hasStarted = false ∧ ∀ o, t.outcome? = some o → ∃ reason, o = .aborted reason
  /-- A body under way is not cut short: the task ends as the body does, unless its owner panics
  over that. -/
  own : ∀ (i : TaskId) t t' ending, p.1.tasks[i]? = some t → t.stage.isRunning = true →
    (after work p later).1.tasks[i]? = some t' → t'.stage = .ended ending →
      ∃ before rest, later = before ++ .move i :: rest ∧
        ∃ u turn own env env', (after work p before).1.tasks[i]? = some u ∧
          u.stage.isRunning = true ∧
          u.turn? work (after work p before).2 = some (turn, env) ∧ turn.ending? = some own ∧
          Closes work u own (remarked work u own env) ending env'

/-- After a shutdown a task whose body has not started can only be given up. -/
theorem Unstarted.aborted (h : Unstarted p i) (hsound : p.1.Sound) (hshut : p.1.isShutdown = true)
    {later : List (Event ι σ)} (ht : (Scheduler.after work p later).1.tasks[i]? = some t)
    (hjob : t.job.isSome = true) :
    t.stage.hasStarted = false ∧ ∀ o, t.outcome? = some o → ∃ reason, o = .aborted reason := by
  have hstarted := h.after hsound hshut later t ht hjob
  refine ⟨hstarted, fun o ho => ?_⟩
  cases hstage : t.stage with
  | ended ending =>
    obtain rfl : ending.outcome = o := by simpa [Task.outcome?, hstage] using ho
    rw [hstage] at hstarted
    cases ending <;> first | exact ⟨_, rfl⟩ | cases hstarted
  | queued | gated | waiting | running | external | dropped =>
    simp [Task.outcome?, hstage] at ho

/-- A task whose body is under way ends with a turn of it. -/
theorem Sound.own (h : p.1.Sound) {later : List (Event ι σ)} {ending : Ending}
    (ht : p.1.tasks[i]? = some t) (hrunning : t.stage.isRunning = true)
    (ht' : (after work p later).1.tasks[i]? = some t') (hstage : t'.stage = .ended ending) :
    ∃ before rest, later = before ++ .move i :: rest ∧
      ∃ u turn own env env', (after work p before).1.tasks[i]? = some u ∧
        u.stage.isRunning = true ∧
        u.turn? work (after work p before).2 = some (turn, env) ∧ turn.ending? = some own ∧
        Closes work u own (remarked work u own env) ending env' := by
  obtain ⟨u, hu, hjob, -⟩ := running_after work h ht hrunning later
  obtain rfl := Option.some.inj (hu.symm.trans ht')
  have hlive : t.stage.isLive = true := by rw [Stage.isLive_eq, hrunning, Bool.or_true]
  rcases ends_within h later hu (hjob ▸ h.job_of_live ht hlive) hstage with
    hsame | ⟨before, rest, hsplit, hends⟩
  · obtain rfl := Option.some.inj (ht.symm.trans hsame)
    rw [hstage] at hrunning
    cases hrunning
  · -- until then the body is under way
    obtain ⟨v, hv, -, hvstage⟩ := running_after work h ht hrunning before
    obtain ⟨turn, own, env, env', hbody⟩ := hends.own hv hvstage
    exact ⟨before, rest, hsplit, v, turn, own, env, env', hv, hbody⟩

theorem Sound.honours (h : p.1.Sound) (hregular : Regular work p.1) (later : List (Event ι σ)) :
    Honours work p later where
  answered i t := (sound_after work h later).tallied.answered (regular_after h hregular later)
  calm hcalm i t told ht hjob := by
    rintro ⟨ending, hstage, -⟩
    exact (regular_after h hregular later i t ending _ ht hjob hstage).1 hcalm
  cause i t ending ht hjob hstage := ends_within h later ht hjob hstage
  final i t ht hfinished := kept_after h ht hfinished later
  unstarted hshut i t ht hjob hbefore := hbefore.aborted h hshut ht hjob
  own i t t' ending ht hrunning ht' hstage := h.own ht hrunning ht' hstage

/-- Whatever the bodies and the owners do, and in whatever order things happen, as long as there is
no teardown owners are told what their tasks come to, and after a shutdown what is under way ends
as it does and nothing else starts. Only what an owner panics over comes to something else than
the owner was told. -/
theorem honours_operate (work : Workload ι κ σ) (name : String) (configured : Nat) (env : σ)
    (events later : List (Event ι σ)) : Honours work (operate work name configured env events) later :=
  (sound_operate work name configured env events).honours
    (regular_after (sound_new name configured) (by simp [Regular, new]) events) later

/-- One body panics, one fails, and the shutdown comes while one is asleep and one in line. -/
example :
    let p := operate Script.workload "main" 3 ()
      [.submit "panics" .empty [.panic (some "oops")] true, .submit "fails" .empty [.fail "no"] true,
        .submit "sleeps" .empty [.delay 5] true, .submit "late" .empty [] true,
        .move 0, .move 0, .move 0, .move 1, .move 1, .move 1, .move 2, .move 2, .move 2,
        .move 3, .move 3, .shutdown, .move 3, .pass 5, .move 2]
    p.1.tasks.toList.map Task.outcome? =
        [some (.failed "task panicked: oops"), some (.failed "no"), some .completed,
          some (.aborted "scheduler main is shut down")] ∧
      p.1.callbacks = [(3, "scheduler main is shut down"), (0, "task panicked: oops")] := by
  decide +kernel

/-- Scripts whose owners panic when they are told. -/
def touchyScripts : Workload Script Script Unit :=
  { Script.workload with giveUp := fun _ _ env => (.panics, env) }

/-- A body panics, and so does its owner over being told. The task does not count as failed but
as aborted, and not for the reason its owner was told. -/
theorem outcome_disrupted :
    let p := operate touchyScripts "main" 1 ()
      [.submit "t" .empty [.panic (some "oops")] true, .move 0, .move 0, .move 0]
    p.1.notices 0 = ["task panicked: oops"] ∧ p.1.tasks.toList.map Task.outcome? =
      [some (.aborted "task t was dropped before finishing")] := by
  decide +kernel

end Scheduler

end ServiceLifecycle

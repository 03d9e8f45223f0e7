import ServiceLifecycle.Proofs.Workers

/-!
# Abort callbacks

Whoever is to be told when a body does not run to its end is told at the moment when the task
ends, and told why it was to end so. So who has been told what can be read off the tasks, and
neither that nor the outcome of a task changes any more. This holds also where owners panic over
what they are told, except in a teardown: there nothing is published then.

* **notices** — what the owner of a task has been told, as the task has it and as the scheduler
  has it (`Task.notices`, `Scheduler.notices`);
* **puts** — whatever ends a task tells its owner in the same breath (`Scheduler.Puts`,
  `Scheduler.puts_of_move`, `Scheduler.puts_of_tear`);
* **tally** — the two agree, whatever is done to the scheduler (`Scheduler.Tallied`).
-/

namespace ServiceLifecycle

variable {ι κ σ : Type}

/-! ## Notices -/

/-- What the owner of a task has been told: once the task has ended, why its body did not run to
its end. -/
def Task.notices (t : Task ι κ) : List String :=
  match t.stage, t.job, t.hasCallback with
  | .ended ending, some _, true => ending.callbackReason?.toList
  | _, _, _ => []

theorem Task.notices_of_live {t : Task ι κ} (h : t.stage.isLive = true) : t.notices = [] := by
  unfold notices
  cases hstage : t.stage <;> simp_all [Stage.isLive]

/-- A task after its teardown. -/
def Task.torn (t : Task ι κ) : Task ι κ :=
  { t with
    stage := match t.stage with
      | .queued => .dropped false
      | .gated _ | .waiting | .running _ _ => .ended (.aborted t.droppedReason)
      | .ended _ | .external _ | .dropped _ => t.stage }

theorem Task.isLive_torn (t : Task ι κ) : t.torn.stage.isLive = false := by
  unfold torn
  cases t.stage <;> rfl

/-- What has come to its end is not torn down. -/
theorem Task.torn_of_not_live {t : Task ι κ} (h : t.stage.isLive = false) : t.torn = t := by
  obtain ⟨name, gates, job, hasCallback, stage⟩ := t
  cases stage <;> first | rfl | cases h

/-- A task that has had a turn is aborted. -/
theorem Task.stage_torn {t : Task ι κ} (hlive : t.stage.isLive = true) (hturn : t.stage ≠ .queued) :
    t.torn.stage = .ended (.aborted t.droppedReason) := by
  unfold torn
  cases hstage : t.stage <;> simp_all [Stage.isLive]

namespace Scheduler

/-- What the owner of a task has been told so far. -/
def notices (s : Scheduler ι κ) (i : TaskId) : List String :=
  (s.callbacks.filter fun call => call.1 = i).map Prod.snd

/-- Owners have been told what their tasks have come to, and nothing else. -/
def Tallied (s : Scheduler ι κ) : Prop :=
  ∀ i, s.notices i = (s.tasks[i]?.map Task.notices).getD []

/-! ## Puts -/

/-- A task is put at another stage and its owner told what there is to tell. -/
structure Puts (i : TaskId) (t : Task ι κ) (stage : Stage κ) (s s' : Scheduler ι κ) : Prop where
  tasks : s'.tasks = putStage s.tasks i stage
  callbacks : s'.callbacks = { t with stage }.notices.map (i, ·) ++ s.callbacks

variable {work : Workload ι κ σ} {s s' s₁ : Scheduler ι κ} {env env' : σ} {i : TaskId}
  {t : Task ι κ} {stage : Stage κ}

/-- What else is done to the scheduler before does not matter. -/
theorem Puts.of_eq (h : Puts i t stage s₁ s') (htasks : s₁.tasks = s.tasks)
    (hcallbacks : s₁.callbacks = s.callbacks) : Puts i t stage s s' :=
  ⟨htasks ▸ h.tasks, hcallbacks ▸ h.callbacks⟩

/-- An owner is told, and then the task is ended in a way that calls for it. -/
theorem puts_notify (work : Workload ι κ σ) (i : TaskId) (t : Task ι κ) {ending : Ending}
    {reason : String} (hreason : ending.callbackReason? = some reason) (s : Scheduler ι κ) (env : σ) :
    Puts i t (.ended ending) s ((notify work i t reason s env).2.1.setStage i (.ended ending)) := by
  unfold notify
  cases hjob : t.job with
  | none => exact ⟨rfl, by simp [Task.notices, hjob, setStage]⟩
  | some job =>
    cases hcallback : t.hasCallback with
    | false => exact ⟨rfl, by simp [Task.notices, hcallback, setStage]⟩
    | true => exact ⟨rfl, by simp [Task.notices, hjob, hcallback, hreason, setStage]⟩

/-- However a task ends, its owner is told what it was to end for. -/
theorem puts_finish (work : Workload ι κ σ) (i : TaskId) (t : Task ι κ) (ending : Ending)
    (s : Scheduler ι κ) (env : σ) :
    ∃ ending', Puts i t (.ended ending') s (finish work i t ending s env).1 := by
  unfold finish
  cases hreason : ending.callbackReason? with
  | none =>
    refine ⟨ending, rfl, ?_⟩
    cases t.job <;> cases t.hasCallback <;> simp [Task.notices, hreason, setStage]
  | some reason =>
    have hsame : (Ending.disrupted ending t.droppedReason).callbackReason? = some reason := hreason
    have hannounced := puts_notify work i t hreason s env
    have hdisrupted := puts_notify work i t hsame s env
    dsimp only
    generalize notify work i t reason s env = told at hannounced hdisrupted
    obtain ⟨reaction, s', env'⟩ := told
    cases reaction with
    | returns => exact ⟨_, hannounced⟩
    | panics => exact ⟨_, hdisrupted⟩

theorem puts_abort (work : Workload ι κ σ) (i : TaskId) (t : Task ι κ) (reason : String)
    (s : Scheduler ι κ) (env : σ) :
    ∃ ending, Puts i t (.ended ending) s (abort work i t reason s env).1 :=
  (puts_finish work i t (.aborted reason) { s with pending := s.pending - 1 } _).imp
    fun _ hputs => hputs.of_eq rfl rfl

theorem puts_settleTurn (work : Workload ι κ σ) (i : TaskId) (t : Task ι κ) (s : Scheduler ι κ)
    (turn : Turn κ × σ) : ∃ stage, Puts i t stage s (settleTurn work i t s turn).1 := by
  obtain ⟨turn, env⟩ := turn
  have hleave : ∀ ending, ∃ stage, Puts i t stage s (leave work i t ending s env).1 := by
    intro ending
    obtain ⟨ending', hputs⟩ := puts_finish work i t ending
      { s with running := s.running - 1, free := s.free + 1 } (remarked work t ending env)
    exact ⟨.ended ending', hputs.of_eq rfl rfl⟩
  cases turn with
  | sleeps time rest => exact ⟨.running _ rest, rfl, rfl⟩
  | returns | fails | panics => exact hleave _

/-- A move puts a task, which has not ended, at another stage. -/
theorem MovesTo.puts {p : Scheduler ι κ × σ} (hmove : MovesTo work i s env p) :
    ∃ t stage, s.tasks[i]? = some t ∧ t.stage.isLive = true ∧ Puts i t stage s p.1 := by
  cases hmove with
  | @enters t ht hstage =>
    exact ⟨t, .gated t.gates, ht, by rw [hstage]; rfl, rfl, rfl⟩
  | @passes t g later gate ht hstage =>
    exact ⟨t, .gated later, ht, by rw [hstage]; rfl, rfl, rfl⟩
  | @lines t ht hstage => exact ⟨t, .waiting, ht, by rw [hstage]; rfl, rfl, rfl⟩
  | @gateFails t g later gate o ht hstage =>
    obtain ⟨ending, hputs⟩ := puts_abort work i t (gateReason gate.name o) s env
    exact ⟨t, _, ht, by rw [hstage]; rfl, hputs⟩
  | @refused t ht hstage =>
    obtain ⟨ending, hputs⟩ := puts_abort work i t s.shutdownReason s env
    exact ⟨t, _, ht, by rw [hstage]; rfl, hputs⟩
  | @sentAway t job ht hstage =>
    obtain ⟨ending, hputs⟩ := puts_abort work i t s.shutdownReason
      { s with line := s.line.erase i } env
    exact ⟨t, _, ht, by rw [hstage]; rfl, hputs.of_eq rfl rfl⟩
  | @starts t job ht hstage =>
    obtain ⟨stage, hputs⟩ := puts_settleTurn work i t
      { s with
        line := s.line.tail, free := s.free - 1, pending := s.pending - 1
        running := s.running + 1 } (work.start job env)
    exact ⟨t, stage, ht, by rw [hstage]; rfl, hputs.of_eq rfl rfl⟩
  | @resumes t wake rest ht hstage =>
    obtain ⟨stage, hputs⟩ := puts_settleTurn work i t s (work.resume rest env)
    exact ⟨t, stage, ht, by rw [hstage]; rfl, hputs⟩

theorem puts_of_move (hmove : move work i s env = some (s', env')) :
    ∃ t stage, s.tasks[i]? = some t ∧ t.stage.isLive = true ∧ Puts i t stage s s' :=
  (movesTo_of_move hmove).puts

/-- The teardown of a task puts it where it is after its teardown, unless it has come to its end
already. -/
theorem puts_of_tear (hcalm : work.IsCalm) (i : TaskId) (s : Scheduler ι κ) (env : σ) :
    (∃ t, s.tasks[i]? = some t ∧ t.stage.isLive = true ∧
      Puts i t t.torn.stage s (tear work i s env).1) ∨
    (tear work i s env).1 = s ∧ ∀ t, s.tasks[i]? = some t → t.stage.isLive = false := by
  unfold tear
  cases ht : s.tasks[i]? with
  | none => exact .inr ⟨rfl, fun _ h => nomatch h⟩
  | some t =>
    have hreason : (Ending.aborted t.droppedReason).callbackReason? = some t.droppedReason := rfl
    have hputs := puts_notify work i t hreason s
      (work.remark (tearRemark t.name t.droppedReason) env)
    obtain ⟨reaction, callbacks, hnotify, hreaction⟩ := notify_eq work i t hreason s
      (work.remark (tearRemark t.name t.droppedReason) env)
    rw [hnotify] at hputs
    dsimp only
    cases hstage : t.stage with
    | queued =>
      refine .inl ⟨t, rfl, by rw [hstage]; rfl, ?_⟩
      rw [show t.torn.stage = .dropped false by simp [Task.torn, hstage]]
      exact ⟨rfl, rfl⟩
    | gated | waiting | running =>
      have hlive : t.stage.isLive = true := by rw [hstage]; rfl
      refine .inl ⟨t, rfl, hlive, ?_⟩
      rw [Task.stage_torn hlive (by simp [hstage])]
      dsimp only
      rw [hnotify]
      cases reaction with
      | returns => exact hputs
      | panics => exact absurd (hreaction.mp rfl) (not_panicsOver hcalm t _ _)
    | ended | external | dropped =>
      refine .inr ⟨rfl, fun u hu => ?_⟩
      obtain rfl := Option.some.inj hu
      rw [hstage]
      rfl

/-- A look at the tasks after one of them was torn down. -/
theorem getElem?_tear (hcalm : work.IsCalm) (i j : TaskId) (s : Scheduler ι κ) (env : σ) :
    (tear work i s env).1.tasks[j]? =
      if i = j then s.tasks[j]?.map Task.torn else s.tasks[j]? := by
  rcases puts_of_tear hcalm i s env with ⟨t, ht, -, hputs⟩ | ⟨heq, hrest⟩
  · rw [hputs.tasks, getElem?_putStage]
    split
    · next heq =>
      subst heq
      rw [ht]
      rfl
    · rfl
  · rw [heq]
    split
    · next hij =>
      subst hij
      cases ht : s.tasks[i]? with
      | none => rfl
      | some t => exact congrArg some (Task.torn_of_not_live (hrest t ht)).symm
    · rfl

/-- What waiting for a task tells, it tells for good. -/
theorem result?_of_move (hmove : move work i s env = some (s', env')) {o : Outcome}
    (hresult : s.result? j = some o) : s'.result? j = some o := by
  obtain ⟨t, stage, ht, hlive, hputs⟩ := puts_of_move hmove
  unfold result? at hresult ⊢
  rw [hputs.tasks, getElem?_putStage]
  split
  · next heq =>
    subst heq
    rw [ht] at hresult
    cases hstage : t.stage <;> simp_all [Task.result?, Stage.isLive]
  · exact hresult

theorem result?_submit {o : Outcome} (name : String) (gates : OrderedSet TaskId) (job : ι)
    (hasCallback : Bool) (hresult : s.result? j = some o) :
    (s.submit name gates job hasCallback).2.result? j = some o := by
  unfold result? at hresult ⊢
  obtain ⟨t, ht, hresult⟩ := Option.bind_eq_some_iff.mp hresult
  have hlt : j < s.tasks.size := (Array.getElem?_eq_some_iff.mp ht).1
  show (s.tasks.push _)[j]?.bind _ = _
  rw [Array.getElem?_push, if_neg (Nat.ne_of_lt hlt), ht]
  exact hresult

/-! ## Tally -/

theorem tallied_new (name : String) (configured : Nat) :
    Tallied (new name configured : Scheduler ι κ) := fun _ => by
  simp [notices, new]

/-- The owner of a task that is put at another stage is told once, the others nothing. -/
theorem Tallied.put (h : s.Tallied) (ht : s.tasks[i]? = some t) (hlive : t.stage.isLive = true)
    (hputs : Puts i t stage s s') : s'.Tallied := by
  intro j
  unfold notices
  rw [hputs.callbacks, hputs.tasks, getElem?_putStage, List.filter_append, List.map_append]
  have hbefore := h j
  unfold notices at hbefore
  rw [hbefore]
  split
  · next heq =>
    subst heq
    simp [ht, Task.notices_of_live hlive, List.filter_map, Function.comp_def]
  · next hne =>
    simp [List.filter_map, Function.comp_def, hne]

theorem Tallied.move (h : s.Tallied) (hmove : move work i s env = some (s', env')) :
    s'.Tallied := by
  obtain ⟨t, stage, ht, hlive, hputs⟩ := puts_of_move hmove
  exact h.put ht hlive hputs

theorem Tallied.tear (h : s.Tallied) (hcalm : work.IsCalm) (i : TaskId) (env : σ) :
    (tear work i s env).1.Tallied := by
  rcases puts_of_tear hcalm i s env with ⟨t, ht, hlive, hputs⟩ | ⟨heq, -⟩
  · exact h.put ht hlive hputs
  · rw [heq]
    exact h

/-- Nobody has been told anything about a newcomer. -/
theorem Tallied.push (h : s.Tallied) {t : Task ι κ} (ht : t.notices = []) (pending : Nat) :
    Tallied { s with pending, tasks := s.tasks.push t } := by
  intro j
  refine (h j).trans ?_
  show _ = ((s.tasks.push t)[j]?.map Task.notices).getD []
  rw [Array.getElem?_push]
  split
  · next heq =>
    rw [heq, Array.getElem?_eq_none (Nat.le_refl _)]
    exact ht.symm
  · rfl

theorem Tallied.receives (h : s.Tallied) (hreceives : Receives s s') : s'.Tallied := by
  cases hreceives with
  | shuts => exact h
  | submits name gates job hasCallback => exact h.push (by cases s.isAlive <;> rfl) (s.pending + 1)

end Scheduler

end ServiceLifecycle

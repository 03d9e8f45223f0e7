import Mathlib.Data.List.Nodup
import ServiceLifecycle.Task.Scheduler

/-!
# What one move does

Everything a move, or the teardown of one task, can do to the scheduler and to the
surroundings of its tasks, whatever the bodies and the owners of the tasks do. Later proofs go through
the cases of `MovesTo`, `Moves` and `Torn` and do not open `Scheduler.move` again.

* **ends** — how a task comes to end that is to end in a certain way, since its owner may panic
  over it (`Scheduler.Closes`, `Scheduler.closes_finish`);
* **cases** — where a task stands, what lets it move, and all that its move leaves behind
  (`Scheduler.MovesTo`, `Scheduler.move_eq_some_iff`);
* **moves** — what of that the tasks and their surroundings show (`Scheduler.Moves`);
* **teardown** — what the end of everything does to one task (`Scheduler.Torn`);
* **left alone** — what no task touches (`Workload.Maintains`, `Workload.Keeps`).
-/

namespace ServiceLifecycle

variable {ι κ σ : Type}

/-- How a task ends after a turn of its body, unless the body sleeps. -/
def Turn.ending? : Turn κ → Option Ending
  | .sleeps _ _ => none
  | .returns => some .completed
  | .fails message => some (.failed message)
  | .panics payload => some (.panicked payload)

/-- Whether a task is still to come to its end. -/
def Stage.isLive : Stage κ → Bool
  | .queued | .gated _ | .waiting | .running _ _ => true
  | .ended _ | .external _ | .dropped _ => false

theorem Task.isFinished_iff {t : Task ι κ} :
    t.isFinished = true ↔ ∃ ending, t.stage = .ended ending := by
  cases hstage : t.stage <;> simp [isFinished, outcome?, hstage]

/-- A task has not finished as long as it is on its way. -/
theorem Task.isLive_of_isFinished {t : Task ι κ} (h : t.isFinished = true) :
    t.stage.isLive = false := by
  obtain ⟨ending, hended⟩ := isFinished_iff.mp h
  rw [hended]
  rfl

theorem Task.isFinished_of_isLive {t : Task ι κ} (h : t.stage.isLive = true) :
    t.isFinished = false := by
  rw [← Bool.not_eq_true]
  intro hfinished
  rw [isLive_of_isFinished hfinished] at h
  cases h

/-- The turn that the body of a task can take, if it has a worker or is given one. -/
def Task.turn? (work : Workload ι κ σ) (t : Task ι κ) (env : σ) : Option (Turn κ × σ) :=
  match t.stage, t.job with
  | .waiting, some job => some (work.start job env)
  | .running (some _) rest, _ => some (work.resume rest env)
  | _, _ => none

/-- The tasks with one of them put at a stage. -/
def putStage (tasks : Array (Task ι κ)) (i : TaskId) (stage : Stage κ) : Array (Task ι κ) :=
  tasks.modify i fun t => { t with stage }

/-- A look at the tasks after one of them was put at a stage. -/
theorem getElem?_putStage {tasks : Array (Task ι κ)} {i j : TaskId} {stage : Stage κ} :
    (putStage tasks i stage)[j]? =
      if i = j then tasks[j]?.map (fun t => { t with stage }) else tasks[j]? := by
  rw [putStage, Array.getElem?_modify]

@[simp] theorem size_putStage {tasks : Array (Task ι κ)} {i : TaskId} {stage : Stage κ} :
    (putStage tasks i stage).size = tasks.size := by
  simp [putStage]

/-- Nobody panics over being told why a body did not run to its end. -/
def Workload.IsCalm (work : Workload ι κ σ) : Prop :=
  ∀ job reason env, (work.giveUp job reason env).1 = .returns

namespace Scheduler

/-! ## Ends -/

/-- The surroundings after the owner of a task has been told of its end, if need be. -/
def told (work : Workload ι κ σ) (t : Task ι κ) (ending : Ending) (env : σ) : σ :=
  match t.job, t.hasCallback, ending.callbackReason? with
  | some job, true, some reason => (work.giveUp job reason env).2
  | _, _, _ => env

/-- The surroundings after what there is to say about the end of a task was said. -/
def remarked (work : Workload ι κ σ) (t : Task ι κ) (ending : Ending) (env : σ) : σ :=
  match endRemark t.name ending with
  | some r => work.remark r env
  | none => env

/-- The task has an owner, who panics over being told `reason` in these surroundings. -/
def PanicsOver (work : Workload ι κ σ) (t : Task ι κ) (reason : String) (env : σ) : Prop :=
  ∃ job, t.job = some job ∧ t.hasCallback = true ∧ (work.giveUp job reason env).1 = .panics

/-- How a task ends that is to end with `ending`, and the surroundings afterwards. -/
inductive Closes (work : Workload ι κ σ) (t : Task ι κ) (ending : Ending) (env : σ) :
    Ending → σ → Prop
  /-- It ends so, unless its owner panics over it. -/
  | announced : (∀ reason, ending.callbackReason? = some reason → ¬ PanicsOver work t reason env) →
      Closes work t ending env ending (told work t ending env)
  /-- Its owner panics over it, so that it is let go of. -/
  | disrupted {reason : String} : ending.callbackReason? = some reason →
      PanicsOver work t reason env →
      Closes work t ending env (.disrupted ending t.droppedReason)
        (remarked work t (.disrupted ending t.droppedReason) (told work t ending env))

theorem not_panicsOver {work : Workload ι κ σ} (h : work.IsCalm) (t : Task ι κ) (reason : String)
    (env : σ) : ¬ PanicsOver work t reason env := by
  rintro ⟨job, -, -, hpanics⟩
  rw [h job reason env] at hpanics
  cases hpanics

/-- Where nobody panics a task ends as it is to end. -/
theorem Closes.calm {work : Workload ι κ σ} {t : Task ι κ} {ending ending' : Ending} {env env' : σ}
    (hcloses : Closes work t ending env ending' env') (h : work.IsCalm) :
    ending' = ending ∧ env' = told work t ending env := by
  cases hcloses with
  | announced => exact ⟨rfl, rfl⟩
  | disrupted _ hpanics => exact absurd hpanics (not_panicsOver h t _ _)

theorem setStage_tasks (s : Scheduler ι κ) (i : TaskId) (stage : Stage κ) :
    (s.setStage i stage).tasks = putStage s.tasks i stage := rfl

/-- What is left once the owner of a task has been told why it ends. The tasks are what they were:
nothing has been published by then. -/
theorem notify_eq (work : Workload ι κ σ) (i : TaskId) (t : Task ι κ) {ending : Ending}
    {reason : String} (hreason : ending.callbackReason? = some reason) (s : Scheduler ι κ) (env : σ) :
    ∃ reaction callbacks, notify work i t reason s env =
        (reaction, { s with callbacks }, told work t ending env) ∧
      (reaction = .panics ↔ PanicsOver work t reason env) := by
  unfold notify told PanicsOver
  rw [hreason]
  cases t.job with
  | none => exact ⟨_, s.callbacks, rfl, by simp⟩
  | some job =>
    cases t.hasCallback with
    | false => exact ⟨_, s.callbacks, rfl, by simp⟩
    | true => exact ⟨_, _, rfl, by simp⟩

/-- The end of a task shows in its stage and in who has been told. -/
theorem closes_finish (work : Workload ι κ σ) (i : TaskId) (t : Task ι κ) (ending : Ending)
    (s : Scheduler ι κ) (env : σ) :
    ∃ callbacks ending' env', Closes work t ending env ending' env' ∧
      finish work i t ending s env = ({ s.setStage i (.ended ending') with callbacks }, env') := by
  unfold finish
  cases hreason : ending.callbackReason? with
  | none =>
    have htold : told work t ending env = env := by simp [told, hreason]
    refine ⟨s.callbacks, ending, _, .announced (by simp [hreason]), ?_⟩
    rw [htold]
    rfl
  | some reason =>
    obtain ⟨reaction, callbacks, heq, hreaction⟩ := notify_eq work i t hreason s env
    dsimp only
    rw [heq]
    cases reaction with
    | returns =>
      refine ⟨callbacks, ending, _, .announced fun r hr => ?_, rfl⟩
      obtain rfl : reason = r := Option.some.inj (hreason.symm.trans hr)
      exact fun hpanics => nomatch hreaction.mpr hpanics
    | panics => exact ⟨callbacks, _, _, .disrupted hreason (hreaction.mp rfl), rfl⟩

/-- A task whose body has not started is no longer pending after its end. -/
theorem closes_abort (work : Workload ι κ σ) (i : TaskId) (t : Task ι κ) (reason : String)
    (s : Scheduler ι κ) (env : σ) :
    ∃ callbacks ending env',
      Closes work t (.aborted reason) (remarked work t (.aborted reason) env) ending env' ∧
      abort work i t reason s env =
        ({ s.setStage i (.ended ending) with pending := s.pending - 1, callbacks }, env') :=
  closes_finish work i t (.aborted reason) { s with pending := s.pending - 1 } _

/-- A task whose body has ended is no longer running, and its worker is free. -/
theorem closes_leave (work : Workload ι κ σ) (i : TaskId) (t : Task ι κ) (ending : Ending)
    (s : Scheduler ι κ) (env : σ) :
    ∃ callbacks ending' env', Closes work t ending (remarked work t ending env) ending' env' ∧
      leave work i t ending s env =
        ({ s.setStage i (.ended ending') with
            running := s.running - 1, free := s.free + 1, callbacks }, env') :=
  closes_finish work i t ending { s with running := s.running - 1, free := s.free + 1 } _

/-- A body that does not sleep leaves its worker. -/
theorem settleTurn_ends {work : Workload ι κ σ} {i : TaskId} {t : Task ι κ}
    {s : Scheduler ι κ} {turn : Turn κ} {ending : Ending} (env : σ)
    (h : turn.ending? = some ending) :
    settleTurn work i t s (turn, env) = leave work i t ending s env := by
  cases turn <;> simp_all [Turn.ending?, settleTurn]

/-! ## Cases -/

/-- One move of task `i`: where the task stands, what lets it move, and all that the move
leaves behind. -/
inductive MovesTo (work : Workload ι κ σ) (i : TaskId) (s : Scheduler ι κ) (env : σ) :
    Scheduler ι κ × σ → Prop
  /-- It gets its first turn. -/
  | enters {t} : s.tasks[i]? = some t → t.stage = .queued →
      MovesTo work i s env (s.setStage i (.gated t.gates), env)
  /-- It finds its next gate complete. -/
  | passes {t g later gate} : s.tasks[i]? = some t → t.stage = .gated (g :: later) →
      s.tasks[g]? = some gate → gate.result? = some .completed →
      MovesTo work i s env (s.setStage i (.gated later), env)
  /-- It finds that its next gate will not complete. -/
  | gateFails {t g later gate o} : s.tasks[i]? = some t → t.stage = .gated (g :: later) →
      s.tasks[g]? = some gate → gate.result? = some o → o ≠ .completed →
      MovesTo work i s env (abort work i t (gateReason gate.name o) s env)
  /-- It gets in line for a worker. -/
  | lines {t} : s.tasks[i]? = some t → t.stage = .gated [] → s.isShutdown = false →
      MovesTo work i s env ({ s.setStage i .waiting with line := s.line ++ [i] }, env)
  /-- It is refused a place in line. -/
  | refused {t} : s.tasks[i]? = some t → t.stage = .gated [] → s.isShutdown = true →
      MovesTo work i s env (abort work i t s.shutdownReason s env)
  /-- It is sent away from its place in line. -/
  | sentAway {t job} : s.tasks[i]? = some t → t.stage = .waiting → t.job = some job →
      s.isShutdown = true →
      MovesTo work i s env
        (abort work i t s.shutdownReason { s with line := s.line.erase i } env)
  /-- It is first in line and gets a free worker. -/
  | starts {t job} : s.tasks[i]? = some t → t.stage = .waiting → t.job = some job →
      s.isShutdown = false → s.line.head? = some i → 0 < s.free →
      MovesTo work i s env
        (settleTurn work i t
          { s with
            line := s.line.tail
            free := s.free - 1
            pending := s.pending - 1
            running := s.running + 1 }
          (work.start job env))
  /-- It goes on after a sleep. -/
  | resumes {t wake rest} : s.tasks[i]? = some t → t.stage = .running (some wake) rest →
      wake ≤ s.now → MovesTo work i s env (settleTurn work i t s (work.resume rest env))

section Cases

variable {work : Workload ι κ σ} {i : TaskId} {s : Scheduler ι κ} {env : σ}
  {p : Scheduler ι κ × σ}

theorem movesTo_of_move (h : move work i s env = some p) : MovesTo work i s env p := by
  unfold move at h
  split at h
  · cases h
  next t ht =>
  split at h
  · next hstage =>
    obtain rfl := Option.some.inj h
    exact .enters ht hstage
  · next g later hstage =>
    split at h
    · cases h
    next gate hg =>
    split at h
    · cases h
    · next hdone =>
      obtain rfl := Option.some.inj h
      exact .passes ht hstage hg hdone
    · next o hopen ho =>
      obtain rfl := Option.some.inj h
      exact .gateFails ht hstage hg ho hopen
  · next hstage =>
    split at h
    · next hshut =>
      obtain rfl := Option.some.inj h
      exact .refused ht hstage hshut
    · next hshut =>
      obtain rfl := Option.some.inj h
      exact .lines ht hstage (eq_false_of_ne_true hshut)
  · next job hstage hjob =>
    split at h
    · next hshut =>
      obtain rfl := Option.some.inj h
      exact .sentAway ht hstage hjob hshut
    · next hshut =>
      split at h
      · next hline =>
        obtain rfl := Option.some.inj h
        exact .starts ht hstage hjob (eq_false_of_ne_true hshut) hline.1 hline.2
      · cases h
  · next wake rest hstage =>
    split at h
    · next hwake =>
      obtain rfl := Option.some.inj h
      exact .resumes ht hstage hwake
    · cases h
  · cases h

theorem MovesTo.move_eq (h : MovesTo work i s env p) : move work i s env = some p := by
  unfold move
  cases h with
  | enters ht hstage => simp only [ht, hstage]
  | passes ht hstage hg hdone => simp only [ht, hstage, hg, hdone]
  | @gateFails t g later gate o ht hstage hg ho hopen =>
    simp only [ht, hstage, hg, ho]
  | lines ht hstage hshut => simp [ht, hstage, hshut]
  | refused ht hstage hshut => simp [ht, hstage, hshut]
  | sentAway ht hstage hjob hshut => simp [ht, hstage, hjob, hshut]
  | starts ht hstage hjob hshut hhead hfree => simp [ht, hstage, hjob, hshut, hhead, hfree]
  | resumes ht hstage hwake => simp [ht, hstage, hwake]

/-- A task can move exactly in these cases, and these are all its moves. -/
theorem move_eq_some_iff : move work i s env = some p ↔ MovesTo work i s env p :=
  ⟨movesTo_of_move, MovesTo.move_eq⟩

end Cases

/-! ## Moves -/

/-- One move of task `i`, by what it does to the tasks and to the surroundings. -/
inductive Moves (work : Workload ι κ σ) (i : TaskId) (s : Scheduler ι κ) (env : σ) :
    Array (Task ι κ) → σ → Prop
  /-- It gets its first turn. -/
  | enters {t} : s.tasks[i]? = some t → t.stage = .queued →
      Moves work i s env (putStage s.tasks i (.gated t.gates)) env
  /-- It finds its next gate complete. -/
  | passes {t g later gate} : s.tasks[i]? = some t → t.stage = .gated (g :: later) →
      s.tasks[g]? = some gate → gate.result? = some .completed →
      Moves work i s env (putStage s.tasks i (.gated later)) env
  /-- It gets in line for a worker. -/
  | lines {t} : s.tasks[i]? = some t → t.stage = .gated [] → s.isShutdown = false →
      Moves work i s env (putStage s.tasks i .waiting) env
  /-- It finds that its next gate will not complete. -/
  | gateFails {t g later gate o ending env'} : s.tasks[i]? = some t →
      t.stage = .gated (g :: later) → s.tasks[g]? = some gate → gate.result? = some o →
      o ≠ .completed →
      Closes work t (.aborted (gateReason gate.name o))
        (remarked work t (.aborted (gateReason gate.name o)) env) ending env' →
      Moves work i s env (putStage s.tasks i (.ended ending)) env'
  /-- It is refused a worker. -/
  | refused {t ending env'} : s.tasks[i]? = some t → t.stage = .gated [] ∨ t.stage = .waiting →
      s.isShutdown = true →
      Closes work t (.aborted s.shutdownReason) (remarked work t (.aborted s.shutdownReason) env)
        ending env' →
      Moves work i s env (putStage s.tasks i (.ended ending)) env'
  /-- Its body takes a turn and sleeps. -/
  | sleeps {t time wake rest env'} : s.tasks[i]? = some t →
      t.turn? work env = some (.sleeps time rest, env') →
      (t.stage = .waiting → s.isShutdown = false) →
      Moves work i s env (putStage s.tasks i (.running wake rest)) env'
  /-- Its body takes a turn and ends. -/
  | ends {t turn ending ending' env' env''} : s.tasks[i]? = some t →
      t.turn? work env = some (turn, env') → turn.ending? = some ending →
      (t.stage = .waiting → s.isShutdown = false) →
      Closes work t ending (remarked work t ending env') ending' env'' →
      Moves work i s env (putStage s.tasks i (.ended ending')) env''

section Move

variable {work : Workload ι κ σ} {i : TaskId} {s s' s₁ : Scheduler ι κ} {env env' env₁ : σ}
  {t : Task ι κ} {p : Scheduler ι κ × σ}

/-- A move with which the task is given up. -/
theorem moves_of_abort {reason : String}
    (hmoves : ∀ {ending env'},
      Closes work t (.aborted reason) (remarked work t (.aborted reason) env) ending env' →
        Moves work i s env (putStage s.tasks i (.ended ending)) env')
    (htasks : s₁.tasks = s.tasks) (halive : s₁.isAlive = s.isAlive)
    (hshut : s₁.isShutdown = s.isShutdown) :
    let p := abort work i t reason s₁ env
    Moves work i s env p.1.tasks p.2 ∧ p.1.isAlive = s.isAlive ∧
      p.1.isShutdown = s.isShutdown := by
  obtain ⟨callbacks, ending, env', hcloses, heq⟩ := closes_abort work i t reason s₁ env
  rw [heq]
  exact ⟨setStage_tasks s₁ i _ ▸ htasks ▸ hmoves hcloses, halive, hshut⟩

/-- A move with which the body takes a turn. -/
theorem moves_of_turn {turn : Turn κ × σ} (ht : s.tasks[i]? = some t)
    (hturn : t.turn? work env = some turn) (hopen : t.stage = .waiting → s.isShutdown = false)
    (htasks : s₁.tasks = s.tasks) (halive : s₁.isAlive = s.isAlive)
    (hshut : s₁.isShutdown = s.isShutdown) :
    let p := settleTurn work i t s₁ turn
    Moves work i s env p.1.tasks p.2 ∧ p.1.isAlive = s.isAlive ∧
      p.1.isShutdown = s.isShutdown := by
  obtain ⟨turn, env₁⟩ := turn
  cases hend : turn.ending? with
  | none =>
    cases turn with
    | sleeps time rest =>
      exact ⟨setStage_tasks s₁ i _ ▸ htasks ▸ .sleeps ht hturn hopen, halive, hshut⟩
    | returns | fails | panics => simp [Turn.ending?] at hend
  | some ending =>
    obtain ⟨callbacks, ending', env₂, hcloses, heq⟩ := closes_leave work i t ending s₁ env₁
    rw [settleTurn_ends env₁ hend, heq]
    exact ⟨setStage_tasks s₁ i _ ▸ htasks ▸ .ends ht hturn hend hopen hcloses, halive, hshut⟩

/-- Every move is one of these, and it neither shuts the scheduler down nor tears it down. -/
theorem MovesTo.moves (h : MovesTo work i s env p) :
    Moves work i s env p.1.tasks p.2 ∧ p.1.isAlive = s.isAlive ∧
      p.1.isShutdown = s.isShutdown := by
  cases h with
  | enters ht hstage => exact ⟨.enters ht hstage, rfl, rfl⟩
  | passes ht hstage hg hdone => exact ⟨.passes ht hstage hg hdone, rfl, rfl⟩
  | gateFails ht hstage hg ho hopen =>
    exact moves_of_abort (.gateFails ht hstage hg ho hopen) rfl rfl rfl
  | lines ht hstage hopen => exact ⟨.lines ht hstage hopen, rfl, rfl⟩
  | refused ht hstage hshut => exact moves_of_abort (.refused ht (.inl hstage) hshut) rfl rfl rfl
  | sentAway ht hstage _ hshut => exact moves_of_abort (.refused ht (.inr hstage) hshut) rfl rfl rfl
  | starts ht hstage hjob hopen =>
    exact moves_of_turn ht (by simp [Task.turn?, hstage, hjob]) (fun _ => hopen) rfl rfl rfl
  | resumes ht hstage =>
    exact moves_of_turn ht (by simp [Task.turn?, hstage]) (by simp [hstage]) rfl rfl rfl

theorem moves_of_move (h : move work i s env = some (s', env')) :
    Moves work i s env s'.tasks env' ∧ s'.isAlive = s.isAlive ∧
      s'.isShutdown = s.isShutdown := (movesTo_of_move h).moves

/-- As long as there is no shutdown, a task whose body can take a turn moves by taking it. -/
theorem MovesTo.turns {turn : Turn κ × σ} (h : MovesTo work i s env p) (ht : s.tasks[i]? = some t)
    (hopen : s.isShutdown = false) (hturn : t.turn? work env = some turn) :
    ∃ s₁, p = settleTurn work i t s₁ turn ∧ s₁.tasks = s.tasks ∧ s₁.now = s.now := by
  cases h with
  | enters hu hstage | passes hu hstage | gateFails hu hstage | lines hu hstage
  | refused hu hstage =>
    obtain rfl := Option.some.inj (ht.symm.trans hu)
    simp [Task.turn?, hstage] at hturn
  | sentAway _ _ _ hshut => simp [hopen] at hshut
  | @starts u job hu hstage hjob =>
    obtain rfl := Option.some.inj (ht.symm.trans hu)
    obtain rfl : work.start job env = turn := by simpa [Task.turn?, hstage, hjob] using hturn
    exact ⟨_, rfl, rfl, rfl⟩
  | @resumes u wake rest hu hstage =>
    obtain rfl := Option.some.inj (ht.symm.trans hu)
    obtain rfl : work.resume rest env = turn := by simpa [Task.turn?, hstage] using hturn
    exact ⟨s, rfl, rfl, rfl⟩

/-- A body that goes to sleep for a time wakes at a later moment. -/
theorem wake_of_move (hmove : move work i s env = some (s', env')) (ht : s.tasks[i]? = some t)
    (hopen : s.isShutdown = false) {ms : Nat} {rest : κ}
    (hturn : t.turn? work env = some (.sleeps (some ms) rest, env₁)) :
    s'.tasks = putStage s.tasks i (.running (some (s.now + max ms 1)) rest) := by
  obtain ⟨s₁, hp, htasks, hnow⟩ := (movesTo_of_move hmove).turns ht hopen hturn
  obtain ⟨rfl, rfl⟩ := Prod.mk.inj hp
  rw [← htasks, ← hnow]
  rfl

end Move

/-! ## Teardown -/

/-- The teardown of task `i`, by what it does to the tasks and to the surroundings. -/
inductive Torn (work : Workload ι κ σ) (i : TaskId) (tasks : Array (Task ι κ)) (env : σ) :
    Array (Task ι κ) → σ → Prop
  /-- There is nothing to tear down. -/
  | idle : Torn work i tasks env tasks env
  /-- It has not had a turn and is let go of. -/
  | dropped {t} : tasks[i]? = some t → t.stage = .queued →
      Torn work i tasks env (putStage tasks i (.dropped false)) env
  /-- It is aborted. -/
  | aborted {t} : tasks[i]? = some t → t.stage.isLive = true →
      Torn work i tasks env (putStage tasks i (.ended (.aborted t.droppedReason)))
        (told work t (.aborted t.droppedReason)
          (work.remark (tearRemark t.name t.droppedReason) env))
  /-- Its owner panics over it, and nothing is published any more. -/
  | stranded {t} : tasks[i]? = some t → t.stage.isLive = true →
      PanicsOver work t t.droppedReason (work.remark (tearRemark t.name t.droppedReason) env) →
      Torn work i tasks env (putStage tasks i (.dropped (t.status = .running)))
        (told work t (.aborted t.droppedReason)
          (work.remark (tearRemark t.name t.droppedReason) env))

theorem torn_of_tear (work : Workload ι κ σ) (i : TaskId) (s : Scheduler ι κ) (env : σ) :
    Torn work i s.tasks env (tear work i s env).1.tasks (tear work i s env).2 ∧
      (tear work i s env).1.isAlive = s.isAlive ∧
      (tear work i s env).1.isShutdown = s.isShutdown := by
  unfold tear
  cases ht : s.tasks[i]? with
  | none => exact ⟨.idle, rfl, rfl⟩
  | some t =>
    obtain ⟨reaction, callbacks, hnotify, hreaction⟩ := notify_eq work i t
      (rfl : Ending.callbackReason? (.aborted t.droppedReason) = some t.droppedReason) s
      (work.remark (tearRemark t.name t.droppedReason) env)
    dsimp only
    cases hstage : t.stage with
    | queued => exact ⟨.dropped ht hstage, rfl, rfl⟩
    | gated | waiting | running =>
      have hlive : t.stage.isLive = true := by rw [hstage]; rfl
      dsimp only
      rw [hnotify]
      cases reaction with
      | returns => exact ⟨.aborted ht hlive, rfl, rfl⟩
      | panics => exact ⟨.stranded ht hlive (hreaction.mp rfl), rfl, rfl⟩
    | ended | external | dropped => exact ⟨.idle, rfl, rfl⟩

end Scheduler

/-! ## What tasks leave alone -/

/-- Whatever the bodies do, and whatever their owners do when they are told, goes on from
surroundings of which something holds to others of which it holds. -/
structure Workload.Maintains (work : Workload ι κ σ) (I : σ → Prop) : Prop where
  start : ∀ job env, I env → I (work.start job env).2
  resume : ∀ rest env, I env → I (work.resume rest env).2
  giveUp : ∀ job reason env, I env → I (work.giveUp job reason env).2
  remark : ∀ remark env, I env → I (work.remark remark env)

/-- Whatever the bodies do, and whatever their owners do when they are told, leaves part of the
surroundings as it is. -/
structure Workload.Keeps {α : Type} (work : Workload ι κ σ) (part : σ → α) : Prop where
  start : ∀ job env, part (work.start job env).2 = part env
  resume : ∀ rest env, part (work.resume rest env).2 = part env
  giveUp : ∀ job reason env, part (work.giveUp job reason env).2 = part env
  remark : ∀ remark env, part (work.remark remark env) = part env

/-- A part that is left as it is stays what it is. -/
theorem Workload.Keeps.maintains {α : Type} {work : Workload ι κ σ} {part : σ → α}
    (h : work.Keeps part) (a : α) : work.Maintains fun env => part env = a where
  start job env henv := (h.start job env).trans henv
  resume rest env henv := (h.resume rest env).trans henv
  giveUp job reason env henv := (h.giveUp job reason env).trans henv
  remark remark env henv := (h.remark remark env).trans henv

namespace Scheduler

section Maintains

variable {work : Workload ι κ σ} {I : σ → Prop} {i : TaskId} {t : Task ι κ} {env : σ}

theorem maintained_told (h : work.Maintains I) (t : Task ι κ) (ending : Ending) (henv : I env) :
    I (told work t ending env) := by
  unfold told
  split
  · exact h.giveUp _ _ _ henv
  · exact henv

theorem maintained_remarked (h : work.Maintains I) (t : Task ι κ) (ending : Ending)
    (henv : I env) : I (remarked work t ending env) := by
  unfold remarked
  split
  · exact h.remark _ _ henv
  · exact henv

theorem Closes.maintained {ending ending' : Ending} {env' : σ}
    (hcloses : Closes work t ending env ending' env') (h : work.Maintains I) (henv : I env) :
    I env' := by
  cases hcloses with
  | announced => exact maintained_told h _ _ henv
  | disrupted => exact maintained_remarked h _ _ (maintained_told h _ _ henv)

theorem maintained_turn (h : work.Maintains I) {turn : Turn κ} {env' : σ}
    (hturn : t.turn? work env = some (turn, env')) (henv : I env) : I env' := by
  unfold Task.turn? at hturn
  split at hturn
  · next job _ _ =>
    obtain rfl : (work.start job env).2 = env' := congrArg Prod.snd (Option.some.inj hturn)
    exact h.start job env henv
  · next rest _ =>
    obtain rfl : (work.resume rest env).2 = env' := congrArg Prod.snd (Option.some.inj hturn)
    exact h.resume rest env henv
  · cases hturn

/-- What the bodies go on with holds after every move of a task. -/
theorem Moves.maintained {s : Scheduler ι κ} {tasks : Array (Task ι κ)} {env' : σ}
    (hmoves : Moves work i s env tasks env') (h : work.Maintains I) (henv : I env) : I env' := by
  cases hmoves with
  | enters | passes | lines => exact henv
  | gateFails _ _ _ _ _ hcloses | refused _ _ _ hcloses =>
    exact hcloses.maintained h (maintained_remarked h _ _ henv)
  | sleeps _ hturn => exact maintained_turn h hturn henv
  | ends _ hturn _ _ hcloses =>
    exact hcloses.maintained h (maintained_remarked h _ _ (maintained_turn h hturn henv))

theorem Torn.maintained {tasks tasks' : Array (Task ι κ)} {env' : σ}
    (htorn : Torn work i tasks env tasks' env') (h : work.Maintains I) (henv : I env) : I env' := by
  cases htorn with
  | idle | dropped => exact henv
  | aborted | stranded => exact maintained_told h _ _ (h.remark _ _ henv)

/-- No move of a task touches what tasks leave alone. -/
theorem Moves.kept {α : Type} {part : σ → α} {s : Scheduler ι κ} {tasks : Array (Task ι κ)}
    {env' : σ} (hmoves : Moves work i s env tasks env') (h : work.Keeps part) :
    part env' = part env := hmoves.maintained (h.maintains (part env)) rfl

theorem Torn.kept {α : Type} {part : σ → α} {tasks tasks' : Array (Task ι κ)} {env' : σ}
    (htorn : Torn work i tasks env tasks' env') (h : work.Keeps part) : part env' = part env :=
  htorn.maintained (h.maintains (part env)) rfl

end Maintains

end Scheduler

end ServiceLifecycle

import Mathlib.Algebra.Order.BigOperators.Group.Finset
import ServiceLifecycle.Proofs.Incarnations
import ServiceLifecycle.Proofs.Quiescence

/-!
# Going down

Some services have been claimed to be taken down, and apart from their tasks nothing goes on. If
their deactivation hooks come to an end, with success or with a failure, every one of these tasks
completes and its service ends up down, whatever the order of the turns. No gate fails, since the
tasks wait for each other only; and from wherever they have got to they can go on until all have
finished, since every move brings one of them nearer to its end.

* **hooks** — hooks that end and do not panic (`HookAction.ends`, `Service.deactivates`), and what
  a task makes of a turn with one of them (`Scheduler.move_calm`);
* **sinking** — what has become of a provider since some services were claimed (`Provider.Sinks`),
  kept by each move (`Provider.Sinks.move`), which brings the end nearer;
* **settling** — the tasks can finish, and what holds once they have (`Provider.Sinks.settles`).
-/

namespace ServiceLifecycle

open Relation

/-! ## Hooks -/

/-- Whether the actions of a hook that sees such properties come to an end without a panic. -/
def HookAction.ends (properties : List (String × PropertyValue)) : List HookAction → Bool
  | [] => true
  | .act (.delay _) :: rest => ends properties rest
  | .act (.fail _) :: _ => true
  | .act (.panic _) :: _ => false
  | .act .hang :: _ => false
  | .require name :: rest =>
      if properties.any fun e => e.1 = name then ends properties rest else true
  | .store _ :: rest => ends properties rest
  | .describe :: rest => ends properties rest
  | .say _ :: rest => ends properties rest

/-- What the next call of the deactivation hook of a service does. -/
def Service.deactivation (s : Service) : List HookAction :=
  s.behaviour.script .deactivate s.id (s.calls .deactivate + 1)

/-- Whether the next call of the deactivation hook comes to an end without a panic. -/
def Service.deactivates (s : Service) : Bool :=
  HookAction.ends s.properties.values.entries s.deactivation

theorem Service.deactivation_outline (s : Service) : s.outline.deactivation = s.deactivation := by
  unfold deactivation
  rw [calls_outline]
  rfl

theorem Service.deactivates_outline (s : Service) : s.outline.deactivates = s.deactivates := by
  unfold deactivates
  rw [deactivation_outline]
  rfl

/-- A hook under way is called to take its service down, and comes to an end without a panic. -/
structure HookRun.IsCalm (run : HookRun) : Prop where
  purpose : run.purpose = .deactivation
  ends : HookAction.ends run.context.properties run.rest = true

/-- The hook of a task that takes a service down comes to an end without a panic. -/
def Stage.IsCalm (s : Service) : Stage HookRun → Prop
  | .running wake run => wake.isSome = true ∧ run.IsCalm
  | .queued | .gated _ | .waiting | .ended _ | .external _ | .dropped _ => s.deactivates = true

/-- How many moves a task that takes a service down has still to make, at most. -/
def Task.distance (s : Service) (t : Task Job HookRun) : Nat :=
  match t.stage with
  | .queued => t.gates.length + s.deactivation.length + 4
  | .gated remaining => remaining.length + s.deactivation.length + 3
  | .waiting => s.deactivation.length + 2
  | .running _ run => run.rest.length + 1
  | .ended _ | .external _ | .dropped _ => 0

/-- Nothing is told of a task that is under way. -/
theorem Task.result?_of_live (t : Task Job HookRun) (h : t.stage.isLive = true) :
    t.result? = none := by
  unfold result?
  cases hstage : t.stage with
  | queued | gated | waiting | running | external => rfl
  | ended | dropped =>
    rw [hstage] at h
    cases h

theorem Stage.isCalm_outline (s : Service) (stage : Stage HookRun) :
    stage.IsCalm s.outline ↔ stage.IsCalm s := by
  cases stage <;> simp only [IsCalm, Service.deactivates_outline]

theorem Task.distance_outline (s : Service) (t : Task Job HookRun) :
    t.distance s.outline = t.distance s := by
  unfold distance
  rw [Service.deactivation_outline]

namespace Registry

variable {r r' : Registry} {n : Incarnation} {c : Context} {script : List HookAction}

/-- A hook that comes to an end does not panic, and if it sleeps it wakes, with less to do. -/
theorem play_ends (n : Incarnation) (c : Context) (script : List HookAction) (r : Registry)
    (hends : HookAction.ends c.properties script = true) :
    (∀ payload, (play n c script r).1 ≠ .panics payload) ∧
      ∀ time rest, (play n c script r).1 = .sleeps time rest → time.isSome = true ∧
        HookAction.ends c.properties rest = true ∧ rest.length < script.length := by
  -- what comes later leaves no more to do than was left before
  have hlater : ∀ {a : HookAction} {rest : List HookAction} {result : Turn (List HookAction)},
      ((∀ payload, result ≠ .panics payload) ∧ ∀ time left, result = .sleeps time left →
        time.isSome = true ∧ HookAction.ends c.properties left = true ∧
          left.length < rest.length) →
      (∀ payload, result ≠ .panics payload) ∧ ∀ time left, result = .sleeps time left →
        time.isSome = true ∧ HookAction.ends c.properties left = true ∧
          left.length < (a :: rest).length := by
    intro a rest result hresult
    refine hresult.imp_right fun hsleeps time left heq => ?_
    obtain ⟨htime, hends, hless⟩ := hsleeps time left heq
    exact ⟨htime, hends, Nat.lt_succ_of_lt hless⟩
  fun_induction play n c script r with
  | case1 | case4 | case8 | case9 => simp
  | case2 rest r ih => exact hlater (ih hends)
  | case3 ms rest r =>
    refine ⟨by simp, fun time left heq => ?_⟩
    obtain ⟨rfl, rfl⟩ := Turn.sleeps.inj heq
    exact ⟨rfl, hends, Nat.lt_succ_self _⟩
  | case5 | case6 => cases hends
  | case7 name rest r hhas ih =>
    rw [HookAction.ends, if_pos hhas] at hends
    exact hlater (ih hends)
  | case10 _ _ _ _ _ ih | case11 _ _ ih | case12 _ _ _ ih => exact hlater (ih hends)

/-- What a task makes of a turn with such a hook: the body sleeps for a time, with less to do, or
ends without an error. -/
inductive Calms (size : Nat) : Turn HookRun → Prop
  | sleeps {ms : Nat} {run : HookRun} : run.IsCalm → run.rest.length < size →
      Calms size (.sleeps (some ms) run)
  | returns : Calms size .returns

theorem calms_afterDeactivation (n : Incarnation) (c : Context) (script : List HookAction)
    (r : Registry) (hends : HookAction.ends c.properties script = true) :
    Calms script.length (afterDeactivation n c (play n c script r)).1 := by
  obtain ⟨hcalm, hsleeps⟩ := play_ends n c script r hends
  generalize play n c script r = result at hcalm hsleeps
  obtain ⟨turn, r'⟩ := result
  cases turn with
  | sleeps time rest =>
    obtain ⟨htime, hends, hless⟩ := hsleeps time rest rfl
    obtain ⟨ms, rfl⟩ := Option.isSome_iff_exists.mp htime
    exact .sleeps ⟨rfl, hends⟩ hless
  | returns | fails => exact .returns
  | panics payload => exact absurd rfl (hcalm payload)

theorem calms_startJob (h : (r.service n).deactivates = true) :
    Calms (r.service n).deactivation.length (startJob (.disable n) r).1 :=
  calms_afterDeactivation n _ _ _ h

theorem calms_continueHook {run : HookRun} (h : run.IsCalm) (r : Registry) :
    Calms run.rest.length (continueHook run r).1 := by
  unfold continueHook
  dsimp only
  rw [h.purpose]
  exact calms_afterDeactivation run.service run.context run.rest r h.ends

end Registry

namespace Scheduler

open Registry

variable {i : TaskId} {s s' : Scheduler Job HookRun} {r r' : Registry} {t : Task Job HookRun}
  {n : Incarnation}

/-- What a task that takes a service down makes of a turn, if its hook comes to an end. -/
theorem calms_turn {turn : Turn HookRun} (hjob : t.job = some (.disable n))
    (hcalm : t.stage.IsCalm (r.service n)) (hturn : t.turn? workload r = some (turn, r')) :
    ∃ size, Calms size turn ∧ size + 1 ≤ t.distance (r.service n) := by
  unfold Task.turn? at hturn
  split at hturn
  · next job hstage hjob' =>
    obtain rfl := Option.some.inj (hjob'.symm.trans hjob)
    rw [hstage] at hcalm
    refine ⟨_, congrArg Prod.fst (Option.some.inj hturn) ▸ calms_startJob hcalm, ?_⟩
    simp [Task.distance, hstage]
  · next wake run hstage =>
    rw [hstage] at hcalm
    refine ⟨_, congrArg Prod.fst (Option.some.inj hturn) ▸ calms_continueHook hcalm.2 r, ?_⟩
    simp [Task.distance, hstage]
  · cases hturn

/-- A move brings a task that takes a service down nearer to its end, if its gates do not fail and
its hook comes to an end. When it ends it completes. -/
theorem move_calm (hmove : move workload i s r = some (s', r')) (ht : s.tasks[i]? = some t)
    (hjob : t.job = some (.disable n)) (hopen : s.isShutdown = false)
    (hgates : ∀ g later gate o, t.stage = .gated (g :: later) → s.tasks[g]? = some gate →
      gate.result? = some o → o = .completed)
    (hcalm : t.stage.IsCalm (r.service n)) :
    ∃ stage, s'.tasks = putStage s.tasks i stage ∧
      Task.distance (r'.service n) { t with stage } < t.distance (r.service n) ∧
      (stage = .ended .completed ∨ stage.isLive = true ∧ stage.IsCalm (r'.service n)) := by
  obtain ⟨hmoves, -, -⟩ := moves_of_move hmove
  have hsame : ∀ {u : Task Job HookRun}, s.tasks[i]? = some u → u = t :=
    fun hu => Option.some.inj (hu.symm.trans ht)
  generalize htasks : s'.tasks = tasks at hmoves
  cases hmoves with
  | enters hu hstage =>
    obtain rfl := hsame hu
    rw [hstage] at hcalm
    exact ⟨_, rfl, by simp [Task.distance, hstage], .inr ⟨rfl, hcalm⟩⟩
  | passes hu hstage =>
    obtain rfl := hsame hu
    rw [hstage] at hcalm
    exact ⟨_, rfl, by simp [Task.distance, hstage], .inr ⟨rfl, hcalm⟩⟩
  | lines hu hstage =>
    obtain rfl := hsame hu
    rw [hstage] at hcalm
    exact ⟨_, rfl, by simp [Task.distance, hstage], .inr ⟨rfl, hcalm⟩⟩
  | gateFails hu hstage hgate hresult hne =>
    obtain rfl := hsame hu
    exact absurd (hgates _ _ _ _ hstage hgate hresult) hne
  | refused hu hstage hshut =>
    rw [hopen] at hshut
    cases hshut
  | sleeps hu hslept =>
    obtain rfl := hsame hu
    obtain ⟨size, hcalms, hsize⟩ := calms_turn hjob hcalm hslept
    cases hcalms with
    | @sleeps ms run hrun hless =>
      have hwakes := wake_of_move hmove hu hopen hslept
      refine ⟨_, htasks.symm.trans hwakes, ?_, .inr ⟨rfl, rfl, hrun⟩⟩
      exact Nat.lt_of_lt_of_le (Nat.succ_lt_succ hless) hsize
  | ends hu hended hend _ hcloses =>
    obtain ⟨rfl, rfl⟩ := hcloses.calm isCalm_workload
    obtain rfl := hsame hu
    obtain ⟨size, hcalms, hsize⟩ := calms_turn hjob hcalm hended
    cases hcalms with
    | sleeps => cases hend
    | returns =>
      obtain rfl := Option.some.inj hend
      exact ⟨_, rfl, Nat.lt_of_lt_of_le (Nat.succ_pos size) hsize, .inl rfl⟩

end Scheduler

/-! ## Sinking -/

namespace Provider

variable {p q q' : Provider} {D : Incarnation → Prop} {i k : TaskId} {n m : Incarnation}
  {t : Task Job HookRun} {stage : Stage HookRun} {e : Event}

/-- What holds of every provider after a run without a teardown. -/
structure Healthy (p : Provider) : Prop where
  lawful : p.scene.Lawful
  present : p.scene.Present
  staffed : p.tasks.Staffed
  furnished : p.Furnished

theorem Healthy.step (h : p.Healthy) (he : e ≠ .stop) : (p.step e).Healthy where
  lawful := h.lawful.after [e]
  present := by
    have hevents : ∀ e' ∈ [e], e' ≠ .stop := by simpa using he
    exact h.lawful.present_after h.present hevents
  staffed := staffed_step h.staffed h.present.isAlive he
  furnished := h.furnished.step h.lawful e

theorem Healthy.after (h : p.Healthy) {events : List Event} (hevents : ∀ e ∈ events, e ≠ .stop) :
    (p.after events).Healthy :=
  List.foldlRecOn (motive := Healthy) events Provider.step h fun _ h e he => h.step (hevents e he)

theorem Healthy.request (h : p.Healthy) (r : Request) (hr : (p.perform undisturbed r).2 = q) :
    q.Healthy := by
  have hstep : (p.step (.request r)).Healthy := h.step (by simp)
  rwa [show p.step (.request r) = q from hr] at hstep

/-- A task takes a service down: it is on its way there and nothing will stop it, or it has
completed. It waits for no task before the `k`-th. -/
structure Sinking (q : Provider) (k : TaskId) (t : Task Job HookRun) (n : Incarnation) : Prop where
  job : t.job = some (.disable n)
  gates : ∀ g ∈ t.gates, k ≤ g
  stage : t.stage = .ended .completed ∧ (q.scene.service n).state = .disabled ∨
    t.stage.isLive = true ∧ (q.scene.service n).state = .disabling ∧
      t.stage.IsCalm (q.scene.service n)

/-- Since it was `p`, some services of a kind have been claimed to be taken down, and apart from
their tasks nothing has been going on. -/
structure Sinks (p q : Provider) (D : Incarnation → Prop) : Prop where
  ledger : q.registry.ledger = p.registry.ledger
  components : q.registry.components = p.registry.components
  isOpen : q.tasks.isShutdown = false
  isAlive : q.tasks.isAlive = true
  old : ∀ i < p.tasks.tasks.size, q.tasks.tasks[i]? = p.tasks.tasks[i]?
  new : ∀ i t, p.tasks.tasks.size ≤ i → q.tasks.tasks[i]? = some t →
    ∃ n, D n ∧ q.Sinking p.tasks.tasks.size t n
  each : ∀ n, D n → ∃ i t, p.tasks.tasks.size ≤ i ∧ q.tasks.tasks[i]? = some t ∧
    t.job = some (.disable n)
  frame : ∀ m, ¬ D m → q.scene.service m = p.scene.service m

/-- All tasks have come to their end. -/
def AllFinished (p : Provider) : Prop := ∀ t ∈ p.tasks.tasks, t.isFinished = true

/-- How many moves a task has still to make, at most, if it takes a service down. -/
def ahead (p : Provider) (i : TaskId) : Nat :=
  (p.tasks.tasks[i]?).elim 0 fun t =>
    t.job.elim 0 fun job => t.distance (p.scene.service job.service)

/-- How many moves are still to be made, at most. -/
def distance (p : Provider) : Nat := ∑ i ∈ Finset.range p.tasks.tasks.size, p.ahead i

theorem ahead_eq (ht : p.tasks.tasks[i]? = some t) (hjob : t.job = some (.disable n)) :
    p.ahead i = t.distance (p.scene.service n) := by
  unfold ahead
  rw [ht, Option.elim_some, hjob]
  rfl

theorem ahead_ended (ht : p.tasks.tasks[i]? = some t) {ending : Ending}
    (hended : t.stage = .ended ending) : p.ahead i = 0 := by
  unfold ahead
  rw [ht, Option.elim_some]
  cases t.job with
  | none => rfl
  | some job =>
    show t.distance _ = 0
    unfold Task.distance
    rw [hended]

theorem Sinking.congr (h : q.Sinking k t n) {q' : Provider}
    (hservice : q'.scene.service n = q.scene.service n) : q'.Sinking k t n :=
  ⟨h.job, h.gates, hservice ▸ h.stage⟩

theorem AllFinished.ended (h : p.AllFinished) (ht : p.tasks.tasks[i]? = some t) :
    ∃ ending, t.stage = .ended ending := Task.isFinished_iff.mp (h t (Array.mem_of_getElem? ht))

/-- What a move of one of the tasks comes to. -/
theorem Sinks.moved (hs : p.Sinks q D) (h : q.Healthy) (hdone : p.AllFinished)
    {parts : Scheduler Job HookRun × Registry}
    (hmove : Scheduler.move Registry.workload i q.tasks q.registry = some parts) :
    ∃ t n stage, p.tasks.tasks.size ≤ i ∧ q.tasks.tasks[i]? = some t ∧ D n ∧
      q.Sinking p.tasks.tasks.size t n ∧ t.stage.isLive = true ∧
      (q.withParts parts).tasks.tasks = putStage q.tasks.tasks i stage ∧
      Task.distance ((q.withParts parts).scene.service n) { t with stage } <
        t.distance (q.scene.service n) ∧
      (stage = .ended .completed ∨ stage.isLive = true ∧
        stage.IsCalm ((q.withParts parts).scene.service n)) := by
  obtain ⟨s', r'⟩ := parts
  obtain ⟨t, _, ht, -, hgoes⟩ := (Scheduler.moves_of_move hmove).1.goes
  have hlive := hgoes.isLive.1
  -- the tasks from before have ended
  have hi : p.tasks.tasks.size ≤ i := by
    by_contra hlt
    obtain ⟨ending, hended⟩ := hdone.ended (hs.old i (Nat.lt_of_not_le hlt) ▸ ht)
    rw [hended] at hlive
    cases hlive
  obtain ⟨n, hD, hsinking⟩ := hs.new i t hi ht
  obtain ⟨hended, -⟩ | ⟨-, -, hcalm⟩ := hsinking.stage
  · rw [hended] at hlive
    cases hlive
  -- and those since wait for each other only
  have hgates : ∀ g later gate o, t.stage = .gated (g :: later) → q.tasks.tasks[g]? = some gate →
      gate.result? = some o → o = .completed := by
    intro g later gate o hstage hgate hresult
    have hg := h.staffed.behind i t _ ht hstage List.mem_cons_self
    obtain ⟨m, -, hgate'⟩ := hs.new g gate (hsinking.gates g hg) hgate
    rcases hgate'.stage with ⟨hended, -⟩ | ⟨hglive, -⟩
    · unfold Task.result? at hresult
      rw [hended] at hresult
      exact (Option.some.inj hresult).symm
    · rw [gate.result?_of_live hglive] at hresult
      cases hresult
  obtain ⟨stage, htasks, hless, hstage⟩ := Scheduler.move_calm hmove ht hsinking.job hs.isOpen hgates
    ((Stage.isCalm_outline _ _).mp hcalm)
  refine ⟨t, n, stage, hi, ht, hD, hsinking, hlive, htasks, ?_, ?_⟩
  · show Task.distance (r'.service n).outline _ < Task.distance (q.registry.service n).outline _
    rw [Task.distance_outline, Task.distance_outline]
    exact hless
  · exact hstage.imp_right (And.imp_right (Stage.isCalm_outline (r'.service n) stage).mpr)

/-- Where the task of a service that goes down has completed with a move, the service is down. -/
theorem Healthy.disabled_of_completed (h : q.Healthy) (ht : q.tasks.tasks[i]? = some t)
    (hjob : t.job = some (.disable n)) (hlive : t.stage.isLive = true)
    (hcompleted : (q.step (.move i)).tasks.tasks[i]? = some { t with stage := .ended .completed }) :
    ((q.step (.move i)).scene.service n).state = .disabled := by
  have hhappens := happens_step h.lawful (.move i)
  replace hcompleted : (q.step (.move i)).scene.task? i =
    some { t with stage := .ended .completed } := hcompleted
  generalize (q.step (.move i)).scene = S at hhappens hcompleted
  cases hhappens with
  | refl =>
    have hsame : t.stage = .ended .completed :=
      congrArg Task.stage (Option.some.inj (Eq.trans (Eq.symm ht) hcompleted))
    rw [hsame] at hlive
    cases hlive
  | single change =>
    obtain ⟨stage, ht', hends⟩ := h.lawful.orderly.finish h.present change ht (d := .down) hjob hlive
    obtain rfl : stage = .ended .completed :=
      congrArg Task.stage (Option.some.inj (ht'.symm.trans hcompleted))
    rcases hends with ⟨hlive', -⟩ | ⟨-, -, ending, hending, hhistory⟩
    · cases hlive'
    · obtain rfl := Stage.ended.inj hending
      exact (List.cons.inj hhistory).1

/-- Of two services only one is that of a task under way, if the other one has a task as well. -/
theorem Sinking.other (h : q.Healthy) {u : Task Job HookRun} {j : TaskId}
    (ht : q.tasks.tasks[i]? = some t) (hjob : t.job = some (.disable n))
    (hlive : t.stage.isLive = true) (hu : q.tasks.tasks[j]? = some u)
    (hsinking : q.Sinking k u m) (hne : j ≠ i) : m ≠ n := by
  rintro rfl
  obtain ⟨hstate, htransition⟩ := h.lawful.orderly.owned.held i t .down m ht hjob hlive
  rcases hsinking.stage with ⟨-, hdown⟩ | ⟨hulive, -⟩
  · rw [hdown] at hstate
    cases hstate
  · obtain ⟨-, htransition'⟩ := h.lawful.orderly.owned.held j u .down m hu hsinking.job hulive
    exact hne (Option.some.inj (htransition'.symm.trans htransition))

/-- Task `i` takes service `n` further down with a move, and does nothing else. -/
structure Descends (q q' : Provider) (i : TaskId) (n : Incarnation) (t : Task Job HookRun)
    (stage : Stage HookRun) : Prop where
  ledger : q'.registry.ledger = q.registry.ledger
  components : q'.registry.components = q.registry.components
  isShutdown : q'.tasks.isShutdown = q.tasks.isShutdown
  isAlive : q'.tasks.isAlive = q.tasks.isAlive
  task : q.tasks.tasks[i]? = some t
  job : t.job = some (.disable n)
  tasks : q'.tasks.tasks = putStage q.tasks.tasks i stage
  others : ∀ m, m ≠ n → q'.scene.service m = q.scene.service m
  nearer : Task.distance (q'.scene.service n) { t with stage } < t.distance (q.scene.service n)

theorem Descends.self (h : q.Descends q' i n t stage) :
    q'.tasks.tasks[i]? = some { t with stage } := by
  rw [h.tasks, getElem?_putStage, if_pos rfl, h.task]
  rfl

theorem Descends.other (h : q.Descends q' i n t stage) {j : TaskId} (hj : j ≠ i) :
    q'.tasks.tasks[j]? = q.tasks.tasks[j]? := by
  rw [h.tasks, getElem?_putStage, if_neg (Ne.symm hj)]

/-- Every move takes one of the services further down. -/
theorem Sinks.descends (hs : p.Sinks q D) (h : q.Healthy) (hdone : p.AllFinished)
    (hmove : q.tasks.CanMove Registry.workload q.registry i) :
    ∃ n t stage, p.tasks.tasks.size ≤ i ∧ D n ∧ t.stage.isLive = true ∧
      q.Descends (q.step (.move i)) i n t stage ∧
      (q.step (.move i)).Sinking p.tasks.tasks.size { t with stage } n := by
  obtain ⟨parts, hparts⟩ := Option.isSome_iff_exists.mp hmove
  have hstep : q.step (.move i) = q.withParts parts := by
    show (Scheduler.move Registry.workload i q.tasks q.registry).elim q q.withParts = _
    rw [hparts]
    rfl
  obtain ⟨t, n, stage, hi, ht, hD, hsinking, hlive, htasks, hless, hstage⟩ :=
    hs.moved h hdone hparts
  obtain ⟨hmoves, halive, hopen⟩ := Scheduler.moves_of_move hparts
  have hledger := hmoves.kept Registry.keeps_ledger
  rw [← hstep] at htasks hless hstage
  have htends : q.registry.Spares (q.step (.move i)).registry ∨
      q.registry.Tends n (q.step (.move i)).registry := by
    refine (toils_move h.lawful h.furnished i).tends.imp_right ?_
    rintro ⟨u, d, m, hu, hjob, -, htends⟩
    obtain rfl := Option.some.inj (hu.symm.trans ht)
    have hsame : d.job m = Direction.down.job n :=
      Option.some.inj (hjob.symm.trans hsinking.job)
    obtain ⟨-, rfl⟩ := Direction.job_inj.mp hsame
    exact htends
  have hothers : ∀ m, m ≠ n → (q.step (.move i)).service m = q.service m := by
    intro m hm
    rcases htends with hspares | htends
    · exact congrArg (fun services => (services[m]?).getD default) hspares.services
    · exact htends.others m hm
  have hdescends : q.Descends (q.step (.move i)) i n t stage :=
    { ledger := hstep ▸ hledger
      components := htends.elim (·.components) (·.components)
      isShutdown := hstep ▸ hopen
      isAlive := hstep ▸ halive
      task := ht
      job := hsinking.job
      tasks := htasks
      others := fun m hm => congrArg Service.outline (hothers m hm)
      nearer := hless }
  refine ⟨n, t, stage, hi, hD, hlive, hdescends, hsinking.job, hsinking.gates, ?_⟩
  rcases hstage with rfl | ⟨hlive', hcalm⟩
  · exact .inl ⟨rfl, h.disabled_of_completed ht hsinking.job hlive hdescends.self⟩
  · have howned := (h.lawful.after [.move i]).orderly.owned
    exact .inr ⟨hlive', (howned.held i _ .down n hdescends.self hsinking.job hlive').1, hcalm⟩

/-- Any other task goes on to take another service down. -/
theorem Sinks.apart (hs : p.Sinks q D) (h : q.Healthy) (hdescends : q.Descends q' i n t stage)
    (hlive : t.stage.isLive = true) {j : TaskId} {u : Task Job HookRun} (hj : j ≠ i)
    (hk : p.tasks.tasks.size ≤ j) (hu : q.tasks.tasks[j]? = some u) :
    ∃ m, D m ∧ q.Sinking p.tasks.tasks.size u m ∧ q'.scene.service m = q.scene.service m := by
  obtain ⟨m, hDm, hsinking⟩ := hs.new j u hk hu
  exact ⟨m, hDm, hsinking,
    hdescends.others m (Sinking.other h hdescends.task hdescends.job hlive hu hsinking hj)⟩

/-- A move brings the end nearer. -/
theorem Sinks.distance_lt (hs : p.Sinks q D) (h : q.Healthy) (hdone : p.AllFinished)
    (hdescends : q.Descends q' i n t stage) (hlive : t.stage.isLive = true) :
    q'.distance < q.distance := by
  have hsize : q'.tasks.tasks.size = q.tasks.tasks.size := by
    rw [hdescends.tasks]
    exact Array.size_modify ..
  have hself : q'.ahead i < q.ahead i := by
    rw [ahead_eq hdescends.task hdescends.job, ahead_eq hdescends.self hdescends.job]
    exact hdescends.nearer
  have hother : ∀ j, j ≠ i → q'.ahead j = q.ahead j := by
    intro j hj
    have htask := hdescends.other hj
    cases hu : q.tasks.tasks[j]? with
    | none =>
      unfold ahead
      rw [htask, hu, Option.elim_none, Option.elim_none]
    | some u =>
      by_cases hk : p.tasks.tasks.size ≤ j
      · obtain ⟨m, -, hsinking, hservice⟩ := hs.apart h hdescends hlive hj hk hu
        rw [ahead_eq hu hsinking.job, ahead_eq (htask.trans hu) hsinking.job, hservice]
      · obtain ⟨ending, hended⟩ := hdone.ended (hs.old j (Nat.lt_of_not_le hk) ▸ hu)
        rw [ahead_ended hu hended, ahead_ended (htask.trans hu) hended]
  unfold distance
  rw [hsize]
  refine Finset.sum_lt_sum (fun j _ => ?_) ⟨i, ?_, hself⟩
  · by_cases hj : j = i
    · exact hj ▸ hself.le
    · exact (hother j hj).le
  · exact Finset.mem_range.mpr (Array.getElem?_eq_some_iff.mp hdescends.task).1

/-- A move keeps what has been going on, and brings the end nearer. -/
theorem Sinks.move (hs : p.Sinks q D) (h : q.Healthy) (hdone : p.AllFinished)
    (hmove : q.tasks.CanMove Registry.workload q.registry i) :
    p.Sinks (q.step (.move i)) D ∧ (q.step (.move i)).distance < q.distance := by
  obtain ⟨n, t, stage, hi, hD, hlive, hdescends, hsinking⟩ := hs.descends h hdone hmove
  refine ⟨?_, hs.distance_lt h hdone hdescends hlive⟩
  generalize q.step (.move i) = q' at hdescends hsinking ⊢
  refine ⟨hdescends.ledger.trans hs.ledger, hdescends.components.trans hs.components,
    hdescends.isShutdown.trans hs.isOpen, hdescends.isAlive.trans hs.isAlive,
    fun j hj => ?_, fun j u hj hu => ?_, fun m hm => ?_, fun m hm => ?_⟩
  · rw [hdescends.other (Nat.ne_of_lt (Nat.lt_of_lt_of_le hj hi)), hs.old j hj]
  · by_cases heq : j = i
    · subst heq
      obtain rfl := Option.some.inj (hdescends.self.symm.trans hu)
      exact ⟨n, hD, hsinking⟩
    · rw [hdescends.other heq] at hu
      obtain ⟨m, hDm, hsinking', hservice⟩ := hs.apart h hdescends hlive heq hj hu
      exact ⟨m, hDm, hsinking'.congr hservice⟩
  · obtain ⟨j, u, hj, hu, hjob⟩ := hs.each m hm
    by_cases heq : j = i
    · subst heq
      obtain rfl := Option.some.inj (hu.symm.trans hdescends.task)
      exact ⟨j, _, hj, hdescends.self, hjob⟩
    · exact ⟨j, u, hj, (hdescends.other heq).trans hu, hjob⟩
  · have hne : m ≠ n := fun heq => hm (heq ▸ hD)
    rw [hdescends.others m hne, hs.frame m hm]

/-! ## Settling -/

theorem Sinks.pass (hs : p.Sinks q D) (moment : Nat) : p.Sinks (q.step (.pass moment)) D where
  ledger := hs.ledger
  components := hs.components
  isOpen := hs.isOpen
  isAlive := hs.isAlive
  old := hs.old
  new i t hi ht := by
    obtain ⟨n, hD, hsinking⟩ := hs.new i t hi ht
    exact ⟨n, hD, hsinking.congr rfl⟩
  each := hs.each
  frame := hs.frame

/-- Where no task can move and no hook is executing, all tasks have finished. -/
theorem Healthy.finished_of_quiescent (h : q.Healthy) (hquiet : q.Quiescent) : q.AllFinished := by
  intro t ht
  obtain ⟨i, hi⟩ := Array.mem_iff_getElem?.mp ht
  exact Task.isFinished_iff.mpr
    (hquiet.ended h.lawful.orderly.gated h.present h.staffed i t hi)

/-- As long as not all tasks have finished, one of them can move, after some time at least. -/
theorem Sinks.goes_on (hs : p.Sinks q D) (h : q.Healthy) (hdone : p.AllFinished)
    (hopen : ¬ q.AllFinished) :
    ∃ moment i, (q.tasks.passTo moment).CanMove Registry.workload q.registry i := by
  by_contra hnone
  have hstill : ∀ moment i, ¬ (q.tasks.passTo moment).CanMove Registry.workload q.registry i :=
    fun moment i hmove => hnone ⟨moment, i, hmove⟩
  have hpassed : (q.step (.pass 0)).Healthy := h.step (by simp)
  have hfinished : (q.step (.pass 0)).AllFinished → q.AllFinished := id
  refine hopen (hfinished (hpassed.finished_of_quiescent ⟨fun i _ => hstill 0 i, ?_⟩))
  intro t ht
  obtain ⟨i, hi⟩ := Array.mem_iff_getElem?.mp ht
  have hi : q.tasks.tasks[i]? = some t := hi
  by_contra hrunning
  rw [Bool.not_eq_false] at hrunning
  cases hstage : t.stage with
  | queued | gated | waiting | ended | external | dropped =>
    rw [hstage] at hrunning
    cases hrunning
  | running wake run =>
    -- it sleeps, and one day wakes
    by_cases hk : p.tasks.tasks.size ≤ i
    · obtain ⟨n, -, hsinking⟩ := hs.new i t hk hi
      rcases hsinking.stage with ⟨hended, -⟩ | ⟨-, -, hcalm⟩
      · rw [hstage] at hended
        cases hended
      · rw [hstage] at hcalm
        obtain ⟨ms, rfl⟩ := Option.isSome_iff_exists.mp hcalm.1
        exact hstill ms i (Scheduler.canMove_of_asleep _ _ hi hstage)
    · obtain ⟨ending, hended⟩ := hdone.ended (hs.old i (Nat.lt_of_not_le hk) ▸ hi)
      rw [hstage] at hended
      cases hended

/-- In the end all that was to go down is down. -/
theorem Sinks.down (hs : p.Sinks q D) (hfinished : q.AllFinished) (hD : D n) :
    (q.scene.service n).state = .disabled := by
  obtain ⟨i, t, hi, ht, hjob⟩ := hs.each n hD
  obtain ⟨m, -, hsinking⟩ := hs.new i t hi ht
  obtain rfl : n = m := Job.disable.inj (Option.some.inj (hjob.symm.trans hsinking.job))
  obtain ⟨ending, hended⟩ := hfinished.ended ht
  rcases hsinking.stage with ⟨-, hdown⟩ | ⟨hlive, -⟩
  · exact hdown
  · rw [hended] at hlive
    cases hlive

end Provider

/-- All that holds of every provider after a run without a teardown. -/
theorem Setup.healthy_after (setup : Setup) {events : List Event}
    (hevents : ∀ e ∈ events, e ≠ .stop) : (setup.provider.after events).Healthy where
  lawful := setup.lawful_after events
  present := setup.present_after hevents
  staffed := setup.staffed_after hevents
  furnished := setup.furnished_after events

end ServiceLifecycle

import Mathlib.Logic.Relation
import ServiceLifecycle.Proofs.Callbacks
import ServiceLifecycle.Task.Script

/-!
# Outcomes do not depend on the schedule

Tasks are submitted one after the other, each gated on earlier ones, and with bodies that end.
In what order they move, how many workers there are and how time passes is left open. It makes
no difference to how they end: that can be read off the plan.

* **plans** — what there is to do, and the outcome of each task by recursion over its gates
  (`Agenda.outcome`, `Agenda.outcome_eq`);
* **events** — submissions, moves and the passing of time, in any order (`Agenda.after`);
* **stands** — where each task stands is in line with the plan (`Agenda.Follows`), and every
  event keeps it so (`Agenda.Follows.step`);
* **outcomes** — bodies start behind completed gates, and when nothing can move any more, every
  task has finished as planned (`Agenda.outcome_after`).
-/

namespace ServiceLifecycle

open Relation

/-! ## Plans -/

/-- How a script ends that is left to itself, unless it hangs. -/
def Script.ending? : Script → Option Ending
  | [] => some .completed
  | .delay _ :: rest => ending? rest
  | .fail message :: _ => some (.failed message)
  | .panic payload :: _ => some (.panicked payload)
  | .hang :: _ => none

theorem Script.isCalm_workload : Script.workload.IsCalm := fun _ _ _ => rfl

/-- A task to be submitted, with a body that ends. Its owner, if it has one, does not panic when
told that the body did not run to its end: this is a plan of gates and bodies only. -/
structure Plan where
  name : String
  /-- Submitted before it. -/
  gates : OrderedSet TaskId
  body : Script
  hasCallback : Bool
  ends : body.ending?.isSome = true

/-- How the body ends, if it starts. -/
def Plan.ending (plan : Plan) : Ending := plan.body.ending?.get plan.ends

/-- Tasks to be submitted one after the other, each gated on earlier ones. -/
structure Agenda where
  plans : List Plan
  earlier : ∀ (i : TaskId) (h : i < plans.length), ∀ g ∈ plans[i].gates.toList, g < i

namespace Agenda

theorem gate_lt (A : Agenda) {i g : TaskId} {plan : Plan} (h : A.plans[i]? = some plan)
    (hg : g ∈ plan.gates.toList) : g < i := by
  obtain ⟨hlt, rfl⟩ := List.getElem?_eq_some_iff.mp h
  exact A.earlier i hlt g hg

/-- The name of a task. -/
def name (A : Agenda) (i : TaskId) : String := (A.plans[i]?.map Plan.name).getD ""

/-- How a task will end: it is aborted because of the first of its gates that will not complete,
or else its body runs and ends as it does. -/
def outcome (A : Agenda) (i : TaskId) : Outcome :=
  match _h : A.plans[i]? with
  | none => .completed
  | some plan =>
    match plan.gates.toList.attach.find? fun g => !(A.outcome g.1).isCompleted with
    | some g => .aborted (Scheduler.gateReason (A.name g.1) (A.outcome g.1))
    | none => plan.ending.outcome
termination_by i
decreasing_by all_goals exact A.gate_lt _h g.2

theorem outcome_eq (A : Agenda) {i : TaskId} {plan : Plan} (h : A.plans[i]? = some plan) :
    A.outcome i = match plan.gates.toList.find? fun g => !(A.outcome g).isCompleted with
      | some g => .aborted (Scheduler.gateReason (A.name g) (A.outcome g))
      | none => plan.ending.outcome := by
  have hfind : plan.gates.toList.find? (fun g => !(A.outcome g).isCompleted) =
      (plan.gates.toList.attach.find? fun g => !(A.outcome g.1).isCompleted).map Subtype.val := by
    conv_lhs => rw [← plan.gates.toList.attach_map_subtype_val, List.find?_map]
    rfl
  rw [hfind, outcome]
  split
  · next hnone =>
    rw [h] at hnone
    cases hnone
  · next plan' hplan =>
    obtain rfl : plan = plan' := Option.some.inj (h.symm.trans hplan)
    cases plan.gates.toList.attach.find? fun g => !(A.outcome g.1).isCompleted <;> rfl

/-- Behind gates that complete a body runs and ends as it does. -/
theorem outcome_of_completed (A : Agenda) {i : TaskId} {plan : Plan} (h : A.plans[i]? = some plan)
    (hgates : ∀ g ∈ plan.gates.toList, A.outcome g = .completed) :
    A.outcome i = plan.ending.outcome := by
  have hnone : plan.gates.toList.find? (fun g => !(A.outcome g).isCompleted) = none := by
    rw [List.find?_eq_none]
    intro g hg
    simp [hgates g hg, Outcome.isCompleted]
  rw [A.outcome_eq h, hnone]

/-- The first gate that does not complete aborts the task. -/
theorem outcome_of_blocked (A : Agenda) {i g : TaskId} {plan : Plan} {passed later : List TaskId}
    (h : A.plans[i]? = some plan) (hsplit : plan.gates.toList = passed ++ g :: later)
    (hpassed : ∀ x ∈ passed, A.outcome x = .completed) (hg : A.outcome g ≠ .completed) :
    A.outcome i = .aborted (Scheduler.gateReason (A.name g) (A.outcome g)) := by
  have hfind : plan.gates.toList.find? (fun g => !(A.outcome g).isCompleted) = some g := by
    rw [hsplit, List.find?_append, List.find?_eq_none.mpr]
    · cases hcase : A.outcome g with
      | completed => exact absurd hcase hg
      | failed | aborted => simp [hcase, Outcome.isCompleted]
    · intro x hx
      simp [hpassed x hx, Outcome.isCompleted]
  rw [A.outcome_eq h, hfind]

end Agenda

/-! ## Scripts -/

namespace Script

/-- A turn of a script ends as the script does, or leaves over what ends as the script does. -/
theorem ending?_play (script : Script) :
    (∃ ending, (play script).ending? = some ending ∧ script.ending? = some ending) ∨
      (∃ ms rest, play script = .sleeps (some ms) rest ∧ rest.ending? = script.ending?) ∨
      script.ending? = none := by
  fun_induction play script with
  | case1 => exact .inl ⟨_, rfl, rfl⟩
  | case2 rest ih => exact ih
  | case3 rest _ ms => exact .inr (.inl ⟨_, _, rfl, rfl⟩)
  | case4 message rest | case5 payload rest => exact .inl ⟨_, rfl, rfl⟩
  | case6 rest => exact .inr (.inr rfl)

end Script

/-! ## Events -/

/-- What may happen while an agenda is run. -/
inductive Agenda.Event where
  /-- The next task is submitted, if there is one. -/
  | submit
  /-- A task makes its next move, if it can make one. -/
  | move (i : TaskId)
  /-- Time passes, to the given moment if it is a later one. -/
  | pass (moment : Nat)

/-- What an event comes to. -/
def Agenda.step (A : Agenda) (s : Scheduler Script Script) : Event → Scheduler Script Script
  | .submit =>
      match A.plans[s.tasks.size]? with
      | some plan => (s.submit plan.name plan.gates plan.body plan.hasCallback).2
      | none => s
  | .move i => (Scheduler.move Script.workload i s ()).elim s Prod.fst
  | .pass moment => s.passTo moment

/-- What several events come to, one after the other, from when nothing has been submitted. -/
def Agenda.after (A : Agenda) (name : String) (workers : Nat) (events : List Event) :
    Scheduler Script Script := events.foldl A.step (.new name workers)

/-- Whether the body of a task has started, be it that it has ended since. -/
def Stage.hasStarted {κ : Type} : Stage κ → Bool
  | .running _ _ => true
  | .ended ending => ending.isOfBody
  | .queued | .gated _ | .waiting | .external _ | .dropped _ => false

/-- No task can be submitted any more, and none can move, however much time passes. -/
structure Agenda.Spent (A : Agenda) (s : Scheduler Script Script) : Prop where
  submitted : A.plans.length ≤ s.tasks.size
  still : ∀ moment i, ¬ (s.passTo moment).CanMove Script.workload () i

/-! ## Stands -/

namespace Agenda

variable {A : Agenda} {s s' : Scheduler Script Script} {i g : TaskId} {t : Task Script Script}
  {plan : Plan} {stage : Stage Script}

/-- All of these have completed. -/
def Done (s : Scheduler Script Script) (gates : List TaskId) : Prop :=
  ∀ g ∈ gates, s.result? g = some .completed

/-- Where task `i` may stand if all goes as planned. -/
inductive Stands (A : Agenda) (s : Scheduler Script Script) (i : TaskId) (plan : Plan) :
    Stage Script → Prop
  | queued : Stands A s i plan .queued
  | gated {passed remaining : List TaskId} : plan.gates.toList = passed ++ remaining →
      Done s passed → Stands A s i plan (.gated remaining)
  | waiting : Done s plan.gates.toList → Stands A s i plan .waiting
  | running {rest : Script} (wake : Nat) : Done s plan.gates.toList →
      rest.ending? = some plan.ending → Stands A s i plan (.running (some wake) rest)
  | runs {ending : Ending} : Done s plan.gates.toList → ending.outcome = A.outcome i →
      Stands A s i plan (.ended ending)
  | blocked {reason : String} : .aborted reason = A.outcome i →
      Stands A s i plan (.ended (.aborted reason))

/-- Each task is the next one on the agenda. -/
structure Follows (A : Agenda) (s : Scheduler Script Script) : Prop where
  isAlive : s.isAlive = true
  isOpen : s.isShutdown = false
  staffed : s.Staffed
  planned : ∀ i t, s.tasks[i]? = some t → ∃ plan, A.plans[i]? = some plan ∧ t.name = plan.name ∧
    t.gates = plan.gates.toList ∧ t.job = some plan.body ∧ Stands A s i plan t.stage

theorem follows_new (A : Agenda) (name : String) (configured : Nat) :
    A.Follows (.new name configured) where
  isAlive := rfl
  isOpen := rfl
  staffed := Scheduler.staffed_new name configured
  planned := by simp [Scheduler.new]

/-- As long as what has completed stays completed, tasks stand where they may. -/
theorem Stands.mono (h : Stands A s i plan stage)
    (hkeep : ∀ g o, s.result? g = some o → s'.result? g = some o) : Stands A s' i plan stage := by
  have hdone : ∀ {gates}, Done s gates → Done s' gates := fun h g hg => hkeep g _ (h g hg)
  cases h with
  | queued => exact .queued
  | gated hsplit hpassed => exact .gated hsplit (hdone hpassed)
  | waiting hgates => exact .waiting (hdone hgates)
  | running wake hgates hrest => exact .running wake (hdone hgates) hrest
  | runs hgates houtcome => exact .runs (hdone hgates) houtcome
  | blocked houtcome => exact .blocked houtcome

/-- What has ended has ended as planned. -/
theorem Follows.outcome_of_result (h : A.Follows s) {o : Outcome} (hresult : s.result? g = some o) :
    A.outcome g = o := by
  obtain ⟨t, ht, hresult⟩ := Option.bind_eq_some_iff.mp hresult
  obtain ⟨plan, -, -, -, -, hstands⟩ := h.planned g t ht
  unfold Task.result? at hresult
  generalize hstage : t.stage = stage at hresult hstands
  cases hstands with
  | queued | gated | waiting | running => cases hresult
  | runs _ houtcome => exact houtcome.symm.trans (Option.some.inj hresult)
  | blocked houtcome => exact houtcome.symm.trans (Option.some.inj hresult)

theorem Follows.outcome_of_done (h : A.Follows s) {gates : List TaskId} (hdone : Done s gates) :
    ∀ g ∈ gates, A.outcome g = .completed := fun g hg => h.outcome_of_result (hdone g hg)

/-- The body of a task takes a turn behind gates that have completed. -/
theorem Follows.turn (h : A.Follows s) (ht : s.tasks[i]? = some t) {turn : Turn Script}
    (hturn : t.turn? Script.workload () = some (turn, ())) :
    ∃ plan, A.plans[i]? = some plan ∧ Done s plan.gates.toList ∧
      (turn.ending? = some plan.ending ∨
        ∃ ms rest, turn = .sleeps (some ms) rest ∧ rest.ending? = some plan.ending) := by
  obtain ⟨plan, hplan, -, -, hjob, hstands⟩ := h.planned i t ht
  have hends : plan.body.ending? = some plan.ending := (Option.some_get _).symm
  -- what is left of the body ends as the body does
  have hplay : ∀ script : Script, script.ending? = some plan.ending → turn = script.play →
      turn.ending? = some plan.ending ∨
        ∃ ms rest, turn = .sleeps (some ms) rest ∧ rest.ending? = some plan.ending := by
    rintro script hscript rfl
    rcases script.ending?_play with ⟨ending, hturn, hending⟩ | ⟨ms, rest, hsleeps, hrest⟩ | hnone
    · exact .inl (hturn.trans (hending.symm.trans hscript))
    · exact .inr ⟨ms, rest, hsleeps, hrest.trans hscript⟩
    · rw [hscript] at hnone
      cases hnone
  unfold Task.turn? at hturn
  refine ⟨plan, hplan, ?_⟩
  split at hturn
  · next job hstage hjob' =>
    rw [hstage] at hstands
    rw [hjob'] at hjob
    obtain rfl := Option.some.inj hjob
    cases hstands with
    | waiting hdone => exact ⟨hdone, hplay _ hends (congrArg Prod.fst (Option.some.inj hturn)).symm⟩
  · next wake rest hstage =>
    rw [hstage] at hstands
    cases hstands with
    | running _ hdone hrest =>
      exact ⟨hdone, hplay _ hrest (congrArg Prod.fst (Option.some.inj hturn)).symm⟩
  · cases hturn

/-- A task may be put where it may stand. -/
theorem Follows.stand (h : A.Follows s) (hplan : A.plans[i]? = some plan)
    (htasks : s'.tasks = putStage s.tasks i stage) (hisAlive : s'.isAlive = true)
    (hisOpen : s'.isShutdown = false) (hstaffed : s'.Staffed)
    (hkeep : ∀ g o, s.result? g = some o → s'.result? g = some o)
    (hstands : Stands A s i plan stage) : A.Follows s' where
  isAlive := hisAlive
  isOpen := hisOpen
  staffed := hstaffed
  planned := by
    intro j u hu
    rw [htasks, getElem?_putStage] at hu
    split at hu
    · next heq =>
      subst heq
      obtain ⟨t, ht, rfl⟩ := Option.map_eq_some_iff.mp hu
      obtain ⟨plan', hplan', hname, hgates, hjob, -⟩ := h.planned i t ht
      obtain rfl : plan = plan' := Option.some.inj (hplan.symm.trans hplan')
      exact ⟨plan, hplan, hname, hgates, hjob, hstands.mono hkeep⟩
    · obtain ⟨plan', hplan', hname, hgates, hjob, hold⟩ := h.planned j u hu
      exact ⟨plan', hplan', hname, hgates, hjob, hold.mono hkeep⟩

/-- Where a task may be put that makes a move. -/
theorem Follows.stands_of_move (h : A.Follows s)
    (hmove : Scheduler.move Script.workload i s () = some (s', ())) :
    ∃ plan stage, A.plans[i]? = some plan ∧ s'.tasks = putStage s.tasks i stage ∧
      Stands A s i plan stage := by
  generalize htasks : s'.tasks = tasks
  have hmoves := (Scheduler.moves_of_move hmove).1
  rw [htasks] at hmoves
  cases hmoves with
  | enters ht hstage =>
    obtain ⟨plan, hplan, -, hgates, -⟩ := h.planned i _ ht
    exact ⟨plan, _, hplan, rfl, .gated (hgates.symm.trans (List.nil_append _).symm)
      fun _ hg => nomatch hg⟩
  | @passes t g later gate ht hstage hgate hresult =>
    obtain ⟨plan, hplan, -, -, -, hstands⟩ := h.planned i t ht
    rw [hstage] at hstands
    cases hstands with
    | gated hsplit hpassed =>
      refine ⟨plan, _, hplan, rfl, .gated (hsplit.trans (List.append_cons ..)) fun x hx => ?_⟩
      rcases List.mem_append.mp hx with hx | hx
      · exact hpassed x hx
      · obtain rfl := List.mem_singleton.mp hx
        unfold Scheduler.result?
        rw [hgate]
        exact hresult
  | lines ht hstage =>
    obtain ⟨plan, hplan, -, -, -, hstands⟩ := h.planned i _ ht
    rw [hstage] at hstands
    cases hstands with
    | gated hsplit hpassed =>
      rw [List.append_nil] at hsplit
      exact ⟨plan, _, hplan, rfl, .waiting (hsplit ▸ hpassed)⟩
  | @gateFails t g later gate o ending env' ht hstage hgate hresult hfails hcloses =>
    obtain rfl := (hcloses.calm Script.isCalm_workload).1
    obtain ⟨plan, hplan, -, -, -, hstands⟩ := h.planned i t ht
    obtain ⟨plan', hplan', hname, -⟩ := h.planned g gate hgate
    rw [hstage] at hstands
    cases hstands with
    | gated hsplit hpassed =>
      have hg : A.outcome g = o := h.outcome_of_result (by
        unfold Scheduler.result?
        rw [hgate]
        exact hresult)
      have hblocked := A.outcome_of_blocked hplan hsplit (h.outcome_of_done hpassed)
        (by rw [hg]; exact hfails)
      have hgname : A.name g = gate.name := by
        unfold name
        rw [hplan', hname]
        rfl
      rw [hg, hgname] at hblocked
      exact ⟨plan, _, hplan, rfl, .blocked hblocked.symm⟩
  | refused ht hstage hshut =>
    rw [h.isOpen] at hshut
    cases hshut
  | @sleeps t time wake rest env' ht hturn =>
    obtain ⟨plan, hplan, hdone, hends | ⟨ms, rest', hsleeps, hrest⟩⟩ := h.turn ht hturn
    · cases hends
    · cases hsleeps
      have hwake := Scheduler.wake_of_move hmove ht h.isOpen hturn
      exact ⟨plan, _, hplan, htasks.symm.trans hwake, .running _ hdone hrest⟩
  | @ends t turn _ ending env' env'' ht hturn hending hopen hcloses =>
    obtain rfl := (hcloses.calm Script.isCalm_workload).1
    obtain ⟨plan, hplan, hdone, hends | ⟨ms, rest, rfl, -⟩⟩ := h.turn ht hturn
    · obtain rfl : ending = plan.ending := Option.some.inj (hending.symm.trans hends)
      exact ⟨plan, _, hplan, rfl,
        .runs hdone (A.outcome_of_completed hplan (h.outcome_of_done hdone)).symm⟩
    · cases hending

/-- Every event goes as planned. -/
theorem Follows.step (h : A.Follows s) (e : Event) : A.Follows (A.step s e) := by
  cases e with
  | submit =>
    unfold Agenda.step
    dsimp only
    split
    swap
    · exact h
    next plan hplan =>
    refine ⟨h.isAlive, h.isOpen, h.staffed.submit .., fun i t ht => ?_⟩
    have hkeep : ∀ g o, s.result? g = some o →
        (s.submit plan.name plan.gates plan.body plan.hasCallback).2.result? g = some o :=
      fun g o hresult => Scheduler.result?_submit _ _ _ _ hresult
    replace ht : (s.tasks.push _)[i]? = some t := ht
    rw [Array.getElem?_push, if_pos h.isAlive] at ht
    split at ht
    · next heq =>
      subst heq
      obtain rfl := Option.some.inj ht
      exact ⟨plan, hplan, rfl, rfl, rfl, .queued⟩
    · obtain ⟨plan', hplan', hname, hgates, hjob, hold⟩ := h.planned i t ht
      exact ⟨plan', hplan', hname, hgates, hjob, hold.mono hkeep⟩
  | move i =>
    show A.Follows ((Scheduler.move Script.workload i s ()).elim s Prod.fst)
    cases hmove : Scheduler.move Script.workload i s () with
    | none => exact h
    | some q =>
      obtain ⟨-, halive, hshut⟩ := Scheduler.moves_of_move hmove
      obtain ⟨plan, stage, hplan, htasks, hstands⟩ := h.stands_of_move hmove
      exact h.stand hplan htasks (halive.trans h.isAlive) (hshut.trans h.isOpen)
        (h.staffed.move hmove) (fun g o hresult => Scheduler.result?_of_move hmove hresult) hstands
  | pass moment =>
    refine ⟨h.isAlive, h.isOpen, h.staffed.passTo moment, fun i t ht => ?_⟩
    obtain ⟨plan, hplan, hname, hgates, hjob, hold⟩ := h.planned i t ht
    exact ⟨plan, hplan, hname, hgates, hjob, hold.mono fun _ _ hresult => hresult⟩

/-- All goes as planned, whatever happens. -/
theorem follows_after (A : Agenda) (name : String) (workers : Nat) (events : List Event) :
    A.Follows (A.after name workers events) :=
  List.foldlRecOn (motive := A.Follows) events A.step (A.follows_new name workers)
    fun _ h e _ => h.step e

/-! ## Outcomes -/

/-- When nothing can move any more, however much time passes, everything has ended. -/
theorem Follows.ended_of_spent (h : A.Follows s) (hspent : A.Spent s) :
    ∀ (i : TaskId) t, s.tasks[i]? = some t → ∃ ending, t.stage = .ended ending := by
  have hlive : ∀ (i : TaskId) t, s.tasks[i]? = some t →
      t.stage.isLive = true ∨ ∃ ending, t.stage = .ended ending := by
    intro i t ht
    obtain ⟨plan, -, -, -, -, hstands⟩ := h.planned i t ht
    generalize t.stage = stage at hstands
    cases hstands with
    | queued | gated | waiting | running => exact .inl rfl
    | runs | blocked => exact .inr ⟨_, rfl⟩
  have hjobs : ∀ (i : TaskId) t, s.tasks[i]? = some t → ∃ job, t.job = some job := by
    intro i t ht
    obtain ⟨plan, -, -, -, hjob, -⟩ := h.planned i t ht
    exact ⟨_, hjob⟩
  have hgates : ∀ (i : TaskId) t, s.tasks[i]? = some t → ∀ g ∈ t.gates, g < i := by
    intro i t ht g hg
    obtain ⟨plan, hplan, -, hgates, -⟩ := h.planned i t ht
    exact A.gate_lt hplan (hgates ▸ hg)
  have hidle : ∀ t ∈ s.tasks, t.stage.isRunning = false := by
    intro t ht
    obtain ⟨i, hi⟩ := Array.mem_iff_getElem?.mp ht
    obtain ⟨plan, -, -, -, -, hstands⟩ := h.planned i t hi
    generalize hstage : t.stage = stage at hstands
    cases hstands with
    | queued | gated | waiting | runs | blocked => rfl
    | running wake =>
      exact absurd (Scheduler.canMove_of_asleep Script.workload () hi hstage) (hspent.still wake i)
  have hstill : ∀ i < s.tasks.size, ¬ s.CanMove Script.workload () i := by
    intro i _
    have hnow : s.passTo 0 = s := by
      unfold Scheduler.passTo
      rw [Nat.max_zero]
    exact hnow ▸ hspent.still 0 i
  exact h.staffed.all_ended hlive hjobs hgates hstill hidle

theorem Stands.done_of_started (h : Stands A s i plan stage) (hstarted : stage.hasStarted = true) :
    Done s plan.gates.toList := by
  cases h with
  | running _ hdone | runs hdone => exact hdone
  | queued | gated | waiting | blocked => cases hstarted

/-- What has started by the end of an event had completed gates before it. -/
theorem Follows.done_of_started (h : A.Follows s) (e : Event) (hplan : A.plans[i]? = some plan)
    (ht : (A.step s e).tasks[i]? = some t) (hstarted : t.stage.hasStarted = true) :
    Done s plan.gates.toList := by
  -- a task that has started before
  have hbefore : s.tasks[i]? = some t → Done s plan.gates.toList := by
    intro hold
    obtain ⟨plan', hplan', -, -, -, hstands⟩ := h.planned i t hold
    obtain rfl : plan = plan' := Option.some.inj (hplan.symm.trans hplan')
    exact hstands.done_of_started hstarted
  cases e with
  | submit =>
    unfold Agenda.step at ht
    dsimp only at ht
    split at ht
    · replace ht : (s.tasks.push _)[i]? = some t := ht
      rw [Array.getElem?_push, if_pos h.isAlive] at ht
      split at ht
      · obtain rfl := Option.some.inj ht
        cases hstarted
      · exact hbefore ht
    · exact hbefore ht
  | move j =>
    replace ht : ((Scheduler.move Script.workload j s ()).elim s Prod.fst).tasks[i]? = some t := ht
    cases hmove : Scheduler.move Script.workload j s () with
    | none =>
      rw [hmove] at ht
      exact hbefore ht
    | some q =>
      rw [hmove] at ht
      obtain ⟨plan', stage, hplan', htasks, hstands⟩ := h.stands_of_move hmove
      replace ht : q.1.tasks[i]? = some t := ht
      rw [htasks, getElem?_putStage] at ht
      split at ht
      · next heq =>
        subst heq
        obtain rfl : plan = plan' := Option.some.inj (hplan.symm.trans hplan')
        obtain ⟨u, -, rfl⟩ := Option.map_eq_some_iff.mp ht
        exact hstands.done_of_started hstarted
      · exact hbefore ht
  | pass => exact hbefore ht

/-- Where everything has finished, nothing can move any more. -/
theorem spent_of_finished (hsubmitted : A.plans.length ≤ s.tasks.size)
    (hfinished : ∀ t ∈ s.tasks, t.isFinished = true) : A.Spent s where
  submitted := hsubmitted
  still := by
    intro moment i hmove
    obtain ⟨q, hmove⟩ := Option.isSome_iff_exists.mp hmove
    obtain ⟨t, stage, ht, hlive, -⟩ := Scheduler.puts_of_move hmove
    rw [Task.isLive_of_isFinished (hfinished t (Array.mem_of_getElem? ht))] at hlive
    cases hlive

/-- Whatever the order in which tasks are submitted and move, whenever time passes and however
many workers there are, no body starts before all gates of its task have completed; and when
nothing can move any more, every task has finished as planned. -/
theorem outcome_after (A : Agenda) (name : String) (workers : Nat) (events : List Event) :
    let s := A.after name workers events
    (∀ (e : Event) (i : TaskId) (plan : Plan) (t : Task Script Script), A.plans[i]? = some plan →
      (A.step s e).tasks[i]? = some t → t.stage.hasStarted = true →
      ∀ g ∈ plan.gates.toList, ∃ gate,
        s.tasks[g]? = some gate ∧ gate.status = .finished .completed) ∧
    (A.Spent s → ∀ (i : TaskId) (plan : Plan), A.plans[i]? = some plan →
      ∃ t, s.tasks[i]? = some t ∧ t.status = .finished (A.outcome i)) := by
  intro s
  have hfollows : A.Follows s := A.follows_after name workers events
  constructor
  · intro e i plan t hplan ht hstarted g hg
    have hdone := hfollows.done_of_started e hplan ht hstarted g hg
    obtain ⟨gate, hgate, hresult⟩ := Option.bind_eq_some_iff.mp hdone
    refine ⟨gate, hgate, ?_⟩
    cases hstage : gate.stage <;> simp_all [Task.result?, Task.status]
  · intro hspent i plan hplan
    have hlt : i < s.tasks.size :=
      Nat.lt_of_lt_of_le (List.getElem?_eq_some_iff.mp hplan).1 hspent.submitted
    have ht := Array.getElem?_eq_getElem hlt
    obtain ⟨ending, hended⟩ := hfollows.ended_of_spent hspent i _ ht
    have houtcome : A.outcome i = ending.outcome := hfollows.outcome_of_result (by
      unfold Scheduler.result?
      rw [ht]
      simp [Task.result?, hended])
    refine ⟨_, ht, ?_⟩
    unfold Task.status
    rw [hended, houtcome]

/-- Two tasks succeed, one late, one fails and one panics; two more wait for them. -/
def mixed : Agenda where
  plans :=
    [{ name := "late", gates := .empty, body := [.delay 5], hasCallback := false, ends := rfl },
     { name := "bad", gates := .empty, body := [.fail "no"], hasCallback := true, ends := rfl },
     { name := "mad", gates := .ofList [0], body := [.panic (some "oh")], hasCallback := true
       ends := rfl },
     { name := "between", gates := .ofList [0, 2, 1], body := [], hasCallback := true, ends := rfl },
     { name := "last", gates := .ofList [3], body := [], hasCallback := false, ends := rfl }]
  earlier := by decide

/-- With a single worker, the late one is under way while others end. -/
def mixedRun : List Event :=
  List.replicate 5 .submit ++ (List.replicate 5 ((List.range 5).map .move)).flatten ++
    .pass 5 :: (List.replicate 7 ((List.range 5).map .move)).flatten

theorem outcome_after_mixed :
    let s := mixed.after "main" 0 mixedRun
    mixed.Spent s ∧ (∃ gate, s.tasks[0]? = some gate ∧ gate.status = .finished .completed) ∧
    (∃ t, s.tasks[4]? = some t ∧ t.status = .finished (mixed.outcome 4)) ∧
    mixed.outcome 4 =
      .aborted "gate between (#) aborted: gate mad (#) failed: task panicked: oh" := by
  have hspent : mixed.Spent (mixed.after "main" 0 mixedRun) :=
    spent_of_finished (by decide +kernel) (by decide +kernel)
  have hstarted : ((mixed.step (mixed.after "main" 0 mixedRun) (.pass 9)).tasks[2]?.any
      fun t => t.stage.hasStarted) = true := by decide +kernel
  obtain ⟨t, ht, hstarted⟩ := (Option.any_eq_true _ _).mp hstarted
  have houtcome := outcome_after mixed "main" 0 mixedRun
  exact ⟨hspent, houtcome.1 (.pass 9) 2 _ t rfl ht hstarted 0 (by decide),
    houtcome.2 hspent 4 _ rfl, by decide +kernel⟩

end Agenda

end ServiceLifecycle

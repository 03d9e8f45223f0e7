import ServiceLifecycle.Proofs.Courses
import ServiceLifecycle.Proofs.Endings
import ServiceLifecycle.Proofs.Intake

/-!
# Task and service tell the same story

A task says how it ended, and its service says in what state it is and what went wrong last. They
are written by different hands at different points, and still they never contradict each other:
from the moment when a task has ended until its service is claimed again, state, fault and calls
are those of one story, which is also that of the task.

* **telling** — what a claim has come to, as its task and its service have it (`Scene.Tells`),
  and that every change keeps them in agreement (`Scene.Tells.step`);
* **claims** — a request that claims a service (`Scene.agrees_of_requests`);
* **causes** — a task ends at a move of its own, for one of four reasons (`Provider.Closes`);
* **recounts** — all of it, from any claim until the next one (`Setup.recounts_after`).
-/

namespace ServiceLifecycle

open Relation

/-- The calls of the hooks and their returns, the latest first. -/
def Service.callLog (s : Service) : List JournalEntry := s.journal.filter JournalEntry.isCall

namespace Scene

variable {S S' T : Scene} {cause : Cause} {i : TaskId} {t : Task Job HookRun} {n : Incarnation}
  {d : Direction} {s : Service}

/-! ## Telling -/

/-- What has come of service `n` since it was claimed, when it was as `s`, agrees with what has
come of the task. -/
inductive Tells (S : Scene) (d : Direction) (n : Incarnation) (s : Service)
    (t : Task Job HookRun) : Prop
  | underway {calls : List JournalEntry} : Course d n t.stage calls →
      (S.service n).history = d.via :: s.history → (S.service n).journal = calls ++ s.journal →
      (S.service n).fault = none → Tells S d n s t
  | ended {calls : List JournalEntry} {ending : Ending} {state : ServiceState} :
      t.stage = .ended ending → Story S.cleansUp d calls ending state (S.service n).fault →
      (S.service n).history = state :: d.via :: s.history →
      (S.service n).journal = calls ++ s.journal → Tells S d n s t

/-- The task and the service still agree if neither comes any further. -/
theorem Tells.rest (h : Tells S d n s t) (hrests : Rests n S S')
    (hcleans : S'.cleansUp = S.cleansUp) : Tells S' d n s t := by
  have hpast : ∀ {state : ServiceState} {before : List ServiceState},
      (S.service n).history = state :: before → before ≠ [] → (S.service n).past ≠ [] := by
    intro state before hhistory hne heq
    exact hne ((List.cons.inj hhistory).2.symm.trans heq)
  cases h with
  | underway hcourse hhistory hjournal hfault =>
    exact .underway hcourse (hrests.history.trans hhistory) (hrests.journal.trans hjournal)
      ((hrests.fault (hpast hhistory (List.cons_ne_nil _ _))).trans hfault)
  | ended hstage hstory hhistory hjournal =>
    refine .ended hstage ?_ (hrests.history.trans hhistory) (hrests.journal.trans hjournal)
    rw [hcleans, hrests.fault (hpast hhistory (List.cons_ne_nil _ _))]
    exact hstory

/-- A change keeps a task that is under way in agreement with its service. -/
theorem Tells.goes (h : Tells S d n s t) (horderly : S.Orderly) (hpresent : S.Present)
    (change : Change S cause S') (ht : S.task? i = some t) (hjob : t.job = some (d.job n))
    (hlive : t.stage.isLive = true) :
    ∃ stage, S'.task? i = some { t with stage } ∧ Tells S' d n s { t with stage } := by
  have hcleans := cleansUp_of_change change
  cases h with
  | ended hstage =>
    rw [hstage] at hlive
    cases hlive
  | underway hcourse hhistory hjournal hfault =>
    by_cases hcause : cause = .task i
    · -- the task itself takes a step
      subst hcause
      cases proceeds hpresent change ht hjob hfault hcourse with
      | goes ht' hcourse' hjournal' hhistory' hfault' =>
        exact ⟨_, ht', .underway hcourse' (hhistory'.trans hhistory)
          (by rw [hjournal', hjournal, List.append_assoc]) hfault'⟩
      | ends ht' hstory hjournal' hhistory' =>
        exact ⟨_, ht', .ended rfl (hcleans ▸ hstory) (by rw [hhistory', hhistory])
          (by rw [hjournal', hjournal, List.append_assoc])⟩
    · have hrests := horderly.owned.rests_of_other change hcause ht hjob hlive
      exact ⟨t.stage, horderly.gated.task_of_other change hcause ht,
        (Tells.underway hcourse hhistory hjournal hfault).rest hrests hcleans⟩

/-- A change keeps the task of a claim and its service in agreement, unless it is another claim
of the service. -/
theorem Tells.step (h : Tells S d n s t) (horderly : S.Orderly) (hpresent : S.Present)
    (change : Change S cause S') (ht : S.task? i = some t) (hjob : t.job = some (d.job n)) :
    (∃ stage, S'.task? i = some { t with stage } ∧ Tells S' d n s { t with stage }) ∨
      ∃ (d' : Direction) (u : Task Job HookRun), S'.task? S.submitted = some u ∧
        u.job = some (d'.job n) := by
  by_cases hlive : t.stage.isLive = true
  · exact .inl (h.goes horderly hpresent change ht hjob hlive)
  · cases h with
    | underway hcourse => exact absurd hcourse.isLive hlive
    | ended hstage hstory hhistory hjournal =>
      obtain ⟨stage, ht', hkeep⟩ := (horderly.gated.continues change i).task ht
      obtain rfl := hkeep (Bool.not_eq_true _ ▸ hlive)
      have hrest : (S.service n).state.isTransient = false :=
        (congrArg ServiceState.isTransient (List.cons.inj hhistory).1).trans hstory.isTransient
      rcases horderly.owned.rests_or_claims change hrest with
        hrests | ⟨d', name, gates, -, rfl⟩
      · exact .inl ⟨_, ht',
          (Tells.ended hstage hstory hhistory hjournal).rest hrests (cleansUp_of_change change)⟩
      · refine .inr ⟨d', S.newcomer name gates (d'.job n), ?_, rfl⟩
        exact (task?_push S name gates (d'.job n) S.submitted).trans (if_pos rfl)

/-- With a claim the task and the service agree. -/
theorem tells_of_claim (halive : S.isAlive = true) (d : Direction) (n : Incarnation) (name : String)
    (gates : List TaskId) :
    Tells (S.claimed n d.via name gates (d.job n)) d n (S.service n)
      (S.newcomer name gates (d.job n)) := by
  have hservice : (S.claimed n d.via name gates (d.job n)).service n =
      (S.service n).depart d.via S.submitted := service_put_self _ n _
  have hstage := newcomer_queued halive name gates (d.job n)
  have hcourse : Course d n (S.newcomer name gates (d.job n)).stage [] := by
    rw [hstage]
    exact .idle rfl (by simp)
  refine .underway hcourse ?_ ?_ ?_
  · rw [hservice]
    rfl
  · rw [hservice]
    rfl
  · rw [hservice]
    rfl

/-- What a service was before matters only in so far as it has left a trace. -/
theorem Tells.congr {s' : Service} (h : Tells S d n s t) (hhistory : s.history = s'.history)
    (hjournal : s.journal = s'.journal) : Tells S d n s' t := by
  cases h with
  | underway hcourse hhistory' hjournal' hfault =>
    exact .underway hcourse (hhistory ▸ hhistory') (hjournal ▸ hjournal') hfault
  | ended hstage hstory hhistory' hjournal' =>
    exact .ended hstage hstory (hhistory ▸ hhistory') (hjournal ▸ hjournal')

/-- As long as the task has not finished, the service is in transit and has no fault. -/
theorem Tells.of_open (h : Tells S d n s t) (hopen : t.isFinished = false) :
    (S.service n).history = d.via :: s.history ∧ (S.service n).fault = none := by
  cases h with
  | underway _ hhistory _ hfault => exact ⟨hhistory, hfault⟩
  | ended hstage =>
    rw [Task.isFinished_iff.mpr ⟨_, hstage⟩] at hopen
    cases hopen

theorem Tells.story {ending : Ending} (h : Tells S d n s t) (hstage : t.stage = .ended ending) :
    ∃ calls state, (S.service n).journal = calls ++ s.journal ∧
      (S.service n).history = state :: d.via :: s.history ∧
      Story S.cleansUp d calls ending state (S.service n).fault := by
  cases h with
  | underway hcourse =>
    have hopen := hcourse.isLive
    rw [hstage] at hopen
    cases hopen
  | @ended calls ending' state hstage' hstory hhistory hjournal =>
    obtain rfl := Stage.ended.inj (hstage.symm.trans hstage')
    exact ⟨calls, state, hjournal, hhistory, hstory⟩

/-- The task has completed if and only if the service has reached its goal. -/
theorem Tells.reached (h : Tells S d n s t) : t.outcome? = some .completed ↔
    (S.service n).history = d.goal :: d.via :: s.history := by
  cases hfinished : t.isFinished with
  | false =>
    have hhistory := (h.of_open hfinished).1
    constructor
    · intro hdone
      rw [Task.isFinished, hdone] at hfinished
      cases hfinished
    · intro hreached
      exact absurd (congrArg List.length (hhistory.symm.trans hreached)) (by simp)
  | true =>
    obtain ⟨ending, hstage⟩ := Task.isFinished_iff.mp hfinished
    obtain ⟨calls, state, -, hhistory, hstory⟩ := h.story hstage
    have hgoal : (S.service n).history = d.goal :: d.via :: s.history ↔ state = d.goal := by
      constructor
      · exact fun hreached => (List.cons.inj (hhistory.symm.trans hreached)).1
      · rintro rfl
        exact hhistory
    rw [hgoal, hstory.state_eq_goal, show t.outcome? = some ending.outcome by
      simp [Task.outcome?, hstage]]
    cases ending <;> simp [Ending.outcome]

/-- The service has been claimed again since. -/
def Reclaimed (S : Scene) (i : TaskId) (n : Incarnation) : Prop :=
  ∃ (j : TaskId) (t : Task Job HookRun) (d : Direction), i < j ∧ S.task? j = some t ∧
    t.job = some (d.job n)

/-- Task `i` and service `n` agree, as long as the service has not been claimed again. -/
def Agrees (S : Scene) (i : TaskId) (d : Direction) (n : Incarnation) (s : Service) : Prop :=
  ∃ t, S.task? i = some t ∧ t.job = some (d.job n) ∧ (Tells S d n s t ∨ S.Reclaimed i n)

theorem Agrees.step (h : S.Agrees i d n s) (horderly : S.Orderly) (hpresent : S.Present)
    (change : Change S cause S') : S'.Agrees i d n s := by
  obtain ⟨t, ht, hjob, htells⟩ := h
  obtain ⟨stage, ht', -⟩ := (horderly.gated.continues change i).task ht
  refine ⟨_, ht', hjob, ?_⟩
  rcases htells with htells | ⟨j, u, d', hlt, hu, hjob'⟩
  · rcases htells.step horderly hpresent change ht hjob with
      ⟨stage', ht'', htells'⟩ | ⟨d', u, hu, hjob'⟩
    · rw [Option.some.inj (ht'.symm.trans ht'')]
      exact .inl htells'
    · exact .inr ⟨S.submitted, u, d', horderly.gated.known i t ht, hu, hjob'⟩
  · obtain ⟨stage', hu', -⟩ := (horderly.gated.continues change j).task hu
    exact .inr ⟨j, _, d', hlt, hu', hjob'⟩

/-! ## Claims -/

/-- A service that requests leave at rest has come no further. -/
theorem rests_of_requests (changes : Changes Cause.IsRequest S T)
    (hrest : (T.service n).state.isTransient = false) :
    (T.service n).history = (S.service n).history ∧
      (T.service n).journal = (S.service n).journal := by
  induction changes with
  | refl => exact ⟨rfl, rfl⟩
  | @tail U T _ hstep ih =>
    obtain ⟨cause, hcause, change⟩ := hstep
    cases affects change n with
    | rests hrests =>
      obtain ⟨hhistory, hjournal⟩ := ih ((List.cons.inj hrests.history).1 ▸ hrest)
      exact ⟨hrests.history.trans hhistory, hrests.journal.trans hjournal⟩
    | claims d name gates =>
      have hvia : ((U.claimed n d.via name gates (d.job n)).service n).state = d.via :=
        congrArg Service.state (service_put_self _ n _)
      rw [hvia, d.isTransient_via] at hrest
      cases hrest
    | works => exact hcause.elim

theorem Present.changes (h : S.Present) (changes : Changes Cause.IsRequest S T) : T.Present := by
  induction changes with
  | refl => exact h
  | tail _ hstep ih =>
    obtain ⟨cause, hcause, change⟩ := hstep
    exact ih.step (fun heq => by rw [heq] at hcause; exact hcause) change

/-- A task that a request has submitted has had no turn. -/
theorem queued_of_requests (horderly : S.Orderly) (hpresent : S.Present)
    (changes : Changes Cause.IsRequest S T) (hnew : S.task? i = none) (ht : T.task? i = some t) :
    t.stage = .queued := by
  induction changes generalizing t with
  | refl =>
    rw [hnew] at ht
    cases ht
  | @tail U T hsteps hstep ih =>
    have hU := horderly.changes hsteps
    obtain ⟨cause, hcause, change⟩ := hstep
    cases hu : U.task? i with
    | some u =>
      obtain rfl := Option.some.inj (ht.symm.trans (hU.gated.task_of_request hcause change hu))
      exact ih hu
    | none =>
      rcases hU.gated.continues change i with hsame | ⟨u, stage, hu', -⟩ |
        ⟨-, -, name, gates, job, hnewcomer⟩
      · rw [ht, hu] at hsame
        cases hsame
      · rw [hu] at hu'
        cases hu'
      · rw [Option.some.inj (ht.symm.trans hnewcomer)]
        exact newcomer_queued (hpresent.changes hsteps).isAlive name gates job

/-- A task that a request has submitted for a service agrees with it. -/
theorem agrees_of_requests (horderly : S.Orderly) (hpresent : S.Present)
    (changes : Changes Cause.IsRequest S T) (hnew : S.task? i = none) (ht : T.task? i = some t)
    (hjob : t.job = some (d.job n)) : T.Agrees i d n (S.service n) := by
  induction changes generalizing t with
  | refl =>
    rw [hnew] at ht
    cases ht
  | @tail U T hsteps hstep ih =>
    have hU := horderly.changes hsteps
    have hpresentU := hpresent.changes hsteps
    obtain ⟨cause, hcause, change⟩ := hstep
    cases hu : U.task? i with
    | some u =>
      obtain ⟨stage, ht', -⟩ := (hU.gated.continues change i).task hu
      obtain rfl := Option.some.inj (ht.symm.trans ht')
      exact (ih hu hjob).step hU hpresentU change
    | none =>
      rcases hU.gated.news change ht with ⟨u, hu', -⟩ | ⟨m, hconfirm⟩ |
        ⟨d', m, name, gates, rfl, rfl, rfl, -, horigin, -⟩
      · rw [hu] at hu'
        cases hu'
      · exact absurd (Option.some.inj (hjob.symm.trans hconfirm)) Direction.job_ne_confirm
      · -- the service has come no further before it is claimed
        obtain ⟨rfl, rfl⟩ := Direction.job_inj.mp (Option.some.inj hjob)
        obtain ⟨hhistory, hjournal⟩ := rests_of_requests (n := m) hsteps
          (by rw [horigin]; exact d'.isTransient_origin)
        exact ⟨_, ht, rfl,
          .inl ((tells_of_claim hpresentU.isAlive d' m name gates).congr hhistory hjournal)⟩

end Scene

/-! ## Causes -/

namespace Provider

open Scene

variable {p : Provider} {e : Event} {i : TaskId} {t : Task Job HookRun} {ending : Ending}

/-- Why a task comes to its end with its next move. -/
inductive Closes (p : Provider) (i : TaskId) : Ending → Prop
  /-- One of its gates did not complete. -/
  | gate {t gate : Task Job HookRun} {g : TaskId} {later : List TaskId} {o : Outcome} :
      p.tasks.tasks[i]? = some t → t.stage = .gated (g :: later) →
      p.tasks.tasks[g]? = some gate → gate.result? = some o → o ≠ .completed →
      Closes p i (.aborted (Scheduler.gateReason gate.name o))
  /-- It needs a worker and the scheduler has been shut down. -/
  | refused {t : Task Job HookRun} : p.tasks.tasks[i]? = some t →
      t.stage = .gated [] ∨ t.stage = .waiting → p.tasks.isShutdown = true →
      Closes p i (.aborted p.tasks.shutdownReason)
  /-- Something that its service refers to is not up. -/
  | unready {t : Task Job HookRun} {n : Incarnation} {reason : String} :
      p.tasks.tasks[i]? = some t → t.stage = .waiting → p.tasks.isShutdown = false →
      t.job = some (.enable n) → p.registry.missingDependency? n = some reason →
      Closes p i (.failed reason)
  /-- Its body takes a turn and ends with it. -/
  | body {t : Task Job HookRun} {turn : Turn HookRun} {r : Registry} {ending : Ending} :
      p.tasks.tasks[i]? = some t → (t.stage = .waiting → p.tasks.isShutdown = false) →
      (t.stage = .waiting → ∀ n, t.job = some (.enable n) →
        p.registry.missingDependency? n = none) →
      t.turn? Registry.workload p.registry = some (turn, r) → turn.ending? = some ending →
      Closes p i ending

/-- A body that finds something missing fails with that. -/
theorem ending_of_missing {n : Incarnation} {reason : String} {turn : Turn HookRun} {r : Registry}
    (hstage : t.stage = .waiting) (hjob : t.job = some (.enable n))
    (hmissing : p.registry.missingDependency? n = some reason)
    (hturn : t.turn? Registry.workload p.registry = some (turn, r))
    (hend : turn.ending? = some ending) : ending = .failed reason := by
  have hstart : t.turn? Registry.workload p.registry =
      some (Registry.startJob (.enable n) p.registry) := by
    simp only [Task.turn?, hstage, hjob]
    rfl
  rw [hstart] at hturn
  obtain rfl : (Registry.startJob (.enable n) p.registry).1 = turn :=
    congrArg Prod.fst (Option.some.inj hturn)
  simp only [Registry.startJob, hmissing] at hend
  exact (Option.some.inj hend).symm

theorem closes_of_moves {tasks : Array (Task Job HookRun)} {r : Registry}
    (hmoves : Scheduler.Moves Registry.workload i p.tasks p.registry tasks r)
    (ht : tasks[i]? = some t) (hstage : t.stage = .ended ending) : Closes p i ending := by
  have hstand : ∀ {u : Task Job HookRun} {stage : Stage HookRun}, p.tasks.tasks[i]? = some u →
      (putStage p.tasks.tasks i stage)[i]? = some t → stage = .ended ending := by
    intro u stage hu hput
    rw [getElem?_putStage, if_pos rfl, hu] at hput
    rw [← hstage, ← Option.some.inj hput]
  cases hmoves with
  | enters hu | passes hu | lines hu | sleeps hu => cases hstand hu ht
  | gateFails hu hgated hgate hresult hne hcloses =>
    obtain ⟨rfl, rfl⟩ := hcloses.calm Registry.isCalm_workload
    cases hstand hu ht
    exact .gate hu hgated hgate hresult hne
  | refused hu hwaiting hshut hcloses =>
    obtain ⟨rfl, rfl⟩ := hcloses.calm Registry.isCalm_workload
    cases hstand hu ht
    exact .refused hu hwaiting hshut
  | @ends u turn _ _ _ _ hu hturn hend hopen hcloses =>
    obtain ⟨rfl, rfl⟩ := hcloses.calm Registry.isCalm_workload
    cases hstand hu ht
    by_cases hmissing : ∃ n reason, u.stage = .waiting ∧ u.job = some (.enable n) ∧
        p.registry.missingDependency? n = some reason
    · obtain ⟨n, reason, hwaiting, hjob, hmissing⟩ := hmissing
      rw [ending_of_missing hwaiting hjob hmissing hturn hend]
      exact .unready hu hwaiting (hopen hwaiting) hjob hmissing
    · refine .body hu hopen (fun hwaiting n hjob => ?_) hturn hend
      cases hnone : p.registry.missingDependency? n with
      | none => rfl
      | some reason => exact absurd ⟨n, reason, hwaiting, hjob, hnone⟩ hmissing

/-- A task stays where it is, or it makes a move of its own. -/
theorem moves_of_event (h : p.scene.Lawful) (halive : p.tasks.isAlive = true) (he : e ≠ .stop)
    (ht : p.tasks.tasks[i]? = some t) :
    (p.step e).tasks.tasks[i]? = some t ∨ e = .move i ∧ ∃ stage,
      (p.step e).tasks.tasks[i]? = some { t with stage } ∧
      Scheduler.Goes Registry.workload p.tasks p.registry t stage ∧
      ∀ ending, stage = .ended ending → Closes p i ending := by
  cases e with
  | request q => exact .inl (h.orderly.task_of_requests (happens_step h (.request q)) ht)
  | move j =>
    show ((Scheduler.move Registry.workload j p.tasks p.registry).elim p
        p.withParts).tasks.tasks[i]? = some t ∨ _ ∧ ∃ stage,
      ((Scheduler.move Registry.workload j p.tasks p.registry).elim p
        p.withParts).tasks.tasks[i]? = some { t with stage } ∧ _
    cases hmove : Scheduler.move Registry.workload j p.tasks p.registry with
    | none => exact .inl ht
    | some parts =>
      have hmoves := (Scheduler.moves_of_move hmove).1
      obtain ⟨u, stage, hu, htasks, hgoes⟩ := hmoves.goes
      have hget : parts.1.tasks[i]? = if j = i then p.tasks.tasks[i]?.map ({ · with stage })
          else p.tasks.tasks[i]? := by
        rw [htasks, getElem?_putStage]
      by_cases heq : j = i
      · subst heq
        obtain rfl : t = u := Option.some.inj (ht.symm.trans hu)
        rw [if_pos rfl, ht, Option.map_some] at hget
        exact .inr ⟨rfl, stage, hget, hgoes, fun ending hstage =>
          closes_of_moves hmoves hget hstage⟩
      · rw [if_neg heq, ht] at hget
        exact .inl hget
  | pass moment => exact .inl ht
  | stop => exact absurd rfl he
  | tear j =>
    left
    rw [step_tear_of_alive halive]
    exact ht

/-- A shutdown is for good. -/
theorem isShutdown_step (h : p.tasks.isShutdown = true) (e : Event) :
    (p.step e).tasks.isShutdown = true := by
  cases e with
  | request q =>
    refine (assigns_perform undisturbed_assigns q p).keeps (I := (·.isShutdown = true)) h ?_
    rintro s s' hs (_ | _)
    · exact hs
    · rfl
  | move i =>
    show ((Scheduler.move Registry.workload i p.tasks p.registry).elim p
      p.withParts).tasks.isShutdown = true
    cases hmove : Scheduler.move Registry.workload i p.tasks p.registry with
    | none => exact h
    | some parts => exact (Scheduler.moves_of_move hmove).2.2.trans h
  | pass moment => exact h
  | stop => exact h
  | tear i =>
    show (if p.tasks.isAlive then p else _).tasks.isShutdown = true
    split
    · exact h
    · exact (Scheduler.torn_of_tear Registry.workload i p.tasks p.registry).2.2.trans h

/-- As long as there is no teardown, a task that has ended did so with a move of its own. -/
theorem closes_within (h : p.scene.Lawful) (hpresent : p.scene.Present) (events : List Event)
    (hevents : ∀ e ∈ events, e ≠ .stop) (ht : p.tasks.tasks[i]? = some t) :
    ∃ u, (p.after events).tasks.tasks[i]? = some u ∧ u.gates = t.gates ∧ u.job = t.job ∧
      ∀ ending, u.stage = .ended ending → t.stage = .ended ending ∨
        ∃ before rest, events = before ++ .move i :: rest ∧ Closes (p.after before) i ending := by
  induction events using List.reverseRecOn with
  | nil => exact ⟨t, ht, rfl, rfl, fun _ hstage => .inl hstage⟩
  | append_singleton done e ih =>
    have hdone : ∀ e ∈ done, e ≠ .stop := fun e he => hevents e (List.mem_append_left _ he)
    obtain ⟨u, hu, hgates, hjob, hends⟩ := ih hdone
    rw [after_append]
    rcases moves_of_event (h.after done) (h.present_after hpresent hdone).isAlive
      (hevents e (by simp)) hu with hsame | ⟨rfl, stage, hu', -, hcloses⟩
    · refine ⟨u, hsame, hgates, hjob, fun ending hstage => (hends ending hstage).imp_right ?_⟩
      rintro ⟨before, rest, rfl, hcloses⟩
      exact ⟨before, rest ++ [e], by simp, hcloses⟩
    · exact ⟨_, hu', hgates, hjob, fun ending hstage =>
        .inr ⟨done, [], by simp, hcloses ending hstage⟩⟩

/-- A task whose body has not started ends by being given up. -/
theorem Closes.aborted (hcloses : p.Closes i ending) (hnever : ending.isOfBody = false) :
    ∃ reason, ending = .aborted reason := by
  cases hcloses with
  | gate | refused => exact ⟨_, rfl⟩
  | unready => cases hnever
  | @body t turn _ _ _ _ _ _ hend => cases turn <;> cases hend <;> cases hnever

/-- A body starts behind completed gates. -/
theorem Closes.completed (hcloses : p.Closes i ending) (h : p.scene.Orderly)
    (hbody : ∀ reason, ending ≠ .aborted reason) (ht : p.tasks.tasks[i]? = some t) :
    ∀ g ∈ t.gates, p.scene.Completed g := by
  have hfree : t.stage.isFree = true := by
    cases hcloses with
    | gate | refused => exact absurd rfl (hbody _)
    | unready hu hwaiting =>
      obtain rfl := Option.some.inj (ht.symm.trans hu)
      rw [hwaiting]
      rfl
    | body hu _ _ hturn =>
      obtain rfl := Option.some.inj (ht.symm.trans hu)
      rcases Scheduler.stage_of_turn hturn with hwaiting | hrunning
      · rw [hwaiting]
        rfl
      · cases hstage : t.stage <;> rw [hstage] at hrunning <;> first | rfl | cases hrunning
  intro g hg
  refine ((h.gated.gates i t ht g hg).2).resolve_left fun hin => ?_
  rw [Stage.unpassed_of_isFree _ hfree] at hin
  cases hin

theorem completed_after (h : p.scene.Lawful) {g : TaskId} (hdone : p.scene.Completed g)
    (events : List Event) : (p.after events).scene.Completed g :=
  h.keeps_after (K := fun _ => True) hdone
    (fun hlaw hdone _ change => (hlaw.orderly.gated.continues change g).completed hdone) events
    fun _ _ _ _ => trivial

/-- Once the scheduler has been shut down, a body that has not started never will. -/
theorem unstarted_after (h : p.scene.Lawful) (hpresent : p.scene.Present)
    (hshut : p.tasks.isShutdown = true) (events : List Event) (hevents : ∀ e ∈ events, e ≠ .stop)
    (ht : p.tasks.tasks[i]? = some t) (hbefore : t.stage.hasStarted = false) :
    ∃ u, (p.after events).tasks.tasks[i]? = some u ∧ u.stage.hasStarted = false := by
  have hall : (p.after events).tasks.isShutdown = true ∧
      ∃ u, (p.after events).tasks.tasks[i]? = some u ∧ u.stage.hasStarted = false := by
    induction events using List.reverseRecOn with
    | nil => exact ⟨hshut, t, ht, hbefore⟩
    | append_singleton done e ih =>
      have hdone : ∀ e ∈ done, e ≠ .stop := fun e he => hevents e (List.mem_append_left _ he)
      obtain ⟨hshut, u, hu, hunstarted⟩ := ih hdone
      rw [after_append]
      refine ⟨isShutdown_step hshut e, ?_⟩
      rcases moves_of_event (h.after done) (h.present_after hpresent hdone).isAlive
        (hevents e (by simp)) hu with hsame | ⟨rfl, stage, hu', hgoes, -⟩
      · exact ⟨u, hsame, hunstarted⟩
      · exact ⟨_, hu', hgoes.unstarted hshut hunstarted⟩
  exact hall.2

/-! ## Recounts -/

/-- With this request task `i` is submitted to move service `n`, which it claims. -/
structure Claims (p : Provider) (q : Request) (i : TaskId) (d : Direction) (n : Incarnation) :
    Prop where
  new : p.tasks.tasks[i]? = none
  job : (p.step (.request q)).tasks.tasks[i]?.bind Task.job = some (d.job n)

/-- No task submitted after task `i` moves service `n`. -/
def Latest (p : Provider) (i : TaskId) (n : Incarnation) : Prop :=
  ∀ t ∈ p.tasks.tasks.toList.drop (i + 1), t.job ≠ some (.enable n) ∧ t.job ≠ some (.disable n)

instance (p : Provider) (i : TaskId) (n : Incarnation) : Decidable (p.Latest i n) :=
  inferInstanceAs (Decidable (∀ t ∈ _, _ ∧ _))

/-- What task `i`, by which service `n` was claimed in `p` when it was as `s`, and the service
tell after some more events. -/
structure Recounts (p : Provider) (later : List Event) (i : TaskId) (d : Direction)
    (n : Incarnation) (s : Service) : Prop where
  /-- As long as the task has not finished, the service is in transit and has no fault. -/
  underway : ∀ t, (p.after later).tasks.tasks[i]? = some t → t.isFinished = false →
    ((p.after later).service n).history = d.via :: s.history ∧
      ((p.after later).service n).fault = none
  /-- When it has ended, the calls, the ending, the state and the fault are those of one story. -/
  ended : ∀ t ending, (p.after later).tasks.tasks[i]? = some t → t.stage = .ended ending →
    ∃ calls state, ((p.after later).service n).callLog = calls ++ s.callLog ∧
      ((p.after later).service n).history = state :: d.via :: s.history ∧
      Story p.registry.config.deactivateOnFailedActivation d calls ending state
        ((p.after later).service n).fault
  /-- The task has completed if and only if the service has reached where it was to go. -/
  reached : ∀ t, (p.after later).tasks.tasks[i]? = some t → (t.outcome? = some .completed ↔
    ((p.after later).service n).history = d.goal :: d.via :: s.history)
  /-- The task ends with a move of its own. -/
  cause : ∀ t ending, (p.after later).tasks.tasks[i]? = some t → t.stage = .ended ending →
    ∃ before rest, later = before ++ .move i :: rest ∧ Closes (p.after before) i ending
  /-- A task one of whose gates did not complete is aborted. -/
  gates : ∀ t ending, (p.after later).tasks.tasks[i]? = some t → t.stage = .ended ending →
    ∀ g ∈ t.gates, ∀ o, (p.after later).tasks.result? g = some o → o ≠ .completed →
      ∃ reason, ending = .aborted reason
  /-- So is a task whose body has not started before the scheduler is shut down. -/
  shut : ∀ before rest t t' ending, later = before ++ rest →
    (p.after before).tasks.isShutdown = true → (p.after before).tasks.tasks[i]? = some t →
    t.stage.hasStarted = false → (p.after later).tasks.tasks[i]? = some t' →
    t'.stage = .ended ending → ∃ reason, ending = .aborted reason

theorem Latest.not_reclaimed {n : Incarnation} (h : p.Latest i n) : ¬ p.scene.Reclaimed i n := by
  rintro ⟨j, t, d, hlt, ht, hjob⟩
  have hmem : t ∈ p.tasks.tasks.toList.drop (i + 1) := by
    refine List.mem_of_getElem? (i := j - (i + 1)) ?_
    rw [List.getElem?_drop, Nat.add_sub_cancel' hlt, Array.getElem?_toList]
    exact ht
  cases d with
  | up => exact (h t hmem).1 hjob
  | down => exact (h t hmem).2 hjob

theorem cleansUp_after (h : p.scene.Lawful) (events : List Event) :
    (p.after events).scene.cleansUp = p.scene.cleansUp :=
  h.keeps_after (I := fun S => S.cleansUp = p.scene.cleansUp) (K := fun _ => True) rfl
    (fun _ heq _ change => (cleansUp_of_change change).trans heq) events fun _ _ _ _ => trivial

section Later

variable {later : List Event} {d : Direction} {n : Incarnation} {s : Service}

/-- A task that was not at its end ends with a move of its own. -/
theorem caused (h : p.scene.Lawful) (hpresent : p.scene.Present)
    (hlater : ∀ e ∈ later, e ≠ .stop) (ht : p.tasks.tasks[i]? = some t)
    (hlive : t.stage.isLive = true) {t' : Task Job HookRun}
    (ht' : (p.after later).tasks.tasks[i]? = some t') (hstage : t'.stage = .ended ending) :
    ∃ before rest, later = before ++ .move i :: rest ∧ Closes (p.after before) i ending := by
  obtain ⟨u, hu, -, -, hends⟩ := closes_within h hpresent later hlater ht
  obtain rfl := Option.some.inj (hu.symm.trans ht')
  refine (hends ending hstage).resolve_left fun hended => ?_
  rw [hended] at hlive
  cases hlive

/-- A task one of whose gates did not complete is aborted. -/
theorem aborted_of_gate (h : p.scene.Lawful) (hpresent : p.scene.Present)
    (hlater : ∀ e ∈ later, e ≠ .stop) (ht : p.tasks.tasks[i]? = some t)
    (hlive : t.stage.isLive = true) {t' : Task Job HookRun}
    (ht' : (p.after later).tasks.tasks[i]? = some t') (hstage : t'.stage = .ended ending)
    {g : TaskId} (hg : g ∈ t'.gates) {o : Outcome}
    (ho : (p.after later).tasks.result? g = some o) (hne : o ≠ .completed) :
    ∃ reason, ending = .aborted reason := by
  by_contra hbody
  obtain ⟨before, rest, rfl, hcloses⟩ := caused h hpresent hlater ht hlive ht' hstage
  have hbefore : ∀ e ∈ before, e ≠ .stop := fun e he => hlater e (List.mem_append_left _ he)
  obtain ⟨u, hu, hgates, -⟩ := closes_within h hpresent _ hlater ht
  obtain rfl := Option.some.inj (hu.symm.trans ht')
  obtain ⟨v, hv, hvgates, -⟩ := closes_within h hpresent before hbefore ht
  -- its body has had a turn, and so all its gates have completed
  have hdone := hcloses.completed (h.after before).orderly (fun reason heq => hbody ⟨reason, heq⟩)
    hv g (by rw [hvgates, ← hgates]; exact hg)
  obtain ⟨gate, hgate, hcompleted⟩ := completed_after (h.after before) hdone (.move i :: rest)
  rw [← after_append] at hgate
  have hresult : (p.after (before ++ .move i :: rest)).tasks.result? g = some .completed := by
    unfold Scheduler.result?
    rw [show (p.after (before ++ .move i :: rest)).tasks.tasks[g]? = some gate from hgate]
    simp [Task.result?, hcompleted, Ending.outcome]
  exact hne (Option.some.inj (ho.symm.trans hresult))

/-- So is a task whose body has not started before the scheduler is shut down. -/
theorem aborted_of_shut {before rest : List Event} (h : p.scene.Lawful)
    (hpresent : p.scene.Present) (hevents : ∀ e ∈ before ++ rest, e ≠ .stop)
    (ht : p.tasks.tasks[i]? = some t) (hlive : t.stage.isLive = true)
    (hshut : (p.after before).tasks.isShutdown = true) {u : Task Job HookRun}
    (hu : (p.after before).tasks.tasks[i]? = some u) (hunstarted : u.stage.hasStarted = false)
    {t' : Task Job HookRun} (ht' : (p.after (before ++ rest)).tasks.tasks[i]? = some t')
    (hstage : t'.stage = .ended ending) : ∃ reason, ending = .aborted reason := by
  have hbefore : ∀ e ∈ before, e ≠ .stop := fun e he => hevents e (List.mem_append_left _ he)
  have hrest : ∀ e ∈ rest, e ≠ .stop := fun e he => hevents e (List.mem_append_right _ he)
  obtain ⟨v, hv, hnever⟩ := unstarted_after (h.after before) (h.present_after hpresent hbefore)
    hshut rest hrest hu hunstarted
  rw [← after_append] at hv
  obtain rfl := Option.some.inj (hv.symm.trans ht')
  rw [hstage] at hnever
  obtain ⟨done, later, -, hcloses⟩ := caused h hpresent hevents ht hlive ht' hstage
  exact hcloses.aborted hnever

/-- A task that agrees with its service tells the same. -/
theorem recounts_of_agrees (h : p.scene.Lawful) (hpresent : p.scene.Present)
    (hlater : ∀ e ∈ later, e ≠ .stop) (ht : p.tasks.tasks[i]? = some t)
    (hlive : t.stage.isLive = true) (hagrees : (p.after later).scene.Agrees i d n s.outline)
    (hlatest : (p.after later).Latest i n) : p.Recounts later i d n s := by
  obtain ⟨u, hu, -, htells⟩ := hagrees
  replace htells := htells.resolve_right hlatest.not_reclaimed
  have hsame : ∀ {t}, (p.after later).tasks.tasks[i]? = some t → t = u :=
    fun ht => Option.some.inj (ht.symm.trans hu)
  exact {
    underway := fun t ht hopen => htells.of_open (hsame ht ▸ hopen)
    ended := fun t ending ht hstage => by
      obtain ⟨calls, state, hjournal, hhistory, hstory⟩ := htells.story (hsame ht ▸ hstage)
      rw [cleansUp_after h later] at hstory
      exact ⟨calls, state, hjournal, hhistory, hstory⟩
    reached := fun t ht => hsame ht ▸ htells.reached
    cause := fun _ _ ht' hstage => caused h hpresent hlater ht hlive ht' hstage
    gates := fun _ _ ht' hstage _ hg _ ho hne =>
      aborted_of_gate h hpresent hlater ht hlive ht' hstage hg ho hne
    shut := fun before rest v t' ending hsplit hshut hv hunstarted ht' hstage => by
      subst hsplit
      exact aborted_of_shut h hpresent hlater ht hlive hshut hv hunstarted ht' hstage }

end Later

end Provider

namespace Setup

/-- As long as there is no teardown, the task of every claim and its service tell the same story
until the service is claimed again. -/
theorem recounts_after (setup : Setup) (before : List Event) (q : Request) (later : List Event)
    (hevents : ∀ e ∈ before ++ later, e ≠ .stop) {i : TaskId} {d : Direction} {n : Incarnation}
    (hclaim : (setup.provider.after before).Claims q i d n)
    (hlatest : (((setup.provider.after before).step (.request q)).after later).Latest i n) :
    ((setup.provider.after before).step (.request q)).Recounts later i d n
      ((setup.provider.after before).service n) := by
  have hbefore : ∀ e ∈ before, e ≠ .stop := fun e he => hevents e (List.mem_append_left _ he)
  have hlater : ∀ e ∈ later, e ≠ .stop := fun e he => hevents e (List.mem_append_right _ he)
  have hlawful := setup.lawful_after before
  have hpresent := setup.present_after hbefore
  generalize setup.provider.after before = p at *
  have hchanges := Provider.happens_step hlawful (.request q)
  have hlawful' := hlawful.changes hchanges
  have hpresent' := hpresent.changes hchanges
  obtain ⟨t, ht, hjob⟩ := Option.bind_eq_some_iff.mp hclaim.job
  have hagrees := Scene.agrees_of_requests hlawful.orderly hpresent hchanges hclaim.new ht hjob
  have hlive : t.stage.isLive = true := by
    rw [Scene.queued_of_requests hlawful.orderly hpresent hchanges hclaim.new ht]
    rfl
  refine Provider.recounts_of_agrees hlawful' hpresent' hlater ht hlive ?_ hlatest
  refine (hlawful'.keeps_after (I := fun S => S.Present ∧ S.Agrees i d n _) (K := (· ≠ .teardown))
    ⟨hpresent', hagrees⟩ (fun hlaw hI hcause change => ?_) later
    fun e he _ hcause => Event.ne_teardown (hlater e he) hcause).2
  exact ⟨hI.1.step hcause change, hI.2.step hlaw.orderly hI.1 change⟩

/-- A service that fails to come up, and one that refers to it. -/
def brokenRun : List Event :=
  [.request (.create "mock.Failing" ⟨"f"⟩ false), .request (.create "mock.Dependent" ⟨"d"⟩ false),
    .request (.setProperty ⟨"d"⟩ "Other Service" "f")]

/-- Both are asked for at once. The one fails, and the other is given up. -/
theorem recounts_after_broken :
    let p := mock.provider.after brokenRun
    let q := Request.enableAll [⟨"d"⟩, ⟨"f"⟩]
    let later := Event.rounds 2 4
    let p' := (p.step (.request q)).after later
    p.Claims q 0 .up 0 ∧ p'.Latest 0 0 ∧ p.Claims q 1 .up 1 ∧ p'.Latest 1 1 ∧
      (p'.service 0).fault = some ⟨.activation, "mock activation failure"⟩ ∧
      (p'.service 0).history = [.disabled, .enabling, .disabled] ∧
      (p'.service 1).fault = some ⟨.aborted, "gate enable f (#) failed: " ++
        "activation of controller service f failed: mock activation failure"⟩ ∧
      (p.step (.request q)).Recounts later 0 .up 0 (p.service 0) ∧
      (p.step (.request q)).Recounts later 1 .up 1 (p.service 1) := by
  have hevents : ∀ e ∈ brokenRun ++ Event.rounds 2 4, e ≠ .stop := by
    rintro e he rfl
    simp [brokenRun, Event.rounds] at he
  have hfirst : (mock.provider.after brokenRun).Claims (.enableAll [⟨"d"⟩, ⟨"f"⟩]) 0 .up 0 :=
    ⟨by decide +kernel, by decide +kernel⟩
  have hsecond : (mock.provider.after brokenRun).Claims (.enableAll [⟨"d"⟩, ⟨"f"⟩]) 1 .up 1 :=
    ⟨by decide +kernel, by decide +kernel⟩
  exact ⟨hfirst, by decide +kernel, hsecond, by decide +kernel, by decide +kernel,
    by decide +kernel, by decide +kernel,
    recounts_after mock brokenRun _ _ hevents hfirst (by decide +kernel),
    recounts_after mock brokenRun _ _ hevents hsecond (by decide +kernel)⟩

end Setup

end ServiceLifecycle

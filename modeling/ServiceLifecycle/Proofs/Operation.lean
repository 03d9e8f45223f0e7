import ServiceLifecycle.Proofs.Callbacks

/-!
# A scheduler in operation

Tasks are submitted and make their moves in any order, time passes, and at any moment the
scheduler may be shut down. Tasks that somebody else reports on come and go as well, since they
serve as gates. What the bodies and the owners of tasks do is left open, panics included, and so is
what else happens to their surroundings. There is no teardown.

* **events** — what may happen, and what it comes to (`Scheduler.after`);
* **counts** — what a move does to the counters (`Scheduler.counts_of_move`);
* **ways** — how a task gets from one stage to the next (`Scheduler.Goes`);
* **order** — tasks, workers, counters and notices agree with each other after every run
  (`Scheduler.Sound`, `Scheduler.sound_after`).
-/

namespace ServiceLifecycle

variable {ι κ σ : Type}

/-- Whether the body of the task is still to start. -/
def Stage.isPending : Stage κ → Bool
  | .queued | .gated _ | .waiting => true
  | .running _ _ | .ended _ | .external _ | .dropped _ => false

/-- A task on its way is pending or under way. -/
theorem Stage.isLive_eq (stage : Stage κ) : stage.isLive = (stage.isPending || stage.isRunning) := by
  cases stage <;> rfl

theorem Stage.isRunning_of_isPending {stage : Stage κ} (h : stage.isPending = true) :
    stage.isRunning = false := by
  cases stage <;> first | rfl | cases h

/-- Where a task was put can be told from the tasks. -/
theorem putStage_inj {tasks : Array (Task ι κ)} {i : TaskId} {t : Task ι κ} {stage stage' : Stage κ}
    (ht : tasks[i]? = some t) (h : putStage tasks i stage = putStage tasks i stage') :
    stage = stage' := by
  have hget := congrArg (·[i]?) h
  simp only [getElem?_putStage, if_true, ht, Option.map_some] at hget
  exact congrArg Task.stage (Option.some.inj hget)

namespace Scheduler

/-! ## Events -/

/-- What may happen to a scheduler and to the surroundings of its tasks. -/
inductive Event (ι σ : Type) where
  | submit (name : String) (gates : OrderedSet TaskId) (job : ι) (hasCallback : Bool)
  /-- A task is taken in that somebody else reports on. -/
  | watch (name : String)
  | reportStart (i : TaskId)
  | reportEnd (i : TaskId) (ending : Ending)
  | abandon (i : TaskId)
  /-- A task makes its next move, if it can make one. -/
  | move (i : TaskId)
  /-- Time passes, to the given moment if it is a later one. -/
  | pass (moment : Nat)
  | shutdown
  /-- The surroundings change for reasons of their own. -/
  | alter (change : σ → σ)

/-- What an event comes to. -/
def step (work : Workload ι κ σ) (p : Scheduler ι κ × σ) : Event ι σ → Scheduler ι κ × σ
  | .submit name gates job hasCallback => ((p.1.submit name gates job hasCallback).2, p.2)
  | .watch name => ((p.1.watch name).2, p.2)
  | .reportStart i => (p.1.reportStart i, p.2)
  | .reportEnd i ending => (p.1.reportEnd i ending, p.2)
  | .abandon i => (p.1.abandon i, p.2)
  | .move i => (move work i p.1 p.2).getD p
  | .pass moment => (p.1.passTo moment, p.2)
  | .shutdown => (p.1.shutdown, p.2)
  | .alter change => (p.1, change p.2)

/-- What several events come to, one after the other. -/
def after (work : Workload ι κ σ) (p : Scheduler ι κ × σ) (events : List (Event ι σ)) :
    Scheduler ι κ × σ := events.foldl (step work) p

/-- What several events come to, from when nothing has been submitted. -/
def operate (work : Workload ι κ σ) (name : String) (configured : Nat) (env : σ)
    (events : List (Event ι σ)) : Scheduler ι κ × σ := after work (new name configured, env) events

theorem after_append (work : Workload ι κ σ) (p : Scheduler ι κ × σ)
    (done rest : List (Event ι σ)) :
    after work p (done ++ rest) = after work (after work p done) rest := List.foldl_append

/-- What an event can do. Only a move gives a task with a body a turn. -/
inductive Advances (work : Workload ι κ σ) (s : Scheduler ι κ) (env : σ) :
    Event ι σ → Scheduler ι κ × σ → Prop
  /-- Time may pass, and the surroundings may change. -/
  | idles {e : Event ι σ} (now : Nat) (env' : σ) : Advances work s env e ({ s with now }, env')
  | receives {e : Event ι σ} {s' : Scheduler ι κ} : Receives s s' → Advances work s env e (s', env)
  | watches {e : Event ι σ} (name : String) : Advances work s env e ((s.watch name).2, env)
  /-- Somebody reports on a task. -/
  | reports {e : Event ι σ} {i : TaskId} {t : Task ι κ} {started : Bool} {stage : Stage κ} :
      s.tasks[i]? = some t → t.stage = .external started → stage.isLive = false →
      Advances work s env e (s.setStage i stage, env)
  | moves {i : TaskId} {p : Scheduler ι κ × σ} : move work i s env = some p →
      Advances work s env (.move i) p

variable {work : Workload ι κ σ} {s s' s₁ : Scheduler ι κ} {env env' : σ} {i : TaskId}
  {t : Task ι κ} {stage : Stage κ} {p : Scheduler ι κ × σ} {e : Event ι σ}

/-- What is reported on a task matters only if somebody else is to report on it. -/
theorem advances_of_report (work : Workload ι κ σ) (s : Scheduler ι κ) (env : σ) (e : Event ι σ)
    (i : TaskId) (stage : Bool → Stage κ) (hstage : ∀ started, (stage started).isLive = false) :
    Advances work s env e
      (match s.tasks[i]?.map Task.stage with
        | some (.external started) => s.setStage i (stage started)
        | _ => s, env) := by
  split
  · next started hfound =>
    obtain ⟨t, ht, hexternal⟩ := Option.map_eq_some_iff.mp hfound
    exact .reports ht hexternal (hstage started)
  · exact .idles s.now env

/-- Every event does one of these. -/
theorem advances_step (work : Workload ι κ σ) (p : Scheduler ι κ × σ) (e : Event ι σ) :
    Advances work p.1 p.2 e (step work p e) := by
  cases e with
  | submit name gates job hasCallback => exact .receives (.submits name gates job hasCallback)
  | watch name => exact .watches name
  | reportStart i => exact advances_of_report _ _ _ _ i (fun _ => .external true) fun _ => rfl
  | reportEnd i ending => exact advances_of_report _ _ _ _ i (fun _ => .ended ending) fun _ => rfl
  | abandon i => exact advances_of_report _ _ _ _ i .dropped fun _ => rfl
  | move i =>
    show Advances work p.1 p.2 (.move i) ((move work i p.1 p.2).getD p)
    cases hmove : move work i p.1 p.2 with
    | none => exact .idles p.1.now p.2
    | some q => exact .moves hmove
  | pass moment => exact .idles (max p.1.now moment) p.2
  | shutdown => exact .receives .shuts
  | alter change => exact .idles p.1.now (change p.2)

/-! ## Counts -/

/-- A task is put at another stage, and the counters follow. -/
structure Counts (i : TaskId) (t : Task ι κ) (stage : Stage κ) (s s' : Scheduler ι κ) : Prop where
  tasks : s'.tasks = putStage s.tasks i stage
  configured : s'.configured = s.configured
  pending : s'.pending = s.pending + stage.isPending.toNat - t.stage.isPending.toNat
  running : s'.running = s.running + stage.isRunning.toNat - t.stage.isRunning.toNat

theorem counts_abort (work : Workload ι κ σ) (i : TaskId) {t : Task ι κ} (reason : String)
    (s : Scheduler ι κ) (env : σ) (hpending : t.stage.isPending = true) :
    ∃ ending, Counts i t (.ended ending) s (abort work i t reason s env).1 := by
  obtain ⟨callbacks, ending, env', -, heq⟩ := closes_abort work i t reason s env
  rw [heq]
  refine ⟨ending, rfl, rfl, ?_, ?_⟩
  · rw [hpending]
    rfl
  · rw [Stage.isRunning_of_isPending hpending]
    rfl

/-- The body of a task that is counted as running takes a turn. -/
theorem counts_settleTurn (ht : s.tasks[i]? = some t) (turn : Turn κ × σ)
    (htasks : s₁.tasks = s.tasks) (hconfigured : s₁.configured = s.configured)
    (hpending : s₁.pending = s.pending - t.stage.isPending.toNat)
    (hrunning : s₁.running = s.running + 1 - t.stage.isRunning.toNat) :
    let p := settleTurn work i t s₁ turn
    ∃ t stage, s.tasks[i]? = some t ∧ Counts i t stage s p.1 := by
  obtain ⟨turn, env₁⟩ := turn
  cases hend : turn.ending? with
  | none =>
    cases turn with
    | sleeps time rest =>
      exact ⟨t, .running _ rest, ht, (setStage_tasks s₁ i _).trans (by rw [htasks]), hconfigured,
        hpending, hrunning⟩
    | returns | fails | panics => simp [Turn.ending?] at hend
  | some ending =>
    obtain ⟨callbacks, ending', env₂, -, heq⟩ := closes_leave work i t ending s₁ env₁
    rw [settleTurn_ends env₁ hend, heq]
    refine ⟨t, .ended ending', ht, htasks ▸ setStage_tasks s₁ i _, hconfigured, hpending, ?_⟩
    show s₁.running - 1 = s.running - t.stage.isRunning.toNat
    omega

/-- A task that has yet to start stays among those that are pending. -/
theorem counts_wait {s' : Scheduler ι κ} (htasks : s'.tasks = putStage s.tasks i stage)
    (hconfigured : s'.configured = s.configured) (hpending : s'.pending = s.pending)
    (hrunning : s'.running = s.running) (hbefore : t.stage.isPending = true)
    (hafter : stage.isPending = true) : Counts i t stage s s' := by
  refine ⟨htasks, hconfigured, ?_, ?_⟩
  · rw [hpending, hbefore, hafter]
    rfl
  · rw [hrunning, Stage.isRunning_of_isPending hbefore, Stage.isRunning_of_isPending hafter]
    rfl

/-- With a move, one task is put at another stage, and the counters follow. -/
theorem MovesTo.counts (hmove : MovesTo work i s env p) :
    ∃ t stage, s.tasks[i]? = some t ∧ Counts i t stage s p.1 := by
  cases hmove with
  | @enters t ht hstage =>
    exact ⟨t, .gated t.gates, ht, counts_wait rfl rfl rfl rfl (by rw [hstage]; rfl) rfl⟩
  | @passes t g later gate ht hstage =>
    exact ⟨t, .gated later, ht, counts_wait rfl rfl rfl rfl (by rw [hstage]; rfl) rfl⟩
  | @lines t ht hstage =>
    exact ⟨t, .waiting, ht, counts_wait rfl rfl rfl rfl (by rw [hstage]; rfl) rfl⟩
  | @gateFails t g later gate o ht hstage =>
    obtain ⟨ending, hcounts⟩ := counts_abort work i (gateReason gate.name o) s env
      (by rw [hstage]; rfl : t.stage.isPending = true)
    exact ⟨t, _, ht, hcounts⟩
  | @refused t ht hstage =>
    obtain ⟨ending, hcounts⟩ := counts_abort work i s.shutdownReason s env
      (by rw [hstage]; rfl : t.stage.isPending = true)
    exact ⟨t, _, ht, hcounts⟩
  | @sentAway t job ht hstage =>
    obtain ⟨ending, htasks, hconfigured, hp, hr⟩ := counts_abort work i s.shutdownReason
      { s with line := s.line.erase i } env (by rw [hstage]; rfl : t.stage.isPending = true)
    exact ⟨t, _, ht, htasks, hconfigured, hp, hr⟩
  | starts ht hstage | resumes ht hstage =>
    exact counts_settleTurn ht _ rfl rfl (by rw [hstage]; rfl) (by rw [hstage]; rfl)

theorem counts_of_move (hmove : move work i s env = some (s', env')) :
    ∃ t stage, s.tasks[i]? = some t ∧ Counts i t stage s s' := (movesTo_of_move hmove).counts

/-! ## Ways -/

/-- Where a task may get with one move. -/
inductive Goes (work : Workload ι κ σ) (s : Scheduler ι κ) (env : σ) (t : Task ι κ) :
    Stage κ → Prop
  /-- It has yet to start. -/
  | waits {stage : Stage κ} : t.stage.isPending = true → stage.isPending = true → Goes work s env t stage
  /-- It is given up before its body has started. -/
  | givenUp {reason : String} {ending : Ending} {env' : σ} : t.stage.isPending = true →
      Closes work t (.aborted reason) (remarked work t (.aborted reason) env) ending env' →
      Goes work s env t (.ended ending)
  /-- Its body takes a turn and sleeps. Only as long as there is no shutdown, a body starts. -/
  | sleeps {time wake : Option Nat} {rest : κ} {env' : σ} :
      t.turn? work env = some (.sleeps time rest, env') →
      (t.stage = .waiting → s.isShutdown = false) → Goes work s env t (.running wake rest)
  /-- Its body takes a turn and ends. -/
  | ends {turn : Turn κ} {ending ending' : Ending} {env' env'' : σ} :
      t.turn? work env = some (turn, env') → turn.ending? = some ending →
      (t.stage = .waiting → s.isShutdown = false) →
      Closes work t ending (remarked work t ending env') ending' env'' →
      Goes work s env t (.ended ending')

/-- A task gets on only while it is on its way, and then it goes on or ends. -/
theorem Goes.isLive (h : Goes work s env t stage) :
    t.stage.isLive = true ∧ (stage.isLive = true ∨ ∃ ending, stage = .ended ending) := by
  have hturn : ∀ {turn}, t.turn? work env = some turn → t.stage.isLive = true := by
    intro turn hturn
    unfold Task.turn? at hturn
    split at hturn
    · next hstage _ =>
      rw [hstage]
      rfl
    · next hstage =>
      rw [hstage]
      rfl
    · cases hturn
  have hpending : ∀ {stage : Stage κ}, stage.isPending = true → stage.isLive = true := by
    intro stage h
    rw [Stage.isLive_eq, h]
    rfl
  cases h with
  | waits hbefore hafter => exact ⟨hpending hbefore, .inl (hpending hafter)⟩
  | givenUp hbefore => exact ⟨hpending hbefore, .inr ⟨_, rfl⟩⟩
  | sleeps h => exact ⟨hturn h, .inl rfl⟩
  | ends h => exact ⟨hturn h, .inr ⟨_, rfl⟩⟩

/-- With a move, one task gets to another stage. -/
theorem Moves.goes {tasks : Array (Task ι κ)} (h : Moves work i s env tasks env') :
    ∃ t stage, s.tasks[i]? = some t ∧ tasks = putStage s.tasks i stage ∧ Goes work s env t stage := by
  cases h with
  | enters ht hstage | passes ht hstage | lines ht hstage =>
    exact ⟨_, _, ht, rfl, .waits (by rw [hstage]; rfl) rfl⟩
  | gateFails ht hstage _ _ _ hcloses =>
    exact ⟨_, _, ht, rfl, .givenUp (by rw [hstage]; rfl) hcloses⟩
  | refused ht hstage _ hcloses =>
    exact ⟨_, _, ht, rfl, .givenUp (by rcases hstage with h | h <;> rw [h] <;> rfl) hcloses⟩
  | sleeps ht hturn hopen => exact ⟨_, _, ht, rfl, .sleeps hturn hopen⟩
  | ends ht hturn hend hopen hcloses => exact ⟨_, _, ht, rfl, .ends hturn hend hopen hcloses⟩

/-! ## Order -/

/-- Tasks, workers, counters and notices agree with each other. -/
structure Sound (s : Scheduler ι κ) : Prop where
  isAlive : s.isAlive = true
  staffed : s.Staffed
  tallied : s.Tallied
  /-- A task with a body has ended unless it is on its way. -/
  employed : ∀ (i : TaskId) t, s.tasks[i]? = some t → t.job.isSome = true →
    t.stage.isLive = true ∨ ∃ ending, t.stage = .ended ending
  /-- A task without a body is not on its way. -/
  idle : ∀ (i : TaskId) t, s.tasks[i]? = some t → t.job = none → t.stage.isLive = false
  pending : s.pending = s.tasks.countP (·.stage.isPending)
  running : s.running = s.tasks.countP (·.stage.isRunning)

theorem sound_new (name : String) (configured : Nat) :
    Sound (new name configured : Scheduler ι κ) where
  isAlive := rfl
  staffed := staffed_new name configured
  tallied := tallied_new name configured
  employed := by simp [new]
  idle := by simp [new]
  pending := rfl
  running := rfl

/-- A task that is on its way has a body. -/
theorem Sound.job_of_live (h : s.Sound) (ht : s.tasks[i]? = some t)
    (hlive : t.stage.isLive = true) : t.job.isSome = true := by
  cases hjob : t.job with
  | some job => rfl
  | none =>
    rw [h.idle i t ht hjob] at hlive
    cases hlive

/-- A task that somebody else reports on has no body. -/
theorem Sound.job_of_external (h : s.Sound) (ht : s.tasks[i]? = some t) {started : Bool}
    (hstage : t.stage = .external started) : t.job = none := by
  cases hjob : t.job with
  | none => rfl
  | some job =>
    rcases h.employed i t ht (by rw [hjob]; rfl) with hlive | ⟨ending, hended⟩
    · rw [hstage] at hlive
      cases hlive
    · rw [hstage] at hended
      cases hended

/-- The counters keep up with a task that is put at another stage. -/
theorem Sound.pending_put (h : s.Sound) (ht : s.tasks[i]? = some t) (hcounts : Counts i t stage s s') :
    s'.pending + t.stage.isPending.toNat = s.pending + stage.isPending.toNat ∧
      s'.pending = s'.tasks.countP (·.stage.isPending) := by
  have hcount := countP_putStage Stage.isPending ht stage
  have hbefore := h.pending
  have hafter := hcounts.pending
  rw [hcounts.tasks]
  constructor <;> omega

theorem Sound.running_put (h : s.Sound) (ht : s.tasks[i]? = some t) (hcounts : Counts i t stage s s') :
    s'.running + t.stage.isRunning.toNat = s.running + stage.isRunning.toNat ∧
      s'.running = s'.tasks.countP (·.stage.isRunning) := by
  have hcount := countP_putStage Stage.isRunning ht stage
  have hbefore := h.running
  have hafter := hcounts.running
  rw [hcounts.tasks]
  constructor <;> omega

/-- Taking in a task, with a body or without. -/
theorem Sound.push (h : s.Sound) {t : Task ι κ}
    (ht : t.job.isSome = true ∧ t.stage = .queued ∨ t.job = none ∧ t.stage = .external false) :
    Sound { s with pending := s.pending + t.stage.isPending.toNat, tasks := s.tasks.push t } := by
  -- nobody is under way or in line or has been told anything in the beginning
  obtain ⟨hrunning, hwaiting, hgated, hnotices⟩ : t.stage.isRunning = false ∧
      t.stage.isWaiting = false ∧ (∀ remaining, t.stage ≠ .gated remaining) ∧ t.notices = [] := by
    rcases ht with ⟨-, hstage⟩ | ⟨-, hstage⟩ <;> simp [hstage, Stage.isRunning, Stage.isWaiting,
      Task.notices]
  have hfind : ∀ (i : TaskId) u, (s.tasks.push t)[i]? = some u → u = t ∨ s.tasks[i]? = some u := by
    intro i u hu
    rw [Array.getElem?_push] at hu
    split at hu
    · exact .inl (Option.some.inj hu).symm
    · exact .inr hu
  exact {
    isAlive := h.isAlive
    staffed := h.staffed.push hwaiting hrunning hgated _
    tallied := h.tallied.push hnotices _
    employed i u hu hjob := by
      rcases hfind i u hu with rfl | hold
      · rcases ht with ⟨-, hstage⟩ | ⟨hnone, -⟩
        · exact .inl (by rw [hstage]; rfl)
        · rw [hnone] at hjob
          cases hjob
      · exact h.employed i u hold hjob
    idle i u hu hjob := by
      rcases hfind i u hu with rfl | hold
      · rcases ht with ⟨hsome, -⟩ | ⟨-, hstage⟩
        · rw [hjob] at hsome
          cases hsome
        · rw [hstage]
          rfl
      · exact h.idle i u hold hjob
    pending := by
      show s.pending + _ = (s.tasks.push t).countP _
      rw [Array.countP_push, h.pending]
      cases t.stage.isPending <;> rfl
    running := by
      show s.running = (s.tasks.push t).countP _
      rw [Array.countP_push, if_neg (by simp [hrunning])]
      exact h.running }

/-- Somebody reports on a task. -/
theorem Sound.report (h : s.Sound) (ht : s.tasks[i]? = some t) {started : Bool}
    (hstage : t.stage = .external started) (hlive : stage.isLive = false) :
    Sound (s.setStage i stage) := by
  have hjob := h.job_of_external ht hstage
  have hpending : t.stage.isPending = false ∧ stage.isPending = false := by
    rw [Stage.isLive_eq, Bool.or_eq_false_iff] at hlive
    exact ⟨by rw [hstage]; rfl, hlive.1⟩
  have hrunning : t.stage.isRunning = false ∧ stage.isRunning = false := by
    rw [Stage.isLive_eq, Bool.or_eq_false_iff] at hlive
    exact ⟨by rw [hstage]; rfl, hlive.2⟩
  have hcount : ∀ kind : Stage κ → Bool, kind t.stage = false ∧ kind stage = false →
      (putStage s.tasks i stage).countP (kind ·.stage) = s.tasks.countP (kind ·.stage) := by
    rintro kind ⟨hbefore, hafter⟩
    have hput := countP_putStage kind ht stage
    rwa [hbefore, hafter] at hput
  have hfind : ∀ (j : TaskId) u, (putStage s.tasks i stage)[j]? = some u →
      s.tasks[j]? = some u ∨ u.job = none ∧ u.stage = stage := by
    intro j u hu
    rw [getElem?_putStage] at hu
    split at hu
    · next heq =>
      subst heq
      rw [ht] at hu
      obtain rfl := Option.some.inj hu
      exact .inr ⟨hjob, rfl⟩
    · exact .inl hu
  exact {
    isAlive := h.isAlive
    staffed := by
      refine h.staffed.aside ht stage rfl rfl rfl (by rw [hstage]; rfl) ?_ ?_
        fun remaining heq => ?_
      · cases stage <;> first | rfl | cases hlive
      · rw [hrunning.1, hrunning.2]
        rfl
      · rw [heq] at hlive
        cases hlive
    tallied j := by
      -- nobody is told of a task without a body
      refine (h.tallied j).trans ?_
      rw [setStage_tasks, getElem?_putStage]
      split
      · next heq =>
        subst heq
        simp [ht, Task.notices, hjob, hstage]
      · rfl
    employed j u hu hsome := by
      rcases hfind j u hu with hold | ⟨hnone, -⟩
      · exact h.employed j u hold hsome
      · rw [hnone] at hsome
        cases hsome
    idle j u hu hnone := by
      rcases hfind j u hu with hold | ⟨-, heq⟩
      · exact h.idle j u hold hnone
      · exact heq ▸ hlive
    pending := h.pending.trans (hcount _ hpending).symm
    running := h.running.trans (hcount _ hrunning).symm }

/-- Every move keeps things in order. -/
theorem Sound.move (h : s.Sound) (hmove : move work i s env = some (s', env')) : s'.Sound := by
  obtain ⟨t, stage, ht, hcounts⟩ := counts_of_move hmove
  have hlive : t.stage.isLive = true ∧ (stage.isLive = true ∨ ∃ ending, stage = .ended ending) := by
    obtain ⟨u, stage', hu, htasks, hgoes⟩ := (moves_of_move hmove).1.goes
    obtain rfl : t = u := Option.some.inj (ht.symm.trans hu)
    rw [putStage_inj ht (hcounts.tasks.symm.trans htasks)]
    exact hgoes.isLive
  have hfind : ∀ (j : TaskId) u, s'.tasks[j]? = some u →
      s.tasks[j]? = some u ∨ u.job.isSome = true ∧ u.stage = stage := by
    intro j u hu
    rw [hcounts.tasks, getElem?_putStage] at hu
    split at hu
    · next heq =>
      subst heq
      have hjob := h.job_of_live ht hlive.1
      rw [ht] at hu
      obtain rfl := Option.some.inj hu
      exact .inr ⟨hjob, rfl⟩
    · exact .inl hu
  refine ⟨(moves_of_move hmove).2.1.trans h.isAlive, h.staffed.move hmove, h.tallied.move hmove,
    fun j u hu hsome => ?_, fun j u hu hnone => ?_, (h.pending_put ht hcounts).2,
    (h.running_put ht hcounts).2⟩
  · rcases hfind j u hu with hold | ⟨-, heq⟩
    · exact h.employed j u hold hsome
    · exact heq ▸ hlive.2
  · rcases hfind j u hu with hold | ⟨hsome, -⟩
    · exact h.idle j u hold hnone
    · rw [hnone] at hsome
      cases hsome

/-- Every event keeps things in order. -/
theorem Sound.step (h : p.1.Sound) (e : Event ι σ) : (step work p e).1.Sound := by
  have hadvances := advances_step work p e
  generalize Scheduler.step work p e = q at hadvances
  cases hadvances with
  | idles now env' =>
    exact ⟨h.isAlive, ⟨h.staffed.nodup, h.staffed.lined, h.staffed.manned, h.staffed.behind⟩,
      h.tallied, h.employed, h.idle, h.pending, h.running⟩
  | receives hreceives =>
    cases hreceives with
    | submits name gates job hasCallback =>
      have hpush := h.push (t := ⟨name, gates.toList, some job, hasCallback, .queued⟩) (.inl ⟨rfl, rfl⟩)
      unfold submit
      rw [if_pos h.isAlive]
      exact hpush
    | shuts =>
      exact ⟨h.isAlive, ⟨h.staffed.nodup, h.staffed.lined, h.staffed.manned, h.staffed.behind⟩,
        h.tallied, h.employed, h.idle, h.pending, h.running⟩
  | watches name => exact h.push (t := ⟨name, [], none, false, .external false⟩) (.inr ⟨rfl, rfl⟩)
  | reports ht hstage hlive => exact h.report ht hstage hlive
  | moves hmove => exact h.move hmove

/-- As long as there is no teardown, everything is in order. -/
theorem sound_after (work : Workload ι κ σ) (h : p.1.Sound) (events : List (Event ι σ)) :
    (after work p events).1.Sound :=
  List.foldlRecOn (motive := fun q : Scheduler ι κ × σ => q.1.Sound) events (Scheduler.step work) h
    fun _ h e _ => h.step e

theorem sound_operate (work : Workload ι κ σ) (name : String) (configured : Nat) (env : σ)
    (events : List (Event ι σ)) : (operate work name configured env events).1.Sound :=
  sound_after work (sound_new name configured) events

end Scheduler

end ServiceLifecycle

import Mathlib.Data.List.Chain
import ServiceLifecycle.Proofs.Run

/-!
# Every transition has one owner

As long as the scheduler is not torn down, a service is in transit exactly as long as
it observes a task, and that task is the only one of the service that has not finished.
So the end of a transition always takes effect, hooks of one service never overlap, and
the states that a service publishes follow each other as they should.

* **history** — each change publishes at most one state of a service, and one that may
  follow (`Owned.history_step`);
* **presence** — every task has come to its end or is still on its way (`Present`), unless it
  was let go of in a teardown (`Accounted`);
* **finish** — a transition goes on or ends together with its task (`Orderly.finish`);
* **ownership** — the whole of it, for every run (`Setup.transitions_exclusive`).
-/

namespace ServiceLifecycle

open Relation

/-- The states that may follow a state. -/
def ServiceState.next : ServiceState → List ServiceState
  | .disabled => [.enabling]
  | .enabling => [.enabled, .disabled]
  | .enabled => [.disabling]
  | .disabling => [.disabled, .enabled]

/-- What starts on its way up is down. -/
theorem ServiceState.eq_disabled_of_enabling {s : ServiceState} (h : .enabling ∈ s.next) :
    s = .disabled := by
  cases s <;> simp [next] at h ⊢

/-- The states of a service from its creation on, the latest first. -/
def Service.history (s : Service) : List ServiceState := s.state :: s.past

namespace Direction

theorem via_mem_next (d : Direction) : d.via ∈ d.origin.next := by
  cases d <;> simp [via, origin, ServiceState.next]

theorem goal_mem_next (d : Direction) : d.goal ∈ d.via.next := by
  cases d <;> simp [via, goal, ServiceState.next]

theorem origin_mem_next (d : Direction) : d.origin ∈ d.via.next := by
  cases d <;> simp [via, origin, ServiceState.next]

theorem via_notMem_next (d : Direction) : d.via ∉ d.via.next := by
  cases d <;> simp [via, ServiceState.next]

end Direction

namespace Scene

variable {S S' : Scene} {cause : Cause} {i : TaskId} {t : Task Job HookRun} {n : Incarnation}
  {d : Direction}

/-! ## History -/

/-- A change leaves the history of a service as it is, or adds a state that may follow. -/
theorem Owned.history_step (h : Owned S) (change : Change S cause S') (n : Incarnation) :
    (S'.service n).history = (S.service n).history ∨
      ∃ later ∈ (S.service n).state.next,
        (S'.service n).history = later :: (S.service n).history := by
  -- a change that puts one service
  have hput : ∀ {k : Incarnation} {s : Service},
      S'.service n = (if n = k then s else S.service n) →
      (s.history = (S.service k).history ∨
        ∃ later ∈ (S.service k).state.next, s.history = later :: (S.service k).history) →
      (S'.service n).history = (S.service n).history ∨
        ∃ later ∈ (S.service n).state.next,
          (S'.service n).history = later :: (S.service n).history := by
    intro k s hservice hs
    rw [hservice]
    split
    · next heq => exact heq ▸ hs
    · exact .inl rfl
  cases change with
  | appears id typeName descriptors behaviour isRegistered hnew =>
    left
    by_cases heq : n = S.size
    · rw [heq, service_appear_self, hnew]
      rfl
    · rw [service_appear_of_ne heq]
  | @edits k properties => exact hput (service_put S k n _) (.inl rfl)
  | @removes k => exact hput (service_put S k n _) (.inl rfl)
  | blames | sleeps => exact hput (service_put S _ n _) (.inl rfl)
  | shuts | stops | joins | advances | confirms | denies | drops => exact .inl rfl
  | @claims d k name gates _ horigin =>
    refine hput (service_put (S.push name gates _) k n _) (.inr ⟨d.via, ?_, rfl⟩)
    rw [horigin]
    exact d.via_mem_next
  | @concludes i t k entries state fault ending ht hconcludes =>
    obtain ⟨d, hjob, hlive, hresult⟩ := hconcludes.direction
    refine hput (service_put S k n _) (.inr ⟨state, ?_, rfl⟩)
    rw [(h.held i t d k ht hjob hlive).1]
    rcases hresult with ⟨-, rfl, -⟩ | ⟨-, rfl⟩
    · exact d.goal_mem_next
    · exact d.origin_mem_next

/-- Every state in the history of a service may follow the one before it, and the first is
that of a service that is down. -/
def Chronicled (S : Scene) : Prop :=
  ∀ n, (S.service n).history.IsChain (fun later earlier => later ∈ earlier.next) ∧
    (S.service n).history.getLast? = some .disabled

theorem Chronicled.step (h : Chronicled S) (howned : Owned S) (change : Change S cause S') :
    Chronicled S' := by
  intro n
  obtain ⟨hchain, hlast⟩ := h n
  rcases howned.history_step change n with heq | ⟨later, hlater, heq⟩
  · rw [heq]
    exact ⟨hchain, hlast⟩
  · rw [heq]
    refine ⟨List.IsChain.cons_cons hlater hchain, ?_⟩
    rw [Service.history, List.getLast?_cons_cons]
    exact hlast

/-! ## Presence -/

/-- Each task is on its way, or has ended, or was let go of once no turns were given any more. -/
def Accounted (S : Scene) : Prop :=
  ∀ i t, S.task? i = some t →
    t.stage.isLive = true ∨ (∃ ending, t.stage = .ended ending) ∨
      t.stage = .dropped false ∧ S.isAlive = false

/-- The teardown does not end. -/
theorem isAlive_of_change (hdead : S.isAlive = false) (change : Change S cause S') :
    S'.isAlive = false := by
  cases change with
  | stops => rfl
  | appears | edits | removes | blames | shuts | claims | joins | advances | sleeps | concludes
  | confirms | denies | drops => exact hdead

theorem Accounted.step (h : S.Accounted) (change : Change S cause S') : S'.Accounted := by
  have hstand : ∀ {T : Scene} {j : TaskId} {u : Task Job HookRun} {stage : Stage HookRun},
      T.task? = S.task? → T.isAlive = S.isAlive →
      (stage.isLive = true ∨ (∃ ending, stage = .ended ending) ∨
        stage = .dropped false ∧ S.isAlive = false) → (T.stand j u stage).Accounted := by
    intro T j u stage htask halive hstage i t ht
    rw [task?_stand] at ht
    show _ ∨ _ ∨ _ ∧ T.isAlive = false
    rw [halive]
    split at ht
    · obtain rfl := Option.some.inj ht
      exact hstage
    · exact h i t (htask ▸ ht)
  have hpush : ∀ (name : String) (gates : List TaskId) (job : Job),
      (S.push name gates job).Accounted := by
    intro name gates job i t ht
    rw [task?_push] at ht
    split at ht
    · obtain rfl := Option.some.inj ht
      show Stage.isLive (if S.isAlive then _ else _) = true ∨ _ ∨
        (if S.isAlive then _ else _) = _ ∧ S.isAlive = false
      cases S.isAlive with
      | true => exact .inl rfl
      | false => exact .inr (.inr ⟨rfl, rfl⟩)
    · exact h i t ht
  cases change with
  | appears | edits | removes | blames | shuts => exact h
  | stops => exact fun i t ht => (h i t ht).imp_right (Or.imp_right fun hdropped => ⟨hdropped.1, rfl⟩)
  | claims d name => exact hpush name _ _
  | joins n name => exact hpush name _ _
  | advances _ hadvances => exact hstand rfl rfl (.inl hadvances.unpassed.2.1)
  | sleeps => exact hstand rfl rfl (.inl rfl)
  | concludes | confirms | denies => exact hstand rfl rfl (.inr (.inl ⟨_, rfl⟩))
  | drops _ _ hdead => exact hstand rfl rfl (.inr (.inr ⟨rfl, hdead⟩))

/-- The scheduler is not being torn down, and every task has come to its end or has not. -/
structure Present (S : Scene) : Prop where
  isAlive : S.isAlive = true
  isPresent : ∀ i t, S.task? i = some t → t.stage.isLive = true ∨ ∃ ending, t.stage = .ended ending

theorem Present.isLive_of_open (h : Present S) (ht : S.task? i = some t)
    (hopen : t.isFinished = false) : t.stage.isLive = true := by
  refine (h.isPresent i t ht).resolve_right fun hended => ?_
  rw [Task.isFinished_iff.mpr hended] at hopen
  cases hopen

theorem Present.accounted (h : Present S) : S.Accounted :=
  fun i t ht => (h.isPresent i t ht).imp_right .inl

theorem Present.step (h : Present S) (hcause : cause ≠ .teardown) (change : Change S cause S') :
    Present S' := by
  have halive : S'.isAlive = true := by
    cases change with
    | stops => exact absurd rfl hcause
    | appears | edits | removes | blames | shuts | claims | joins | advances | sleeps | concludes
    | confirms | denies | drops => exact h.isAlive
  refine ⟨halive, fun i t ht => ?_⟩
  rcases h.accounted.step change i t ht with hlive | hended | ⟨-, hdead⟩
  · exact .inl hlive
  · exact .inr hended
  · rw [halive] at hdead
    cases hdead

/-- As long as there is no teardown, the task that a service in transit observes has not ended. -/
theorem Orderly.owner (h : Orderly S) (hpresent : Present S) (hvia : (S.service n).state = d.via) :
    ∃ i t, (S.service n).transition = some i ∧ S.task? i = some t ∧ t.job = some (d.job n) ∧
      t.stage.isLive = true := by
  obtain ⟨i, t, htransition, ht, hjob, hlive | ⟨started, hdropped⟩⟩ := h.owned.holds n d hvia
  · exact ⟨i, t, htransition, ht, hjob, hlive⟩
  · rcases hpresent.isPresent i t ht with hlive | ⟨ending, hended⟩
    · exact ⟨i, t, htransition, ht, hjob, hlive⟩
    · rw [hdropped] at hended
      cases hended

/-! ## Finish -/

/-- The transition of a task ends at the moment when the task does, unless this is let go of. -/
theorem Orderly.ended_or_dropped (h : Orderly S) (change : Change S cause S')
    (ht : S.task? i = some t) (hjob : t.job = some (d.job n)) (hlive : t.stage.isLive = true)
    {stage : Stage HookRun} (ht' : S'.task? i = some { t with stage })
    (hended : stage.isLive = false) :
    (cause = .task i ∧ (S'.service n).transition = none ∧ ∃ ending, stage = .ended ending ∧
      (S'.service n).history =
        (if ending = .completed then d.goal else d.origin) :: (S.service n).history) ∨
    stage = .dropped false ∧ S.isAlive = false := by
  have hsame : S'.task? i ≠ some t := by
    intro hsame
    obtain rfl : stage = t.stage := congrArg Task.stage (Option.some.inj (ht'.symm.trans hsame))
    rw [hlive] at hended
    cases hended
  have hstand : ∀ {T : Scene} {j : TaskId} {u : Task Job HookRun} {after : Stage HookRun},
      S' = T.stand j u after → T.task? = S.task? → S.task? j = some u →
      j = i ∧ u = t ∧ after = stage := by
    intro T j u after heq htask hu
    by_cases hij : j = i
    · subst hij
      obtain rfl : u = t := Option.some.inj (hu.symm.trans ht)
      rw [heq, task?_stand, if_pos rfl] at ht'
      exact ⟨rfl, rfl, congrArg Task.stage (Option.some.inj ht')⟩
    · refine absurd ?_ hsame
      rw [heq, task?_stand, if_neg (Ne.symm hij), htask]
      exact ht
  by_cases hcause : cause.IsRequest
  · exact absurd (h.gated.task_of_request hcause change ht) hsame
  cases change with
  | appears | edits | removes | blames | shuts | claims | joins => exact absurd trivial hcause
  | stops => exact absurd ht hsame
  | advances hu hadvances =>
    obtain ⟨rfl, rfl, rfl⟩ := hstand rfl rfl hu
    rw [hadvances.unpassed.2.1] at hended
    cases hended
  | sleeps hu =>
    obtain ⟨rfl, rfl, rfl⟩ := hstand rfl rfl hu
    cases hended
  | @concludes j u k entries state fault ending hu hconcludes =>
    obtain ⟨rfl, rfl, rfl⟩ := hstand rfl rfl hu
    obtain ⟨d', hjob', -, hresult⟩ := hconcludes.direction
    obtain ⟨rfl, rfl⟩ := Direction.job_inj.mp (Option.some.inj (hjob'.symm.trans hjob))
    have hservice := (service_put S k k (((S.service k).recordAll entries).settle state fault)).trans
      (if_pos rfl)
    refine .inl ⟨rfl, (congrArg Service.transition hservice).trans rfl, ending, rfl, ?_⟩
    refine (congrArg Service.history hservice).trans ?_
    rcases hresult with ⟨hend, rfl, -⟩ | ⟨hend, rfl⟩
    · rw [if_pos hend]
      rfl
    · rw [if_neg hend]
      rfl
  | confirms hu _ hconfirm =>
    obtain ⟨rfl, rfl, -⟩ := hstand rfl rfl hu
    exact absurd (Option.some.inj (hjob.symm.trans hconfirm)) Direction.job_ne_confirm
  | denies hu _ hconfirm =>
    obtain ⟨rfl, rfl, -⟩ := hstand rfl rfl hu
    exact absurd (Option.some.inj (hjob.symm.trans hconfirm)) Direction.job_ne_confirm
  | drops hu _ hdead =>
    obtain ⟨rfl, rfl, rfl⟩ := hstand rfl rfl hu
    exact .inr ⟨rfl, hdead⟩

/-- A transition goes on as long as its task has not ended, and ends with it. Only a task that is
let go of leaves its transition alone. -/
theorem Orderly.finish_or_drop (h : Orderly S) (change : Change S cause S')
    (ht : S.task? i = some t) (hjob : t.job = some (d.job n)) (hlive : t.stage.isLive = true) :
    ∃ stage, S'.task? i = some { t with stage } ∧
      (stage.isLive = true ∧ (S'.service n).history = (S.service n).history ∧
        (S'.service n).transition = some i ∨
       (cause = .task i ∧ (S'.service n).transition = none ∧ ∃ ending, stage = .ended ending ∧
        (S'.service n).history =
          (if ending = .completed then d.goal else d.origin) :: (S.service n).history) ∨
       stage = .dropped false ∧ S.isAlive = false) := by
  obtain ⟨stage, ht', -⟩ := (h.gated.continues change i).task ht
  refine ⟨stage, ht', ?_⟩
  by_cases hlive' : stage.isLive = true
  · left
    obtain ⟨hvia', htransition'⟩ := (h.step change).owned.held i _ d n ht' hjob hlive'
    refine ⟨hlive', ?_, htransition'⟩
    rcases h.owned.history_step change n with heq | ⟨later, hlater, heq⟩
    · exact heq
    · -- no state follows itself
      have hlater' : later = d.via := (List.cons.inj heq).1.symm.trans hvia'
      rw [(h.owned.held i t d n ht hjob hlive).1, hlater'] at hlater
      exact absurd hlater d.via_notMem_next
  · exact .inr (h.ended_or_dropped change ht hjob hlive ht' (Bool.not_eq_true _ ▸ hlive'))

/-- As long as there is no teardown, a transition goes on or ends together with its task. -/
theorem Orderly.finish (h : Orderly S) (hpresent : Present S) (change : Change S cause S')
    (ht : S.task? i = some t) (hjob : t.job = some (d.job n)) (hlive : t.stage.isLive = true) :
    ∃ stage, S'.task? i = some { t with stage } ∧
      (stage.isLive = true ∧ (S'.service n).history = (S.service n).history ∧
        (S'.service n).transition = some i ∨
       cause = .task i ∧ (S'.service n).transition = none ∧ ∃ ending, stage = .ended ending ∧
        (S'.service n).history =
          (if ending = .completed then d.goal else d.origin) :: (S.service n).history) := by
  obtain ⟨stage, ht', hgoes | hends | ⟨-, hdead⟩⟩ := h.finish_or_drop change ht hjob hlive
  · exact ⟨stage, ht', .inl hgoes⟩
  · exact ⟨stage, ht', .inr hends⟩
  · rw [hpresent.isAlive] at hdead
    cases hdead

/-- Requests neither end a transition nor begin another one of the same service. -/
theorem Orderly.goes_on (h : Orderly S) (hpresent : Present S)
    (changes : Changes Cause.IsRequest S S') (ht : S.task? i = some t)
    (hjob : t.job = some (d.job n)) (hlive : t.stage.isLive = true) :
    S'.task? i = some t ∧ (S'.service n).history = (S.service n).history ∧
      (S'.service n).transition = some i := by
  have hall : Orderly S' ∧ Present S' ∧ S'.task? i = some t ∧
      (S'.service n).history = (S.service n).history ∧ (S'.service n).transition = some i := by
    induction changes with
    | refl => exact ⟨h, hpresent, ht, rfl, (h.owned.held i t d n ht hjob hlive).2⟩
    | tail _ hstep ih =>
      obtain ⟨cause, hcause, change⟩ := hstep
      obtain ⟨h, hpresent, ht, hhistory, -⟩ := ih
      have hnot : cause ≠ .teardown := fun heq => by rw [heq] at hcause; exact hcause
      have ht' := h.gated.task_of_request hcause change ht
      obtain ⟨stage, hstage, ⟨-, hkept, htransition⟩ | ⟨rfl, -⟩⟩ :=
        h.finish hpresent change ht hjob hlive
      · exact ⟨h.step change, hpresent.step hnot change, ht', hkept.trans hhistory, htransition⟩
      · exact hcause.elim
  exact hall.2.2

/-- Only the task that a service observes writes down calls of its hooks. -/
theorem Orderly.transition_of_write (h : Orderly S) (change : Change S (.task i) S')
    (hwrites : (S'.service n).journal ≠ (S.service n).journal) :
    (S.service n).transition = some i := by
  have hput : ∀ {k : Incarnation} {s : Service} {u : Task Job HookRun} {d : Direction},
      S'.service n = (if n = k then s else S.service n) → S.task? i = some u →
      u.job = some (d.job k) → u.stage.isLive = true → (S.service n).transition = some i := by
    intro k s u d hservice hu hjob hlive
    split at hservice
    · next heq => exact heq ▸ (h.owned.held i u d k hu hjob hlive).2
    · exact absurd (congrArg Service.journal hservice) hwrites
  cases change with
  | advances | confirms | denies | drops => exact absurd rfl hwrites
  | sleeps hu hcalled =>
    exact hput (service_put S _ n _) hu hcalled.job (Stage.isLive_of_isFree hcalled.isFree)
  | concludes hu hconcludes =>
    obtain ⟨d, hjob, hlive, -⟩ := hconcludes.direction
    exact hput (service_put S _ n _) hu hjob hlive

end Scene

namespace Provider

/-- Whether task `i` is an unfinished enable or disable task of a service. -/
def Unfinished (p : Provider) (n : Incarnation) (i : TaskId) : Prop :=
  ∃ t, p.tasks.tasks[i]? = some t ∧ (t.job = some (.enable n) ∨ t.job = some (.disable n)) ∧
    t.isFinished = false

/-- Whether task `i` has a hook of a service under way. -/
def AtHook (p : Provider) (n : Incarnation) (i : TaskId) : Prop :=
  ∃ t, p.tasks.tasks[i]? = some t ∧
    ∃ wake run, t.stage = .running wake run ∧ run.service = n

/-- The end of a transition finds the service where the transition has put it, whichever way
it comes about. -/
structure EndsOnce (p : Provider) (n : Incarnation) (d : Direction) (t : Task Job HookRun) :
    Prop where
  /-- If the task is given up now, its end takes effect. -/
  now : ∀ target fault, (p.registry.complete n d.via target fault).1 = true
  /-- A turn of the body ends the transition once and tells nobody, or it leaves the transition
  alone. If the task has to be given up after that, its end takes effect. -/
  turn : ∀ turn r, t.turn? Registry.workload p.registry = some (turn, r) →
    (∃ ending later, turn.ending? = some ending ∧ ending.callbackReason? = none ∧
      (r.service n).history = later :: (p.service n).history) ∨
    (∀ ending, turn.ending? = some ending → ∃ reason, ending.callbackReason? = some reason) ∧
      (r.service n).history = (p.service n).history ∧
      ∀ target fault, (r.complete n d.via target fault).1 = true

/-- The transitions of a service are in the hands of one task each. -/
structure Exclusive (p : Provider) (n : Incarnation) : Prop where
  /-- The service is in transit if and only if it observes a task. -/
  transient : (p.service n).state.isTransient = true ↔ ∃ i, (p.service n).transition = some i
  /-- The observed task, and no other, is an unfinished task of the service. -/
  unfinished : ∀ i, p.Unfinished n i ↔ (p.service n).transition = some i
  /-- A service at rest has no unfinished task. -/
  resting : (p.service n).state = .disabled ∨ (p.service n).state = .enabled →
    ∀ i, ¬ p.Unfinished n i
  /-- The end of a transition always takes effect. -/
  ends : ∀ (i : TaskId) t (d : Direction), p.tasks.tasks[i]? = some t → t.job = some (d.job n) →
    t.isFinished = false → p.EndsOnce n d t
  /-- With an event the task either does not finish, and then no state is published, or it
  finishes, and then exactly one is. -/
  finishes : ∀ i e, p.Unfinished n i →
    (p.step e).Unfinished n i ∧ ((p.step e).service n).history = (p.service n).history ∨
    ¬ (p.step e).Unfinished n i ∧ ((p.step e).service n).transition = none ∧
      ∃ later, ((p.step e).service n).history = later :: (p.service n).history
  /-- A hook of the service is under way only in the observed task. -/
  hooks : ∀ i, p.AtHook n i → (p.service n).transition = some i
  /-- A call of a hook begins or returns only with a move of the observed task. -/
  calls : ∀ e, ((p.step e).service n).journal.filter JournalEntry.isCall ≠
      (p.service n).journal.filter JournalEntry.isCall →
    ∃ i, e = .move i ∧ (p.service n).transition = some i
  /-- The states follow each other as they should, beginning with one that is down. -/
  history : (p.service n).history.IsChain (fun later earlier => later ∈ earlier.next) ∧
    (p.service n).history.getLast? = some .disabled

variable {p : Provider} {n : Incarnation} {i : TaskId}

theorem unfinished_of_live {t : Task Job HookRun} {d : Direction} (ht : p.scene.task? i = some t)
    (hjob : t.job = some (d.job n)) (hlive : t.stage.isLive = true) : p.Unfinished n i := by
  refine ⟨t, ht, ?_, ?_⟩
  · cases d with
    | up => exact .inl hjob
    | down => exact .inr hjob
  · exact Task.isFinished_of_isLive hlive

theorem not_unfinished_of_ended {t : Task Job HookRun} {ending : Ending}
    (ht : p.scene.task? i = some t) (hstage : t.stage = .ended ending) : ¬ p.Unfinished n i := by
  rintro ⟨t', ht', -, hopen⟩
  obtain rfl : t = t' := Option.some.inj (ht.symm.trans ht')
  rw [Task.isFinished_iff.mpr ⟨ending, hstage⟩] at hopen
  cases hopen

theorem unfinished_iff (hpresent : p.scene.Present) :
    p.Unfinished n i ↔ ∃ t, ∃ d : Direction, p.scene.task? i = some t ∧
      t.job = some (d.job n) ∧ t.stage.isLive = true := by
  constructor
  · rintro ⟨t, ht, hjob, hopen⟩
    have hlive := hpresent.isLive_of_open ht hopen
    rcases hjob with hjob | hjob
    · exact ⟨t, .up, ht, hjob, hlive⟩
    · exact ⟨t, .down, ht, hjob, hlive⟩
  · rintro ⟨t, d, ht, hjob, hlive⟩
    exact unfinished_of_live ht hjob hlive

/-- The observed task is the only one of the service that has not finished. -/
theorem unfinished_iff_transition (h : p.scene.Orderly) (hpresent : p.scene.Present) :
    p.Unfinished n i ↔ (p.service n).transition = some i := by
  rw [unfinished_iff hpresent]
  constructor
  · rintro ⟨t, d, ht, hjob, hlive⟩
    exact (h.owned.held i t d n ht hjob hlive).2
  · intro htransition
    cases htransient : (p.scene.service n).state.isTransient with
    | false =>
      have hnone : (p.service n).transition = none := h.owned.rests n htransient
      rw [htransition] at hnone
      cases hnone
    | true =>
      obtain ⟨d, hvia⟩ := ServiceState.isTransient_iff.mp htransient
      obtain ⟨j, t, hj, ht, hjob, hlive⟩ := h.owner hpresent hvia
      obtain rfl : i = j := Option.some.inj (htransition.symm.trans hj)
      exact ⟨t, d, ht, hjob, hlive⟩

theorem complete_of_state {r : Registry} {source : ServiceState}
    (h : (r.service n).state = source) (target : ServiceState) (fault : Option Fault) :
    (r.complete n source target fault).1 = true := by
  unfold Registry.complete
  rw [if_pos h]

/-- The end of a transition takes effect. -/
theorem endsOnce (h : p.scene.Orderly) {t : Task Job HookRun} {d : Direction}
    (ht : p.scene.task? i = some t) (hjob : t.job = some (d.job n))
    (hlive : t.stage.isLive = true) : p.EndsOnce n d t := by
  have hvia : (p.service n).state = d.via := (h.owned.held i t d n ht hjob hlive).1
  refine ⟨complete_of_state hvia, fun turn r hturn => ?_⟩
  -- what the turn makes of the service, seen in the outline
  have hhistory : ∀ {o : Outline}, r.outline = o → (r.service n).history = (o.service n).history :=
    fun heq => congrArg (fun o : Outline => (o.service n).history) heq
  have hstays : ∀ {entries : List JournalEntry},
      r.outline = (p.registry.outline.record n entries).settle n none →
      (r.service n).history = (p.service n).history ∧
        ∀ target fault, (r.complete n d.via target fault).1 = true := by
    intro entries houtline
    have hsame : (r.service n).history = (p.service n).history := by
      rw [hhistory houtline, Outline.settle, Outline.record, Outline.service_put, if_pos rfl]
      rfl
    exact ⟨hsame, complete_of_state ((List.cons.inj hsame).1.trans hvia)⟩
  rcases turn_cases h ht hturn with ⟨m, -, hconfirm, -⟩ | ⟨m, reason, -, henable, -, rfl, houtline⟩ |
    ⟨m, purpose, before, after, ending, hcalled, hooked, houtline⟩
  · exact absurd (Option.some.inj (hjob.symm.trans hconfirm)) Direction.job_ne_confirm
  · obtain ⟨-, rfl⟩ := Direction.job_inj.mp (Option.some.inj (hjob.symm.trans henable))
    refine .inl ⟨_, .disabled, rfl, rfl, ?_⟩
    rw [hhistory houtline, Outline.settle, Outline.service_put, if_pos rfl]
    rfl
  · obtain ⟨-, rfl⟩ := Direction.job_inj.mp (Option.some.inj (hjob.symm.trans hcalled.job))
    rcases hooked.cases_turn with ⟨time, run, rfl, rfl⟩ | ⟨payload, rfl, rfl⟩ |
      ⟨state, fault, ending, rfl, hend, hnobody⟩
    · exact .inr ⟨fun _ hend => (by cases hend), hstays houtline⟩
    · refine .inr ⟨fun _ hend => ?_, hstays houtline⟩
      obtain rfl := Option.some.inj hend
      exact ⟨_, rfl⟩
    · refine .inl ⟨ending, state, hend, hnobody, ?_⟩
      rw [hhistory houtline, Outline.settle_record, Outline.service_put, if_pos rfl]
      rfl

/-- With an event a transition goes on and its task does not finish, or both end. -/
theorem Happens.finish {e : Event} {S S' : Scene} (h : S.Orderly) (hpresent : S.Present)
    (hhappens : Happens e S S') {t : Task Job HookRun} {d : Direction}
    (ht : S.task? i = some t) (hjob : t.job = some (d.job n)) (hlive : t.stage.isLive = true) :
    ∃ stage, S'.task? i = some { t with stage } ∧
      (stage.isLive = true ∧ (S'.service n).history = (S.service n).history ∨
       ∃ ending later, stage = .ended ending ∧ (S'.service n).transition = none ∧
        (S'.service n).history = later :: (S.service n).history) := by
  have hstill : ∀ {T : Scene}, T.task? i = some t → (T.service n).history = (S.service n).history →
      ∃ stage, T.task? i = some { t with stage } ∧
        (stage.isLive = true ∧ (T.service n).history = (S.service n).history ∨
         ∃ ending later, stage = .ended ending ∧ (T.service n).transition = none ∧
          (T.service n).history = later :: (S.service n).history) :=
    fun ht hhistory => ⟨t.stage, ht, .inl ⟨hlive, hhistory⟩⟩
  cases e with
  | request q =>
    obtain ⟨ht', hhistory, -⟩ := h.goes_on hpresent hhappens ht hjob hlive
    exact hstill ht' hhistory
  | move j | tear j =>
    cases hhappens with
    | refl => exact hstill ht rfl
    | single change =>
      obtain ⟨stage, ht', ⟨hlive', hhistory, -⟩ | ⟨-, htransition, ending, hend, hhistory⟩⟩ :=
        h.finish hpresent change ht hjob hlive
      · exact ⟨stage, ht', .inl ⟨hlive', hhistory⟩⟩
      · exact ⟨stage, ht', .inr ⟨ending, _, hend, htransition, hhistory⟩⟩
  | pass moment => exact hhappens ▸ hstill ht rfl
  | stop =>
    obtain ⟨stage, ht', ⟨hlive', hhistory, -⟩ | ⟨hcause, -⟩⟩ :=
      h.finish hpresent hhappens ht hjob hlive
    · exact ⟨stage, ht', .inl ⟨hlive', hhistory⟩⟩
    · cases hcause

/-- A call of a hook begins or returns only with a move of the observed task. -/
theorem transition_of_write (h : p.scene.Lawful) (halive : p.tasks.isAlive = true) {e : Event}
    (hwrites : ((p.step e).scene.service n).journal ≠ (p.scene.service n).journal) :
    ∃ i, e = .move i ∧ (p.service n).transition = some i := by
  have hhappens := happens_step h e
  cases e with
  | request q => exact absurd (Scene.journal_of_requests hhappens n) hwrites
  | move i =>
    refine ⟨i, rfl, ?_⟩
    generalize (p.step (.move i)).scene = T at hhappens hwrites
    cases hhappens with
    | refl => exact absurd rfl hwrites
    | single change => exact h.orderly.transition_of_write change hwrites
  | pass moment => exact absurd rfl hwrites
  | stop => exact absurd rfl hwrites
  | tear i =>
    rw [step_tear_of_alive halive] at hwrites
    exact absurd rfl hwrites

end Provider

/-- Only the beginning of the teardown is brought about by it. -/
theorem Event.ne_teardown {e : Event} (he : e ≠ .stop) {cause : Cause} (hcause : e.Causes cause) :
    cause ≠ .teardown := by
  rintro rfl
  cases e with
  | stop => exact he rfl
  | request | pass => exact hcause
  | move | tear => cases hcause

theorem Scene.Lawful.present_after {p : Provider} (h : p.scene.Lawful) (hpresent : p.scene.Present)
    {events : List Event} (hevents : ∀ e ∈ events, e ≠ .stop) : (p.after events).scene.Present :=
  h.keeps_after (K := (· ≠ .teardown)) hpresent (fun _ h hcause change => h.step hcause change)
    events fun e he _ hcause => Event.ne_teardown (hevents e he) hcause

namespace Setup

theorem present_provider (setup : Setup) : setup.provider.scene.Present := by
  refine ⟨rfl, fun i t ht => ?_⟩
  rw [setup.task?_provider] at ht
  cases ht

/-- As long as there is no teardown, every task has come to its end or is on its way. -/
theorem present_after (setup : Setup) {events : List Event} (hevents : ∀ e ∈ events, e ≠ .stop) :
    (setup.provider.after events).scene.Present :=
  setup.lawful_provider.present_after setup.present_provider hevents

theorem chronicled_provider (setup : Setup) : setup.provider.scene.Chronicled := by
  intro n
  rw [setup.service_provider]
  exact ⟨List.isChain_singleton _, rfl⟩

/-- The states of every service follow each other as they should, whatever the run. -/
theorem chronicled_after (setup : Setup) (events : List Event) :
    (setup.provider.after events).scene.Chronicled :=
  setup.invariant_after (K := fun _ => True) setup.chronicled_provider
    (fun hlaw h _ change => h.step hlaw.orderly.owned change) events fun _ _ _ _ => trivial

/-- As long as there is no teardown, the transitions of every service are in the hands of one
task each, whatever the run. -/
theorem transitions_exclusive (setup : Setup) (events : List Event)
    (hevents : ∀ e ∈ events, e ≠ .stop) (n : Incarnation) :
    (setup.provider.after events).Exclusive n := by
  generalize hp : setup.provider.after events = p
  have hlaw : p.scene.Lawful := hp ▸ setup.lawful_after events
  have hpresent : p.scene.Present := hp ▸ setup.present_after hevents
  have hchronicled : p.scene.Chronicled := hp ▸ setup.chronicled_after events
  have hunfinished : ∀ i, p.Unfinished n i ↔ (p.service n).transition = some i :=
    fun i => Provider.unfinished_iff_transition hlaw.orderly hpresent
  have hrests : (p.service n).state.isTransient = false → (p.service n).transition = none :=
    hlaw.orderly.owned.rests n
  refine ⟨⟨fun htransient => ?_, ?_⟩, hunfinished, ?_, ?_, ?_, ?_, ?_, hchronicled n⟩
  · obtain ⟨d, hvia⟩ := ServiceState.isTransient_iff.mp htransient
    obtain ⟨i, -, hi, -⟩ := hlaw.orderly.owned.holds n d hvia
    exact ⟨i, hi⟩
  · rintro ⟨i, hi⟩
    by_contra htransient
    rw [hrests (by simpa using htransient)] at hi
    cases hi
  · intro hstate i hi
    have htransient : (p.service n).state.isTransient = false := by
      rcases hstate with h | h <;> rw [h] <;> rfl
    have hnone := hrests htransient
    rw [(hunfinished i).mp hi] at hnone
    cases hnone
  · intro i t d ht hjob hopen
    have hlive := hpresent.isLive_of_open ht hopen
    exact Provider.endsOnce hlaw.orderly ht hjob hlive
  · intro i e hi
    obtain ⟨t, d, ht, hjob, hlive⟩ := (Provider.unfinished_iff hpresent).mp hi
    obtain ⟨stage, ht', ⟨hlive', hhistory⟩ | ⟨ending, later, hend, htransition, hhistory⟩⟩ :=
      (Provider.happens_step hlaw e).finish hlaw.orderly hpresent ht hjob hlive
    · exact .inl ⟨Provider.unfinished_of_live ht' hjob hlive', hhistory⟩
    · exact .inr ⟨Provider.not_unfinished_of_ended ht' hend, htransition, later, hhistory⟩
  · rintro i ⟨t, ht, wake, run, hstage, rfl⟩
    exact (hlaw.orderly.owned.held i t _ _ ht (hlaw.orderly.owned.matched i t wake run ht hstage)
      (by rw [hstage]; rfl)).2
  · exact fun e hwrites => Provider.transition_of_write hlaw hpresent.isAlive hwrites

/-- A run that ends while the second of two services is on its way up. -/
def risingRun : List Event :=
  [.request (.create "plain" ⟨"a"⟩ false), .request (.create "plain" ⟨"b"⟩ false),
    .request (.setProperty ⟨"b"⟩ "upstream" "a"), .request (.enable ⟨"a"⟩), .move 0, .move 0,
    .request (.enable ⟨"b"⟩), .move 1, .move 0]

theorem transitions_exclusive_rising :
    ((plain.provider.after risingRun).service 1).transition = some 2 ∧
      (plain.provider.after risingRun).Exclusive 1 :=
  ⟨by decide +kernel, transitions_exclusive plain risingRun (by simp [risingRun]) 1⟩

end Setup

end ServiceLifecycle

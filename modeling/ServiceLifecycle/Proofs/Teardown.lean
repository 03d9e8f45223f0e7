import ServiceLifecycle.Proofs.Callbacks
import ServiceLifecycle.Proofs.Ownership

/-!
# Teardown

When the scheduler is torn down, a task that has had a turn is aborted and its owner told, so
that its service goes back to where it was. But a task that has had none is let go of, and so is
every task submitted later: its owner never hears of it, and its service stays in transit.

* **tears** — what becomes of the tasks when they are torn down one after the other
  (`Provider.task?_tears`);
* **release** — a service whose task had a turn is back where it was (`Provider.back_of_tears`);
* **stillness** — after a teardown nothing happens to a task any more (`Scene.Still`);
* **tally** — owners are told what their tasks have come to, whatever happens
  (`Setup.tallied_after`);
* **aftermath** — what a teardown leaves behind for good (`Setup.aftermath`).
-/

namespace ServiceLifecycle

open Relation

namespace Provider

variable {p : Provider}

/-! ## Tears -/

/-- Once the teardown has begun, one task after the other is torn. -/
theorem task?_tear (hdead : p.tasks.isAlive = false) (i j : TaskId) :
    (p.step (.tear i)).tasks.isAlive = false ∧
      (p.step (.tear i)).tasks.tasks[j]? =
        if i = j then p.tasks.tasks[j]?.map Task.torn else p.tasks.tasks[j]? := by
  rw [step_tear hdead]
  exact ⟨(Scheduler.torn_of_tear Registry.workload i p.tasks p.registry).2.1.trans hdead,
    Scheduler.getElem?_tear Registry.isCalm_workload i j p.tasks p.registry⟩

theorem task?_tears (hdead : p.tasks.isAlive = false) (order : List TaskId) (j : TaskId) :
    (p.after (order.map .tear)).tasks.isAlive = false ∧
      (p.after (order.map .tear)).tasks.tasks[j]? =
        if j ∈ order then p.tasks.tasks[j]?.map Task.torn else p.tasks.tasks[j]? := by
  induction order generalizing p with
  | nil => exact ⟨hdead, by simp [after]⟩
  | cons i order ih =>
    obtain ⟨halive, htask⟩ := task?_tear hdead i j
    obtain ⟨hdead', htasks⟩ := ih halive
    refine ⟨hdead', htasks.trans ?_⟩
    rw [htask]
    -- to tear a task down twice is to tear it down once
    have htwice : ∀ t : Task Job HookRun, t.torn.torn = t.torn :=
      fun t => Task.torn_of_not_live t.isLive_torn
    by_cases hij : i = j
    · subst hij
      by_cases hin : i ∈ order <;> simp [hin, Function.comp_def, htwice]
    · by_cases hin : j ∈ order <;> simp [hin, hij, Ne.symm hij]

/-- A teardown of all tasks tears each of them. -/
theorem task?_teardown {order : List TaskId} (horder : ∀ i < p.tasks.tasks.size, i ∈ order)
    (i : TaskId) :
    (p.after (Event.teardown order)).tasks.isAlive = false ∧
      (p.after (Event.teardown order)).tasks.tasks[i]? = p.tasks.tasks[i]?.map Task.torn := by
  obtain ⟨hdead, htask⟩ := task?_tears (p := p.step .stop) rfl order i
  refine ⟨hdead, Eq.trans htask ?_⟩
  show (if i ∈ order then p.tasks.tasks[i]?.map _ else p.tasks.tasks[i]?) = _
  split
  · rfl
  · next hi =>
    rw [Array.getElem?_eq_none (Nat.le_of_not_lt fun hlt => hi (horder i hlt))]
    rfl

end Provider

namespace Scene

variable {S S' T : Scene} {cause : Cause} {n : Incarnation} {i : TaskId}

/-! ## Release -/

/-- A task leaves a service alone that is not in transit. -/
theorem Owned.state_of_rest (h : Owned S) (change : Change S (.task i) S')
    (hrest : (S.service n).state.isTransient = false) :
    (S'.service n).state = (S.service n).state := by
  have hput : ∀ {k : Incarnation} {s : Service}, S'.service n = (if n = k then s else S.service n) →
      (n = k → s.state = (S.service n).state) → (S'.service n).state = (S.service n).state := by
    intro k s hservice hs
    rw [hservice]
    split
    · next heq => exact hs heq
    · rfl
  cases change with
  | advances | confirms | denies | drops => rfl
  | sleeps => exact hput (service_put S _ n _) fun heq => heq ▸ rfl
  | concludes ht hconcludes =>
    obtain ⟨d, hjob, hlive, -⟩ := hconcludes.direction
    refine hput (service_put S _ n _) fun heq => ?_
    rw [heq, (h.held i _ d _ ht hjob hlive).1, d.isTransient_via] at hrest
    cases hrest

/-! ## Stillness -/

/-- Since `S` no turns have been given, and every task is what it was then or was let go of. -/
structure Still (S T : Scene) : Prop where
  isDead : T.isAlive = false
  kept : ∀ i t, S.task? i = some t → T.task? i = some t
  news : ∀ i t, T.task? i = some t → S.task? i = some t ∨ t.stage = .dropped false

/-- Where nothing was on its way, nothing is. -/
theorem Still.rest (h : Still S T) (hrest : ∀ i t, S.task? i = some t → t.stage.isLive = false) :
    ∀ i t, T.task? i = some t → t.stage.isLive = false := by
  intro i t ht
  rcases h.news i t ht with hold | hdropped
  · exact hrest i t hold
  · rw [hdropped]
    rfl

/-- Where nothing is on its way any more, nothing happens to a task. -/
theorem Still.step (hrest : ∀ i t, S.task? i = some t → t.stage.isLive = false) (h : Still S T)
    (hgated : Gated T) (change : Change T cause S') : Still S S' := by
  have hlive := h.rest hrest
  refine ⟨isAlive_of_change h.isDead change, fun i t ht => ?_, fun i t ht => ?_⟩
  · obtain ⟨stage, ht', hkeep⟩ := (hgated.continues change i).task (h.kept i t ht)
    rw [hkeep (hrest i t ht)] at ht'
    exact ht'
  · rcases hgated.continues change i with heq | ⟨u, stage, hu, hulive, -⟩ | ⟨-, -, name, gates, job, hnew⟩
    · exact h.news i t (heq ▸ ht)
    · rw [hlive i u hu] at hulive
      cases hulive
    · obtain rfl := Option.some.inj (hnew.symm.trans ht)
      right
      show (if T.isAlive then _ else _) = _
      rw [h.isDead]
      rfl

end Scene

namespace Provider

variable {p : Provider} {n : Incarnation} {d : Direction} {i : TaskId} {t : Task Job HookRun}

/-- The teardown of a task that has had a turn takes its service back to where it was. -/
theorem back_of_tear (h : p.scene.Lawful) (hdead : p.tasks.isAlive = false)
    (ht : p.tasks.tasks[i]? = some t) (hjob : t.job = some (d.job n))
    (hlive : t.stage.isLive = true) (hturn : t.stage ≠ .queued) :
    ((p.step (.tear i)).service n).state = d.origin := by
  have htorn : (p.step (.tear i)).tasks.tasks[i]? = some t.torn := by
    rw [(task?_tear hdead i i).2, if_pos rfl, ht]
    rfl
  have hstage := Task.stage_torn hlive hturn
  have hhappens : Relation.ReflGen (fun S => Change S (.task i)) p.scene (p.step (.tear i)).scene :=
    happens_step h (.tear i)
  replace htorn : (p.step (.tear i)).scene.task? i = some t.torn := htorn
  show ((p.step (.tear i)).scene.service n).state = _
  generalize (p.step (.tear i)).scene = S at hhappens htorn
  cases hhappens with
  | refl =>
    -- a task that is torn is not what it was
    have hsame : t = t.torn := Option.some.inj (ht.symm.trans htorn)
    have hended := t.isLive_torn
    rw [← hsame, hlive] at hended
    cases hended
  | single change =>
    obtain ⟨stage, ht', hcases⟩ := h.orderly.finish_or_drop change ht hjob hlive
    obtain rfl : t.torn.stage = stage := congrArg Task.stage (Option.some.inj (htorn.symm.trans ht'))
    rw [hstage] at hcases
    rcases hcases with ⟨hlive', -⟩ | ⟨-, -, ending, hend, hhistory⟩ | ⟨hdropped, -⟩
    · cases hlive'
    · obtain rfl := Stage.ended.inj hend
      exact (List.cons.inj hhistory).1
    · cases hdropped

/-- What is not in transit stays where it is while tasks are torn down. -/
theorem rest_of_tears (h : p.scene.Lawful) (hrest : (p.service n).state.isTransient = false)
    (order : List TaskId) :
    ((p.after (order.map .tear)).service n).state = (p.service n).state := by
  induction order generalizing p with
  | nil => rfl
  | cons i order ih =>
    have hhappens : Relation.ReflGen (fun S => Change S (.task i)) p.scene
        (p.step (.tear i)).scene := happens_step h (.tear i)
    have hstate : ((p.step (.tear i)).service n).state = (p.service n).state := by
      show ((p.step (.tear i)).scene.service n).state = _
      generalize (p.step (.tear i)).scene = S at hhappens
      cases hhappens with
      | refl => rfl
      | single change => exact h.orderly.owned.state_of_rest change hrest
    exact (ih (h.changes (happens_step h (.tear i)).changes) (hstate ▸ hrest)).trans hstate

/-- While tasks are torn down, a service whose task has had a turn gets back to where it was. -/
theorem back_of_tears (h : p.scene.Lawful) (hdead : p.tasks.isAlive = false)
    (ht : p.tasks.tasks[i]? = some t) (hjob : t.job = some (d.job n))
    (hlive : t.stage.isLive = true) (hturn : t.stage ≠ .queued) {order : List TaskId}
    (hi : i ∈ order) : ((p.after (order.map .tear)).service n).state = d.origin := by
  induction order generalizing p with
  | nil => cases hi
  | cons j order ih =>
    have h' := h.changes (happens_step h (.tear j)).changes
    obtain ⟨hdead', htask⟩ := task?_tear hdead j i
    by_cases hji : j = i
    · subst hji
      have hback := back_of_tear h hdead ht hjob hlive hturn
      refine (rest_of_tears h' ?_ order).trans hback
      rw [hback, d.isTransient_origin]
    · rw [if_neg hji] at htask
      exact ih h' hdead' (htask.trans ht) ((List.mem_cons.mp hi).resolve_left (Ne.symm hji))

end Provider

/-! ## Tally -/

namespace Provider

variable {p : Provider}

/-- Every event keeps the tally of the callbacks. -/
theorem tallied_step (h : p.tasks.Tallied) (e : Event) : (p.step e).tasks.Tallied := by
  cases e with
  | request q => exact (assigns_perform undisturbed_assigns q p).keeps h fun h => h.receives
  | move i =>
    show ((Scheduler.move Registry.workload i p.tasks p.registry).elim p p.withParts).tasks.Tallied
    cases hmove : Scheduler.move Registry.workload i p.tasks p.registry with
    | none => exact h
    | some parts => exact h.move hmove
  | pass | stop => exact h
  | tear i =>
    show (if p.tasks.isAlive then p else p.withParts _).tasks.Tallied
    split
    · exact h
    · exact h.tear Registry.isCalm_workload i p.registry

theorem tallied_after (h : p.tasks.Tallied) (events : List Event) :
    (p.after events).tasks.Tallied :=
  List.foldlRecOn (motive := fun q : Provider => q.tasks.Tallied) events step h
    fun _ h e _ => tallied_step h e

theorem accounted_after (h : p.scene.Lawful) (haccounted : p.scene.Accounted)
    (events : List Event) : (p.after events).scene.Accounted :=
  h.keeps_after (K := fun _ => True) haccounted (fun _ h _ change => h.step change) events
    fun _ _ _ _ => trivial

/-- Once nothing is on its way any more, nothing happens to a task. -/
theorem still_after (h : p.scene.Lawful) (hdead : p.tasks.isAlive = false)
    (hrest : ∀ i t, p.scene.task? i = some t → t.stage.isLive = false) (later : List Event) :
    p.scene.Still (p.after later).scene :=
  h.keeps_after (K := fun _ => True) ⟨hdead, fun _ _ ht => ht, fun _ _ ht => .inl ht⟩
    (fun hlaw h _ change => h.step hrest hlaw.orderly.gated change) later fun _ _ _ _ => trivial

end Provider

/-- After every run owners have been told what their tasks have come to. -/
theorem Setup.tallied_after (setup : Setup) (events : List Event) :
    (setup.provider.after events).tasks.Tallied :=
  Provider.tallied_after (p := setup.provider)
    (Scheduler.tallied_new setup.name setup.workers) events

/-- After every run each task is on its way, has ended, or was let go of in a teardown. -/
theorem Setup.accounted_after (setup : Setup) (events : List Event) :
    (setup.provider.after events).scene.Accounted := by
  refine Provider.accounted_after setup.lawful_provider (fun i t ht => ?_) events
  rw [setup.task?_provider] at ht
  cases ht

/-! ## Aftermath -/

/-- Whether the task has never had a turn. -/
def Stage.isUntouched {κ : Type} : Stage κ → Bool
  | .queued | .dropped false => true
  | .gated _ | .waiting | .running _ _ | .ended _ | .external _ | .dropped true => false

theorem Task.torn_of_untouched {ι κ : Type} {t : Task ι κ} (h : t.stage.isUntouched = true) :
    t.torn.stage = .dropped false := by
  unfold Stage.isUntouched at h
  unfold torn
  split at h <;> simp_all

/-- A task that is let go of before its first turn looks as if it were yet to come. -/
theorem Task.dropped_silent {ι κ : Type} {t : Task ι κ} (h : t.stage = .dropped false) :
    t.status = .pending ∧ t.notices = [] := by
  unfold status notices
  rw [h]
  exact ⟨rfl, rfl⟩

/-- A task that has had a turn and has not ended is aborted, and its owner told so. -/
theorem Task.torn_notifies {ι κ : Type} {t : Task ι κ} {job : ι} (hlive : t.stage.isLive = true)
    (hturn : t.stage ≠ .queued) (hjob : t.job = some job) :
    t.torn.status = .finished (.aborted t.droppedReason) ∧
      t.torn.notices = if t.hasCallback then [t.droppedReason] else [] := by
  have hstage := stage_torn hlive hturn
  unfold status notices
  rw [hstage, show t.torn.job = some job from hjob, show t.torn.hasCallback = t.hasCallback from rfl]
  cases t.hasCallback <;> exact ⟨rfl, rfl⟩

/-- A task that has had a turn is on its way, as long as it has not ended. -/
theorem Scene.Accounted.on_its_way {S : Scene} (h : S.Accounted) {i : TaskId}
    {t : Task Job HookRun} (ht : S.task? i = some t) (hunfinished : t.isFinished = false)
    (htouched : t.stage.isUntouched = false) : t.stage.isLive = true ∧ t.stage ≠ .queued := by
  rcases h i t ht with hlive | ⟨ending, hended⟩ | ⟨hdropped, -⟩
  · refine ⟨hlive, fun hqueued => ?_⟩
    rw [hqueued] at htouched
    cases htouched
  · rw [Task.isFinished_iff.mpr ⟨ending, hended⟩] at hunfinished
    cases hunfinished
  · rw [hdropped] at htouched
    cases htouched

/-- Where no task is on its way, a service is in transit exactly as long as it observes a task
that was let go of. -/
theorem Scene.Orderly.stranded {S : Scene} (h : S.Orderly) (haccounted : S.Accounted)
    (hrest : ∀ i t, S.task? i = some t → t.stage.isLive = false) (n : Incarnation) :
    (S.service n).state.isTransient = true ↔
      ∃ i t, (S.service n).transition = some i ∧ S.task? i = some t ∧ t.status = .pending := by
  constructor
  · intro htransient
    obtain ⟨d, hvia⟩ := ServiceState.isTransient_iff.mp htransient
    obtain ⟨i, t, htransition, ht, -, hopen⟩ := h.owned.not_ended hvia
    refine ⟨i, t, htransition, ht, ?_⟩
    rcases haccounted i t ht with hlive | ⟨ending, hended⟩ | ⟨hdropped, -⟩
    · rw [hrest i t ht] at hlive
      cases hlive
    · exact absurd hended (hopen ending)
    · exact (Task.dropped_silent hdropped).1
  · rintro ⟨i, t, htransition, -⟩
    by_contra hrests
    rw [h.owned.rests n (Bool.not_eq_true _ ▸ hrests)] at htransition
    cases htransition

/-- What a teardown that led from `p` to `r` has come to in `q`, which is `r` or comes later. -/
structure Provider.Aftermath (p r q : Provider) : Prop where
  /-- What had finished is as it was, and nobody is told anything more. -/
  finished : ∀ (i : TaskId) t, p.tasks.tasks[i]? = some t → t.isFinished = true →
    q.tasks.tasks[i]? = some t ∧ q.tasks.notices i = p.tasks.notices i
  /-- A task that had had a turn is aborted, and whoever is to be told so has been told once. -/
  aborted : ∀ (i : TaskId) t, p.tasks.tasks[i]? = some t → t.isFinished = false →
    t.stage.isUntouched = false →
    (∃ t', q.tasks.tasks[i]? = some t' ∧ t'.status = .finished (.aborted t.droppedReason)) ∧
      q.tasks.notices i = if t.hasCallback then [t.droppedReason] else []
  /-- Its service, if it was on the way up or down, is back where it was. -/
  released : ∀ (i : TaskId) t (d : Direction) n, p.tasks.tasks[i]? = some t →
    t.isFinished = false → t.stage.isUntouched = false → t.job = some (d.job n) →
    (r.service n).state = d.origin
  /-- A task that had had no turn, or was submitted since, is pending, and nobody is told. -/
  lost : ∀ (i : TaskId) t', q.tasks.tasks[i]? = some t' →
    (∀ t, p.tasks.tasks[i]? = some t → t.stage.isUntouched = true) →
    t'.status = .pending ∧ q.tasks.notices i = []
  /-- A service is in transit exactly as long as it observes a task, which is one of these. -/
  stranded : ∀ n, (q.service n).state.isTransient = true ↔ ∃ (i : TaskId) (t : Task Job HookRun),
    (q.service n).transition = some i ∧ q.tasks.tasks[i]? = some t ∧ t.status = .pending

namespace Provider

variable {p : Provider} {order : List TaskId} {i : TaskId} {t : Task Job HookRun}

/-- After the teardown no task is on its way. -/
theorem rest_after_teardown (horder : ∀ i < p.tasks.tasks.size, i ∈ order) :
    ∀ i t, (p.after (Event.teardown order)).scene.task? i = some t → t.stage.isLive = false := by
  intro i t ht
  obtain ⟨u, -, rfl⟩ := Option.map_eq_some_iff.mp ((task?_teardown horder i).2.symm.trans ht)
  exact u.isLive_torn

/-- Whatever happens after the teardown, a task that was there before it is torn. -/
theorem task?_after_teardown (h : p.scene.Lawful) (horder : ∀ i < p.tasks.tasks.size, i ∈ order)
    (later : List Event) (ht : p.tasks.tasks[i]? = some t) :
    ((p.after (Event.teardown order)).after later).tasks.tasks[i]? = some t.torn := by
  have hstill := still_after (h.after (Event.teardown order)) (task?_teardown horder 0).1
    (rest_after_teardown horder) later
  refine hstill.kept i t.torn ((task?_teardown horder i).2.trans ?_)
  rw [ht]
  rfl

/-- A task that had had no turn before the teardown, or came later, is let go of. -/
theorem dropped_after_teardown (h : p.scene.Lawful) (horder : ∀ i < p.tasks.tasks.size, i ∈ order)
    (later : List Event)
    (ht : ((p.after (Event.teardown order)).after later).tasks.tasks[i]? = some t)
    (huntouched : ∀ u, p.tasks.tasks[i]? = some u → u.stage.isUntouched = true) :
    t.stage = .dropped false := by
  have hstill := still_after (h.after (Event.teardown order)) (task?_teardown horder 0).1
    (rest_after_teardown horder) later
  rcases hstill.news i t ht with hold | hdropped
  · obtain ⟨u, hu, rfl⟩ := Option.map_eq_some_iff.mp ((task?_teardown horder i).2.symm.trans hold)
    exact Task.torn_of_untouched (huntouched u hu)
  · exact hdropped

/-- After the teardown a service is in transit exactly as long as it observes a task that was
let go of. -/
theorem stranded_after_teardown (h : p.scene.Lawful) (haccounted : p.scene.Accounted)
    (horder : ∀ i < p.tasks.tasks.size, i ∈ order) (later : List Event) (n : Incarnation) :
    let q := (p.after (Event.teardown order)).after later
    (q.service n).state.isTransient = true ↔ ∃ (i : TaskId) (t : Task Job HookRun),
      (q.service n).transition = some i ∧ q.tasks.tasks[i]? = some t ∧ t.status = .pending := by
  have hlaw := h.after (Event.teardown order)
  have hrest := rest_after_teardown horder
  have hstill := still_after hlaw (task?_teardown horder 0).1 hrest later
  exact (hlaw.after later).orderly.stranded
    (accounted_after hlaw (accounted_after h haccounted _) later) (hstill.rest hrest) n

end Provider

namespace Setup

/-- Whatever happened before the teardown and whatever happens after it, every task that had had
a turn is aborted, and every task that had had none or comes later is lost. -/
theorem aftermath (setup : Setup) (events : List Event) (order : List TaskId) (later : List Event)
    (horder : ∀ i < (setup.provider.after events).tasks.tasks.size, i ∈ order) :
    (setup.provider.after events).Aftermath
      ((setup.provider.after events).after (Event.teardown order))
      (((setup.provider.after events).after (Event.teardown order)).after later) := by
  have hlaw := setup.lawful_after events
  have haccounted := setup.accounted_after events
  have htallied := setup.tallied_after events
  generalize setup.provider.after events = p at *
  have htallied' := Provider.tallied_after
    (Provider.tallied_after htallied (Event.teardown order)) later
  refine ⟨?finished, ?aborted, ?released, ?lost,
    Provider.stranded_after_teardown hlaw haccounted horder later⟩
  case finished =>
    intro i t ht hfinished
    have hended : t.stage.isLive = false := Task.isLive_of_isFinished hfinished
    have ht' := Provider.task?_after_teardown hlaw horder later ht
    rw [Task.torn_of_not_live hended] at ht'
    refine ⟨ht', ?_⟩
    rw [htallied' i, htallied i, ht', ht]
  case aborted =>
    intro i t ht hunfinished htouched
    obtain ⟨hlive, hturn⟩ := haccounted.on_its_way ht hunfinished htouched
    obtain ⟨job, hjob, -⟩ := hlaw.orderly.gated.employed i t ht
    obtain ⟨hstatus, hnotices⟩ := Task.torn_notifies hlive hturn hjob
    have ht' := Provider.task?_after_teardown hlaw horder later ht
    refine ⟨⟨t.torn, ht', hstatus⟩, ?_⟩
    rw [htallied' i, ht']
    exact hnotices
  case released =>
    intro i t d n ht hunfinished htouched hjob
    obtain ⟨hlive, hturn⟩ := haccounted.on_its_way ht hunfinished htouched
    have hi : i ∈ order := horder i (Array.getElem?_eq_some_iff.mp ht).1
    have hstopped := hlaw.changes (Provider.happens_step hlaw .stop).changes
    exact Provider.back_of_tears (p := p.step .stop) hstopped rfl ht hjob hlive hturn hi
  case lost =>
    intro i t ht huntouched
    have hdropped := Provider.dropped_after_teardown hlaw horder later ht huntouched
    obtain ⟨hstatus, hnotices⟩ := Task.dropped_silent hdropped
    refine ⟨hstatus, ?_⟩
    rw [htallied' i, ht]
    exact hnotices

/-- With a single worker, one service is up, a slow one is at its hook, the next waits for the
worker, and the task of the last has not had a turn yet. -/
def unfinishedRun : List Event :=
  [.request (.create "mock.Passthrough" ⟨"f"⟩ false), .request (.create "mock.Slow" ⟨"s"⟩ false),
    .request (.create "mock.Passthrough" ⟨"a"⟩ false),
    .request (.create "mock.Passthrough" ⟨"b"⟩ false), .request (.enable ⟨"f"⟩)] ++
    Event.rounds 1 4 ++ [.request (.enable ⟨"s"⟩), .request (.enable ⟨"a"⟩)] ++
    Event.rounds 3 4 ++ [.request (.enable ⟨"b"⟩)]

theorem aftermath_unfinished :
    let p := mock.provider.after unfinishedRun
    let r := p.after (Event.teardown [3, 1, 0, 2])
    let q := r.after [.request (.disable ⟨"f"⟩), .move 4]
    (p.service 0).state = .enabled ∧ (q.service 0).state = .disabling ∧
      (∀ n < 2, (q.service (n + 1)).state = .disabled) ∧ (q.service 3).state = .enabling ∧
      (∀ i < 5, q.tasks.notices i =
        if i = 1 then ["task enable s was dropped before finishing"]
        else if i = 2 then ["task enable a was dropped before finishing"] else []) ∧
      p.Aftermath r q :=
  ⟨by decide +kernel, by decide +kernel, by decide +kernel, by decide +kernel, by decide +kernel,
    aftermath mock unfinishedRun [3, 1, 0, 2] [.request (.disable ⟨"f"⟩), .move 4]
      (by decide +kernel)⟩

/-- A service whose task has not had a turn before the teardown is not released by it. -/
theorem unturned_stranded :
    ¬ ∀ (setup : Setup) (events : List Event) (order : List TaskId),
      (∀ i < (setup.provider.after events).tasks.tasks.size, i ∈ order) →
      let q := (setup.provider.after events).after (Event.teardown order)
      (∀ t ∈ q.tasks.tasks, t.isFinished = true) ∧ ∀ n, (q.service n).state.isTransient = false :=
  fun h =>
    absurd ((h mock [.request (.create "mock.Passthrough" ⟨"a"⟩ false), .request (.enable ⟨"a"⟩)]
      [0] (by decide +kernel)).2 0) (by decide +kernel)

end Setup

end ServiceLifecycle

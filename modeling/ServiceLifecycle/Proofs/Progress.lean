import ServiceLifecycle.Proofs.Orderly

/-!
# Moves and teardowns as changes

Where names, gates and owners are in order, every move of a task is one change of the
scene, and so is the teardown of a task. The body of a task finds its service where it
expects it, so each end of a transition takes effect.

* **turn** — what a body does with a turn (`turn_cases`);
* **move** — every move is a change (`change_of_moves`);
* **teardown** — so is every teardown, once it has begun (`change_of_torn`).
-/

namespace ServiceLifecycle

open Registry

/-- Every hook sleeps, panics, or ends its transition without anybody having to be told. -/
theorem Hooked.cases_turn {cleansUp : Bool} {n : Incarnation} {purpose : Purpose} {entries : List JournalEntry}
    {turn : Turn HookRun} {ending : Option (ServiceState × Option Fault)}
    (h : Hooked cleansUp n purpose entries turn ending) :
    (∃ time run, turn = .sleeps time run ∧ ending = none) ∨
    (∃ payload, turn = .panics payload ∧ ending = none) ∨
    ∃ state fault e, ending = some (state, fault) ∧ turn.ending? = some e ∧
      e.callbackReason? = none := by
  induction h with
  | sleeps => exact .inl ⟨_, _, rfl, rfl⟩
  | panics => exact .inr (.inl ⟨_, rfl, rfl⟩)
  | activated | failed | cleaned | deactivated => exact .inr (.inr ⟨_, _, _, rfl, rfl, rfl⟩)
  | cleans _ _ _ _ ih => exact ih

namespace Outline

theorem giveUp_job (o : Outline) (reason : String) (d : Direction) (n : Incarnation) :
    o.giveUp reason (d.job n) = o.settle n (some (d.origin, some ⟨.aborted, reason⟩)) := by
  cases d <;> rfl

theorem settle_record (o : Outline) (n : Incarnation) (entries : List JournalEntry)
    (state : ServiceState) (fault : Option Fault) :
    (o.record n entries).settle n (some (state, fault)) =
      o.put n (((o.service n).recordAll entries).settle state fault) := by
  simp only [settle, record, put_put, service_put, if_true]

end Outline

theorem Service.recordAll_nil (s : Service) : s.recordAll [] = s := rfl

namespace Provider

open Scene

variable {r r' : Registry} {s : Scheduler Job HookRun} {i : TaskId} {t : Task Job HookRun}

/-- The scene after a task was put at a stage and the registry has changed. -/
theorem sceneOf_putStage (ht : s.tasks[i]? = some t) (stage : Stage HookRun) :
    sceneOf r' { s with tasks := putStage s.tasks i stage } =
      Scene.stand { sceneOf r s with toOutline := r'.outline } i t stage := by
  unfold sceneOf Scene.stand
  simp only [size_putStage, Scene.mk.injEq, true_and, and_true]
  funext j
  rw [getElem?_putStage, Function.update_apply]
  by_cases h : j = i
  · subst h
    simp [ht]
  · rw [if_neg (Ne.symm h), if_neg h]

theorem outline_told {job : Job} {ending : Ending} (hjob : t.job = some job)
    (hcallback : t.hasCallback = job.hasCallback)
    (hunderway : ∀ reason, ending.callbackReason? = some reason → job.Underway r.outline) :
    (Scheduler.told workload t ending r).outline =
      match ending.callbackReason? with
      | none => r.outline
      | some reason => r.outline.giveUp reason job := by
  unfold Scheduler.told
  rw [hjob, hcallback]
  cases hreason : ending.callbackReason? with
  | none => cases job <;> rfl
  | some reason =>
    cases job with
    | confirm n => rfl
    | enable n | disable n => exact outline_giveUpJob reason (hunderway reason hreason)

theorem outline_remarked (t : Task Job HookRun) (ending : Ending) (r : Registry) :
    (Scheduler.remarked workload t ending r).outline = r.outline := by
  unfold Scheduler.remarked
  cases Scheduler.endRemark t.name ending <;> rfl

theorem underway_of_job {o : Outline} {d : Direction} {n : Incarnation}
    (h : (o.service n).state = d.via) : (d.job n).Underway o := by
  cases d <;> exact h

/-- What a task can do with a turn: see whether its service is up, find that its service
cannot come up, or call a hook or go on with one. -/
theorem turn_cases (h : Orderly (sceneOf r s)) (ht : s.tasks[i]? = some t) {turn : Turn HookRun}
    (hturn : t.turn? workload r = some (turn, r')) :
    (∃ n, t.stage = .waiting ∧ t.job = some (.confirm n) ∧ r' = r ∧
      ((r.outline.service n).state = .enabled ∧ turn = .returns ∨
       (r.outline.service n).state ≠ .enabled ∧ ∃ text, turn = .fails text)) ∨
    (∃ n reason, t.stage = .waiting ∧ t.job = some (Direction.up.job n) ∧
      ¬ (sceneOf r s).Ready n ∧ turn = .fails reason ∧
      r'.outline = r.outline.settle n (some (.disabled, some ⟨.activation, reason⟩))) ∨
    ∃ n purpose before after ending, (sceneOf r s).Called t n purpose before ∧
      Hooked r.outline.cleansUp n purpose after turn ending ∧
      r'.outline = (r.outline.record n (after ++ before)).settle n ending := by
  have hstate : ∀ (d : Direction) n, t.job = some (d.job n) → t.stage.isLive = true →
      (r.service n).state = d.via := fun d n hjob hlive => (h.owned.held i t d n ht hjob hlive).1
  unfold Task.turn? at hturn
  split at hturn
  · next job hstage hjob =>
    have hlive : t.stage.isLive = true := by rw [hstage]; rfl
    obtain ⟨rfl, rfl⟩ := Prod.mk.inj (Option.some.inj hturn)
    cases job with
    | enable n =>
      have hready : (sceneOf r s).Ready n ↔
          ∀ y ∈ (r.service n).references, r.stateOf? y = some .enabled := by
        refine forall₂_congr fun y _ => ?_
        rw [← outline_stateOf?]
        rfl
      rcases start_enable (hstate .up n hjob hlive) with
        ⟨reason, hnot, hfails, houtline⟩ | ⟨hall, number, context, after, ending, hooked, houtline⟩
      · exact .inr (.inl ⟨n, reason, hstage, hjob, mt hready.mp hnot, hfails, houtline⟩)
      · exact .inr (.inr ⟨n, _, _, after, ending,
          .activation number context hstage hjob (hready.mpr hall), hooked, houtline⟩)
    | confirm n =>
      obtain ⟨hr, hturn⟩ := start_confirm n r
      exact .inl ⟨n, hstage, hjob, hr, hturn⟩
    | disable n =>
      obtain ⟨number, context, after, ending, hooked, houtline⟩ :=
        start_disable (hstate .down n hjob hlive)
      exact .inr (.inr ⟨n, _, _, after, ending, .deactivation number context hstage hjob, hooked,
        houtline⟩)
  · next wake run hstage =>
    have hlive : t.stage.isLive = true := by rw [hstage]; rfl
    obtain ⟨rfl, rfl⟩ := Prod.mk.inj (Option.some.inj hturn)
    have hjob := h.owned.matched i t _ run ht hstage
    obtain ⟨after, ending, hooked, houtline⟩ := hooked_of_continue run
      (r := r) (by rw [Purpose.source_eq]; exact hstate _ _ hjob hlive)
    exact .inr (.inr ⟨run.service, run.purpose, [], after, ending, .again hstage hjob, hooked,
      by rw [List.append_nil]; exact houtline⟩)
  · cases hturn

/-- A task that cannot go on is given up. -/
theorem change_of_abort (h : Orderly (sceneOf r s)) (ht : s.tasks[i]? = some t)
    (hlive : t.stage.isLive = true) (hhindered : (sceneOf r s).Hindered t) (reason : String)
    {r₀ : Registry} (hr₀ : r₀.outline = r.outline) :
    Change (sceneOf r s) (.task i) (sceneOf (Scheduler.told workload t (.aborted reason) r₀)
      { s with tasks := putStage s.tasks i (.ended (.aborted reason)) }) := by
  obtain ⟨job, hjob, hcallback⟩ := h.gated.employed i t ht
  rw [sceneOf_putStage (r := r) ht]
  have hgiveUp : ∀ (d : Direction) n, job = d.job n → Change (sceneOf r s) (.task i)
      (Scene.stand { sceneOf r s with
        toOutline := (Scheduler.told workload t (.aborted reason) r₀).outline } i t
          (.ended (.aborted reason))) := by
    rintro d n rfl
    have hvia := (h.owned.held i t d n ht hjob hlive).1
    rw [outline_told hjob hcallback fun _ _ => hr₀ ▸ underway_of_job hvia, hr₀]
    have hconcludes := Change.concludes ht (.aborts d reason hlive hjob hhindered)
    rw [Service.recordAll_nil] at hconcludes
    show Change _ _ (Scene.stand { sceneOf r s with toOutline := r.outline.giveUp reason _ } _ _ _)
    rw [Outline.giveUp_job]
    exact hconcludes
  cases job with
  | enable n => exact hgiveUp .up n rfl
  | disable n => exact hgiveUp .down n rfl
  | confirm n =>
    rw [outline_told hjob hcallback fun _ _ => trivial, hr₀]
    exact .denies ht hlive hjob (.inr hhindered) (by simp) (by simp)

/-- A task that panics is given up by its owner, who puts the service back. -/
theorem change_of_panic (h : Orderly (sceneOf r s)) (ht : s.tasks[i]? = some t)
    {n : Incarnation} {purpose : Purpose} {before after : List JournalEntry}
    {payload : Option String} (hcalled : (sceneOf r s).Called t n purpose before)
    (hooked : Hooked r.outline.cleansUp n purpose after (.panics payload) none)
    (houtline : r'.outline = r.outline.record n (after ++ before)) :
    Change (sceneOf r s) (.task i) (Scene.stand { sceneOf r s with
      toOutline := (Scheduler.told workload t (.panicked payload)
        (Scheduler.remarked workload t (.panicked payload) r')).outline } i t
          (.ended (.panicked payload))) := by
  obtain ⟨job, hjob, hcallback⟩ := h.gated.employed i t ht
  obtain rfl : job = purpose.direction.job n := Option.some.inj (hjob.symm.trans hcalled.job)
  have hvia := (h.owned.held i t _ n ht hjob (Stage.isLive_of_isFree hcalled.isFree)).1
  have hremarked := (outline_remarked t (.panicked payload) r').trans houtline
  have hstate : ((Scheduler.remarked workload t (.panicked payload) r').outline.service n).state
      = purpose.direction.via := by
    rw [hremarked, Outline.record, Outline.service_put, if_pos rfl]
    exact hvia
  rw [outline_told hjob hcallback fun _ _ => underway_of_job hstate]
  show Change _ _ (Scene.stand { sceneOf r s with
    toOutline := (Scheduler.remarked workload t _ r').outline.giveUp _ _ } _ _ _)
  rw [Outline.giveUp_job, hremarked, Outline.settle_record]
  exact .concludes ht (.panics hcalled hooked)

/-- Every end that a task comes to with its turn is a change. -/
theorem change_of_end (h : Orderly (sceneOf r s)) (ht : s.tasks[i]? = some t)
    {turn : Turn HookRun} {ending : Ending} (hturn : t.turn? workload r = some (turn, r'))
    (hend : turn.ending? = some ending) :
    Change (sceneOf r s) (.task i) (Scene.stand { sceneOf r s with
      toOutline := (Scheduler.told workload t ending
        (Scheduler.remarked workload t ending r')).outline } i t (.ended ending)) := by
  obtain ⟨job, hjob, hcallback⟩ := h.gated.employed i t ht
  have hremarked := outline_remarked t ending r'
  -- somebody has to be told only of panics
  have htold : ending.callbackReason? = none →
      (Scheduler.told workload t ending (Scheduler.remarked workload t ending r')).outline =
        r'.outline := by
    intro hnobody
    rw [outline_told hjob hcallback, hnobody, hremarked]
    intro reason hreason
    rw [hnobody] at hreason
    cases hreason
  rcases turn_cases h ht hturn with ⟨n, hstage, hconfirm, rfl, ⟨hstate, rfl⟩ | ⟨hstate, text, rfl⟩⟩ |
    ⟨n, reason, hstage, henable, hnot, rfl, houtline⟩ |
    ⟨n, purpose, before, after, result, hcalled, hooked, houtline⟩
  · obtain rfl := Option.some.inj hend
    rw [htold rfl]
    exact .confirms ht hstage hconfirm hstate
  · obtain rfl := Option.some.inj hend
    rw [htold rfl]
    exact .denies ht (by rw [hstage]; rfl) hconfirm (.inl ⟨hstage, hstate⟩) (by simp) (by simp)
  · obtain rfl := Option.some.inj hend
    rw [htold rfl, houtline]
    have hconcludes := Change.concludes ht (.blocked reason hstage henable hnot)
    rw [Service.recordAll_nil] at hconcludes
    exact hconcludes
  · rcases hooked.cases_turn with ⟨time, run, rfl, -⟩ | ⟨payload, rfl, rfl⟩ |
      ⟨state, fault, e, rfl, he, hnobody⟩
    · cases hend
    · obtain rfl := Option.some.inj hend
      exact change_of_panic h ht hcalled hooked houtline
    · obtain rfl : e = ending := Option.some.inj (he.symm.trans hend)
      rw [htold hnobody, houtline, Outline.settle_record]
      exact .concludes ht (.ends hcalled hooked hend)

/-- Every move of a task is a change. -/
theorem change_of_moves (h : Orderly (sceneOf r s)) {tasks : Array (Task Job HookRun)}
    (hmoves : Scheduler.Moves workload i s r tasks r') :
    Change (sceneOf r s) (.task i) (sceneOf r' { s with tasks }) := by
  cases hmoves with
  | enters ht hstage =>
    rw [sceneOf_putStage (r := r) ht]
    exact .advances ht (.enters hstage)
  | @passes t g later gate ht hstage hgate hresult =>
    rw [sceneOf_putStage (r := r) ht]
    refine .advances ht (.passes hstage ⟨gate, hgate, ?_⟩)
    unfold Task.result? at hresult
    split at hresult
    · next e hended =>
      cases e <;> simp_all [Ending.outcome]
    · simp at hresult
    · cases hresult
  | lines ht hstage =>
    rw [sceneOf_putStage (r := r) ht]
    exact .advances ht (.lines hstage)
  | @gateFails t g later gate o _ _ ht hstage hgate hresult hne hcloses =>
    obtain ⟨rfl, rfl⟩ := hcloses.calm isCalm_workload
    have hlive : t.stage.isLive = true := by rw [hstage]; rfl
    refine change_of_abort h ht hlive (.gate hstage hgate ?_ ?_) _ (outline_remarked t _ r)
    · unfold Task.result? at hresult
      split at hresult <;> simp_all [Stage.isLive]
    · intro hcompleted
      simp only [Task.result?, hcompleted, Ending.outcome, Option.some.injEq] at hresult
      exact hne hresult.symm
  | @refused t _ _ ht hstage hshut hcloses =>
    obtain ⟨rfl, rfl⟩ := hcloses.calm isCalm_workload
    have hlive : t.stage.isLive = true := by rcases hstage with hs | hs <;> rw [hs] <;> rfl
    exact change_of_abort h ht hlive (.shut hshut hstage) _ (outline_remarked t _ r)
  | @sleeps t time wake rest r' ht hturn =>
    rcases turn_cases h ht hturn with ⟨n, -, -, -, ⟨-, hreturns⟩ | ⟨-, text, hfails⟩⟩ |
      ⟨n, reason, -, -, -, hfails, -⟩ |
      ⟨n, purpose, before, after, ending, hcalled, hooked, houtline⟩
    · cases hreturns
    · cases hfails
    · cases hfails
    · obtain ⟨-, -, rfl⟩ := hooked.run
      rw [sceneOf_putStage (r := r) ht, houtline]
      exact .sleeps ht hcalled hooked
  | ends ht hturn hend _ hcloses =>
    obtain ⟨rfl, rfl⟩ := hcloses.calm isCalm_workload
    rw [sceneOf_putStage (r := r) ht]
    exact change_of_end h ht hturn hend

/-- Every teardown of a task is a change or nothing. -/
theorem change_of_torn (h : Orderly (sceneOf r s)) (hdead : s.isAlive = false)
    {tasks : Array (Task Job HookRun)} (htorn : Scheduler.Torn workload i s.tasks r tasks r') :
    Change (sceneOf r s) (.task i) (sceneOf r' { s with tasks }) ∨
      sceneOf r' { s with tasks } = sceneOf r s := by
  cases htorn with
  | idle => exact .inr rfl
  | dropped ht hstage =>
    rw [sceneOf_putStage (r := r) ht]
    exact .inl (.drops ht hstage hdead)
  | @aborted t ht hlive => exact .inl (change_of_abort h ht hlive (.torn hdead) _ rfl)
  | stranded _ _ hpanics => exact absurd hpanics (Scheduler.not_panicsOver isCalm_workload _ _ _)

end Provider

end ServiceLifecycle

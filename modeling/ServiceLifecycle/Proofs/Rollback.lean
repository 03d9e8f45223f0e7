import ServiceLifecycle.Proofs.Descent
import ServiceLifecycle.Proofs.Recounts

/-!
# What a service stands on when it is put back

The services of a chain are all on their way down before the first of them gets there. When a task
of the chain does not complete, the ones behind it are given up one after the other, and each puts
its own service back. So a service may be up again while one that it refers to is still on its way
down (`Setup.exposed_on_disabling`). But there the way down is cut off: its hook is not called, and
it comes back up as well.

* **doom** — a task behind one that ended and did not complete never gets past its gates
  (`Scene.Doomed`);
* **recall** — a service whose task is doomed stays on its way until the task puts it back, and
  no hook is called (`Scene.Recalled`, `Scene.Recalled.step`);
* **footing** — whatever an enabled service builds on is enabled or recalled
  (`Scene.Supported.steady_of_refers`);
* **runs** — how a recalled service comes back (`Provider.ComesBack`), and what a service that was
  put back stands on (`Setup.footing_of_restored`).
-/

namespace ServiceLifecycle

open Relation

namespace Scene

variable {S S' T : Scene} {cause : Cause} {i j g : TaskId} {t : Task Job HookRun}
  {n m : Incarnation}

/-! ## Doom -/

/-- The task waits behind one that has ended and has not completed. -/
def Doomed (S : Scene) (j : TaskId) : Prop :=
  ∃ g t ending, S.Behind j g ∧ S.task? g = some t ∧ t.stage = .ended ending ∧ ending ≠ .completed

theorem Doomed.of_behind (h : S.Doomed g) (hbehind : S.Behind j g) : S.Doomed j := by
  obtain ⟨g', t, ending, hg, ht, hstage, hne⟩ := h
  exact ⟨g', t, ending, hbehind.trans hg, ht, hstage, hne⟩

/-- A task stays where it is once it has ended, and with it all that wait behind. -/
theorem Doomed.step (h : S.Doomed j) (hgated : Gated S) (change : Change S cause S') :
    S'.Doomed j := by
  obtain ⟨g, t, ending, hbehind, ht, hstage, hne⟩ := h
  obtain ⟨stage, ht', hkeep⟩ := (hgated.continues change g).task ht
  exact ⟨g, _, ending, hgated.behind change hbehind, ht',
    (hkeep (by rw [hstage]; rfl)).trans hstage, hne⟩

/-- A doomed task has a gate that it never passes. -/
theorem Doomed.unpassed (h : S.Doomed j) (hgated : Gated S) (ht : S.task? j = some t) :
    t.stage.unpassed t.gates ≠ [] := by
  obtain ⟨g, u, ending, hbehind, hu, hstage, hne⟩ := h
  intro hpast
  obtain ⟨u', hu', hdone⟩ := hgated.completed_of_behind hbehind fun t' ht' => by
    rwa [← Option.some.inj (ht.symm.trans ht')]
  obtain rfl : u = u' := Option.some.inj (hu.symm.trans hu')
  exact hne (Stage.ended.inj (hstage.symm.trans hdone))

/-! ## Recall -/

/-- The task that takes the service down is under way and doomed. -/
structure Recalled (S : Scene) (m : Incarnation) (j : TaskId) : Prop where
  owner : ∃ t, S.task? j = some t ∧ t.job = some (Direction.down.job m) ∧ t.stage.isLive = true
  doomed : S.Doomed j

theorem Recalled.held (h : S.Recalled m j) (horderly : S.Orderly) :
    (S.service m).state = .disabling ∧ (S.service m).transition = some j := by
  obtain ⟨t, ht, hjob, hlive⟩ := h.owner
  exact horderly.owned.held j t .down m ht hjob hlive

/-- The service, which was as `s` until now, has been put back up by its task, and no hook was
called. -/
structure Restored (S : Scene) (m : Incarnation) (s : Service) : Prop where
  history : (S.service m).history = .enabled :: s.history
  journal : (S.service m).journal = s.journal
  fault : ∃ reason, (S.service m).fault = some ⟨.aborted, reason⟩

theorem Restored.congr {s s' : Service} (h : S.Restored m s) (hhistory : s.history = s'.history)
    (hjournal : s.journal = s'.journal) : S.Restored m s' :=
  ⟨hhistory ▸ h.history, hjournal ▸ h.journal, h.fault⟩

/-- The task of a recalled service goes on to its gates, or it is given up. -/
theorem Recalled.own (h : S.Recalled m j) (horderly : S.Orderly) (hpresent : S.Present)
    (change : Change S (.task j) S') :
    S'.Recalled m j ∧ Rests m S S' ∨ S'.Restored m (S.service m) := by
  obtain ⟨t, ht, hjob, hlive⟩ := h.owner
  -- a hook is called only past the gates
  have hbound : t.stage.isFree ≠ true := fun hfree =>
    h.doomed.unpassed horderly.gated ht (Stage.unpassed_of_isFree _ hfree)
  cases change with
  | @advances _ u stage hu hadvances =>
    obtain rfl : t = u := Option.some.inj (ht.symm.trans hu)
    refine .inl ⟨⟨⟨{ t with stage }, ?_, hjob, hadvances.unpassed.2.1⟩,
      h.doomed.step horderly.gated (.advances hu hadvances)⟩, rfl, rfl, fun _ => rfl⟩
    rw [task?_stand, if_pos rfl]
  | sleeps hu hcalled =>
    obtain rfl := Option.some.inj (ht.symm.trans hu)
    exact absurd hcalled.isFree hbound
  | concludes hu hconcludes =>
    obtain rfl := Option.some.inj (ht.symm.trans hu)
    cases hconcludes with
    | ends hcalled | panics hcalled => exact absurd hcalled.isFree hbound
    | blocked reason hstage => exact absurd (by rw [hstage]; rfl) hbound
    | aborts d reason _ hjob' =>
      obtain ⟨rfl, rfl⟩ := Direction.job_inj.mp (Option.some.inj (hjob.symm.trans hjob'))
      have hservice := service_put_self S m
        (((S.service m).recordAll []).settle Direction.down.origin (some ⟨.aborted, reason⟩))
      exact .inr ⟨(congrArg Service.history hservice).trans rfl,
        (congrArg Service.journal hservice).trans rfl, reason,
        (congrArg Service.fault hservice).trans rfl⟩
  | confirms hu _ hconfirm | denies hu _ hconfirm =>
    obtain rfl := Option.some.inj (ht.symm.trans hu)
    exact absurd (Option.some.inj (hjob.symm.trans hconfirm)) Direction.job_ne_confirm
  | drops _ _ hdead =>
    rw [hpresent.isAlive] at hdead
    cases hdead

/-- A recalled service stays on its way until its own task puts it back. -/
theorem Recalled.step (h : S.Recalled m j) (horderly : S.Orderly) (hpresent : S.Present)
    (change : Change S cause S') :
    S'.Recalled m j ∧ Rests m S S' ∨ cause = .task j ∧ S'.Restored m (S.service m) := by
  by_cases hcause : cause = .task j
  · subst hcause
    exact (h.own horderly hpresent change).imp_right fun hrestored => ⟨rfl, hrestored⟩
  · obtain ⟨t, ht, hjob, hlive⟩ := h.owner
    have ht' := horderly.gated.task_of_other change hcause ht
    exact .inl ⟨⟨⟨t, ht', hjob, hlive⟩, h.doomed.step horderly.gated change⟩,
      horderly.owned.rests_of_other change hcause ht hjob hlive⟩

/-- Requests are no matter to a recalled service. -/
theorem Recalled.of_requests (h : S.Recalled m j) (horderly : S.Orderly) (hpresent : S.Present)
    (changes : Changes Cause.IsRequest S T) : T.Recalled m j ∧ Rests m S T := by
  induction changes with
  | refl => exact ⟨h, .refl m S⟩
  | tail hsteps hstep ih =>
    obtain ⟨cause, hcause, change⟩ := hstep
    obtain ⟨hrecalled, hrests⟩ := ih
    rcases hrecalled.step (horderly.changes hsteps) (hpresent.changes hsteps) change with
      ⟨hrecalled', hrests'⟩ | ⟨rfl, -⟩
    · exact ⟨hrecalled', hrests.trans hrests'⟩
    · exact hcause.elim

/-! ## Footing -/

/-- The service is up and stays up: it is enabled, or it is recalled on its way down. -/
def Steady (S : Scene) (n : Incarnation) : Prop :=
  (S.service n).state = .enabled ∨ ∃ i, S.Recalled n i

theorem Steady.isUp (h : S.Steady n) (horderly : S.Orderly) : (S.service n).state.isUp = true := by
  rcases h with hstate | ⟨i, hrecalled⟩
  · rw [hstate]
    rfl
  · rw [(hrecalled.held horderly).1]
    rfl

/-- What goes down behind a steady service is recalled: the task that took the steady one down has
failed or is doomed itself. -/
theorem Supported.recalled_of_refers (h : Supported S) (horderly : S.Orderly)
    (hpresent : S.Present) (hn : S.Steady n) (href : S.Refers n m)
    (hdown : (S.service m).state = .disabling) : ∃ j, S.Recalled m j := by
  obtain ⟨j, t, -, ht, hjob, hlive⟩ := horderly.owner (d := .down) hpresent hdown
  by_cases heq : n = m
  · subst heq
    refine hn.resolve_left fun hup => ?_
    rw [hup] at hdown
    cases hdown
  obtain ⟨y, hy, hm⟩ := href
  have hid : (S.service m).id = y := (horderly.named.own y m hm).1
  have hnotdown : (S.service n).state ≠ .disabled := fun hdisabled => by
    have hup := hn.isUp horderly
    rw [hdisabled] at hup
    cases hup
  obtain ⟨g, u, hbehind, hu, hujob, hopen⟩ :=
    h.yielding j t m ht hjob hlive n heq (hid ▸ hy) hnotdown
  refine ⟨j, ⟨t, ht, hjob, hlive⟩, ?_⟩
  rcases hpresent.isPresent g u hu with hulive | ⟨ending, hended⟩
  · -- `n` is on its way down with that task, so it is recalled
    obtain ⟨hvia, htransition⟩ := horderly.owned.held g u .down n hu hujob hulive
    obtain ⟨i, hrecalled⟩ := hn.resolve_left (by rw [hvia]; exact Direction.down.via_ne_enabled)
    obtain rfl : i = g :=
      Option.some.inj ((hrecalled.held horderly).2.symm.trans htransition)
    exact hrecalled.doomed.of_behind hbehind
  · exact ⟨g, u, ending, hbehind, hu, hended, fun hdone => hopen ⟨u, hu, hdone ▸ hended⟩⟩

/-- Whatever a steady service refers to is registered and steady. -/
theorem Supported.steady_of_refers (h : Supported S) (horderly : S.Orderly)
    (hpresent : S.Present) (hn : S.Steady n) :
    (∀ y ∈ (S.service n).references, ∃ m, S.find? y = some m) ∧
      ∀ m, S.Refers n m → S.Steady m := by
  obtain ⟨-, hfound, hground⟩ := h.grounded n (hn.isUp horderly)
  refine ⟨hfound, fun m href => ?_⟩
  obtain ⟨y, hy, hm⟩ := href
  have hup := (hground y hy m hm).isUp
  cases hstate : (S.service m).state with
  | enabled => exact .inl hstate
  | disabling => exact .inr (h.recalled_of_refers horderly hpresent hn ⟨y, hy, hm⟩ hstate)
  | disabled | enabling =>
    rw [hstate] at hup
    cases hup

/-! ## Putting back -/

/-- A transition down that leads back up was given up, or its hook has panicked. -/
theorem Concludes.givenUp {entries : List JournalEntry} {fault : Option Fault} {ending : Ending}
    (h : S.Concludes t n entries .enabled fault ending)
    (hjob : t.job = some (Direction.down.job n)) :
    ∃ reason, ending.callbackReason? = some reason ∧ fault = some ⟨.aborted, reason⟩ := by
  generalize hstate : ServiceState.enabled = state at h
  cases h with
  | ends hcalled hooked =>
    obtain ⟨hdirection, -⟩ :=
      Direction.job_inj.mp (Option.some.inj (hcalled.job.symm.trans hjob))
    cases hooked with
    | activated | failed | cleans | cleaned => cases hdirection
    | deactivated => cases hstate
  | panics => exact ⟨_, rfl, rfl⟩
  | blocked => cases hstate
  | aborts d reason => exact ⟨reason, rfl, rfl⟩

/-- A service comes back from its way down when its task is given up or panics. -/
theorem Orderly.restored (h : S.Orderly) (change : Change S cause S')
    (hdown : (S.service n).state = .disabling) (hup : (S'.service n).state = .enabled) :
    ∃ i t ending reason, cause = .task i ∧ S'.task? i = some t ∧ t.job = some (.disable n) ∧
      t.stage = .ended ending ∧ ending.callbackReason? = some reason ∧
      (S'.service n).fault = some ⟨.aborted, reason⟩ := by
  have hmoved : (S'.service n).state ≠ (S.service n).state := by rw [hup, hdown]; decide
  by_cases hcause : cause.IsRequest
  · exact absurd (state_of_request hcause change (by rw [hdown]; rfl)) hmoved
  cases change with
  | appears | edits | removes | blames | shuts | claims | joins => exact absurd trivial hcause
  | stops | advances | confirms | denies | drops => exact absurd rfl hmoved
  | @sleeps i t k =>
    refine absurd ?_ hmoved
    by_cases hk : n = k
    · subst hk
      exact (congrArg Service.state (service_put_self S n ((S.service n).recordAll _))).trans rfl
    · exact congrArg Service.state (service_put_of_ne S _ hk)
  | @concludes i t k entries state fault ending ht hconcludes =>
    by_cases hk : n = k
    · subst hk
      obtain ⟨d, hjob, hlive, -⟩ := hconcludes.direction
      obtain rfl : d = .down :=
        Direction.via_inj.mp ((h.owned.held i t d n ht hjob hlive).1.symm.trans hdown)
      have hservice := service_put_self S n (((S.service n).recordAll entries).settle state fault)
      obtain rfl : state = .enabled := (congrArg Service.state hservice).symm.trans hup
      obtain ⟨reason, hreason, rfl⟩ := hconcludes.givenUp hjob
      refine ⟨i, _, ending, reason, rfl, (task?_stand _ i i t _).trans (if_pos rfl), hjob, rfl,
        hreason, (congrArg Service.fault hservice).trans rfl⟩
    · exact absurd (congrArg Service.state (service_put_of_ne S _ hk)) hmoved

end Scene

/-! ## Runs -/

namespace Provider

variable {p : Provider} {e : Event} {j : TaskId} {n m : Incarnation}

/-- With a move of its own task a recalled service may be put back. Nothing else is any matter
to it. -/
theorem recalled_step (h : p.Healthy) (he : e ≠ .stop) (hrecalled : p.scene.Recalled m j) :
    (p.step e).scene.Recalled m j ∧ Scene.Rests m p.scene (p.step e).scene ∨
      e = .move j ∧ (p.step e).scene.Restored m (p.scene.service m) := by
  have hhappens := happens_step h.lawful e
  cases e with
  | request q => exact .inl (hrecalled.of_requests h.lawful.orderly h.present hhappens)
  | move i =>
    generalize (p.step (.move i)).scene = T at hhappens ⊢
    cases hhappens with
    | refl => exact .inl ⟨hrecalled, .refl m _⟩
    | single change =>
      refine (hrecalled.step h.lawful.orderly h.present change).imp_right ?_
      rintro ⟨hcause, hrestored⟩
      exact ⟨congrArg Event.move (Cause.task.inj hcause), hrestored⟩
  | pass moment => exact .inl ⟨hrecalled, .refl m _⟩
  | stop => exact absurd rfl he
  | tear i =>
    rw [step_tear_of_alive h.present.isAlive]
    exact .inl ⟨hrecalled, .refl m _⟩

/-- A recalled service stays where it is until a move of its own task puts it back. -/
theorem recalled_after (h : p.Healthy) (hrecalled : p.scene.Recalled m j) (later : List Event)
    (hlater : ∀ e ∈ later, e ≠ .stop) :
    (p.after later).scene.Recalled m j ∧ Scene.Rests m p.scene (p.after later).scene ∨
      ∃ done rest, later = done ++ .move j :: rest ∧
        (p.after (done ++ [.move j])).scene.Restored m (p.scene.service m) := by
  induction later using List.reverseRecOn with
  | nil => exact .inl ⟨hrecalled, .refl m _⟩
  | append_singleton done e ih =>
    have hdone : ∀ e ∈ done, e ≠ .stop := fun e he => hlater e (List.mem_append_left _ he)
    rcases ih hdone with ⟨hstill, hrests⟩ | ⟨before, rest, rfl, hrestored⟩
    · rcases recalled_step (h.after hdone) (hlater e (by simp)) hstill with
        ⟨hstill', hrests'⟩ | ⟨rfl, hrestored⟩
      · rw [after_append]
        exact .inl ⟨hstill', hrests.trans hrests'⟩
      · refine .inr ⟨done, [], rfl, ?_⟩
        rw [after_append]
        exact hrestored.congr hrests.history hrests.journal
    · exact .inr ⟨before, rest ++ [e], by simp, hrestored⟩

/-- What becomes of a service that is on its way down with a task when more happens: it stays where
it is until that task puts it back, and no hook is called. -/
inductive ComesBack (p : Provider) (m : Incarnation) (j : TaskId) (later : List Event) : Prop
  /-- It is still on its way, and there is something left to do. -/
  | waits : ((p.after later).service m).history = (p.service m).history →
      ((p.after later).service m).callLog = (p.service m).callLog →
      ¬ (p.after later).Quiescent → ComesBack p m j later
  /-- The task was given up. -/
  | back {done rest : List Event} {reason : String} : later = done ++ .move j :: rest →
      ((p.after (done ++ [.move j])).service m).history = .enabled :: (p.service m).history →
      ((p.after (done ++ [.move j])).service m).callLog = (p.service m).callLog →
      ((p.after (done ++ [.move j])).service m).fault = some ⟨.aborted, reason⟩ →
      ComesBack p m j later

/-- A service is on its way down and will be up again without having been down. -/
structure Returning (p : Provider) (m : Incarnation) (j : TaskId) : Prop where
  state : (p.service m).state = .disabling
  transition : (p.service m).transition = some j
  /-- The task is still waiting for its gates. -/
  gated : ∃ t, p.tasks.tasks[j]? = some t ∧ t.job = some (.disable m) ∧
    (t.stage = .queued ∨ ∃ g rest, t.stage = .gated (g :: rest))
  doomed : p.scene.Doomed j
  later : ∀ later, (∀ e ∈ later, e ≠ .stop) → p.ComesBack m j later

/-- As long as a service is recalled, there is something left to do. -/
theorem not_quiescent_of_recalled (h : p.Healthy) (hrecalled : p.scene.Recalled m j) :
    ¬ p.Quiescent := by
  intro hquiet
  obtain ⟨t, ht, -, hlive⟩ := hrecalled.owner
  obtain ⟨ending, hended⟩ := (h.finished_of_quiescent hquiet).ended ht
  rw [hended] at hlive
  cases hlive

theorem returning_of_recalled (h : p.Healthy) (hrecalled : p.scene.Recalled m j) :
    p.Returning m j where
  state := (hrecalled.held h.lawful.orderly).1
  transition := (hrecalled.held h.lawful.orderly).2
  gated := by
    obtain ⟨t, ht, hjob, hlive⟩ := hrecalled.owner
    have hopen := hrecalled.doomed.unpassed h.lawful.orderly.gated ht
    refine ⟨t, ht, hjob, ?_⟩
    cases hstage : t.stage with
    | queued => exact .inl rfl
    | gated remaining =>
      cases remaining with
      | nil => exact absurd (by rw [hstage]; rfl) hopen
      | cons g rest => exact .inr ⟨g, rest, rfl⟩
    | waiting | running => exact absurd (by rw [hstage]; rfl) hopen
    | ended | external | dropped =>
      rw [hstage] at hlive
      cases hlive
  doomed := hrecalled.doomed
  later later hlater := by
    rcases recalled_after h hrecalled later hlater with
      ⟨hstill, hrests⟩ | ⟨done, rest, hsplit, hrestored⟩
    · exact .waits hrests.history hrests.journal
        (not_quiescent_of_recalled (h.after hlater) hstill)
    · obtain ⟨reason, hfault⟩ := hrestored.fault
      exact .back hsplit hrestored.history hrestored.journal hfault

/-- Whatever an enabled service builds on is enabled, or on its way down and about to return. -/
theorem Healthy.footing (h : p.Healthy) (hup : (p.service n).state = .enabled)
    (hbuilds : ReflTransGen p.Refers n m) :
    (∀ y ∈ (p.service m).references, ∃ k, p.registry.find? y = some k) ∧
      ((p.service m).state = .enabled ∨ ∃ j, p.Returning m j) := by
  have hsteady : p.scene.Steady m := by
    induction hbuilds with
    | refl => exact .inl hup
    | tail _ href ih =>
      exact (h.lawful.supported.steady_of_refers h.lawful.orderly h.present ih).2 _ href
  refine ⟨(h.lawful.supported.steady_of_refers h.lawful.orderly h.present hsteady).1, ?_⟩
  exact hsteady.imp_right fun ⟨j, hrecalled⟩ => ⟨j, returning_of_recalled h hrecalled⟩

/-- A service comes back from its way down with a move of its own task, which was given up or
whose hook has panicked. -/
theorem Healthy.restored (h : p.Healthy) (he : e ≠ .stop)
    (hdown : (p.service n).state = .disabling) (hup : ((p.step e).service n).state = .enabled) :
    ∃ i t ending reason, e = .move i ∧ (p.step e).tasks.tasks[i]? = some t ∧
      t.job = some (.disable n) ∧ t.stage = .ended ending ∧
      ending.callbackReason? = some reason ∧
      ((p.step e).service n).fault = some ⟨.aborted, reason⟩ := by
  have hmoved : ((p.step e).scene.service n).state ≠ (p.scene.service n).state := by
    rw [state_scene, state_scene, hup, hdown]
    decide
  have hhappens := happens_step h.lawful e
  cases e with
  | request q =>
    have htransient : (p.scene.service n).state.isTransient = true := by
      rw [state_scene, hdown]
      rfl
    exact absurd (Scene.state_of_requests hhappens htransient) hmoved
  | move i =>
    have hmove : ∀ {T : Scene}, ReflGen (fun S => Change S (.task i)) p.scene T →
        (T.service n).state = .enabled → (T.service n).state ≠ (p.scene.service n).state →
        ∃ t ending reason, T.task? i = some t ∧ t.job = some (.disable n) ∧
          t.stage = .ended ending ∧ ending.callbackReason? = some reason ∧
          (T.service n).fault = some ⟨.aborted, reason⟩ := by
      intro T hhappens hup hmoved
      cases hhappens with
      | refl => exact absurd rfl hmoved
      | single change =>
        obtain ⟨k, t, ending, reason, hcause, ht⟩ := h.lawful.orderly.restored change hdown hup
        obtain rfl := Cause.task.inj hcause
        exact ⟨t, ending, reason, ht⟩
    obtain ⟨t, ending, reason, ht⟩ := hmove hhappens hup hmoved
    exact ⟨i, t, ending, reason, rfl, ht⟩
  | pass moment => exact absurd rfl hmoved
  | stop => exact absurd rfl he
  | tear i =>
    rw [step_tear_of_alive h.present.isAlive] at hmoved
    exact absurd rfl hmoved

end Provider

namespace Setup

/-- In every run without a teardown, when a service comes back from its way down, its task was
given up or its hook has panicked. Whatever the service builds on is then enabled, or it is on
its way down behind a task that has ended and not completed, and will be up again without any call
of a hook. -/
theorem footing_of_restored (setup : Setup) (events : List Event) (e : Event)
    (hevents : ∀ e' ∈ events ++ [e], e' ≠ .stop) (n : Incarnation) :
    let p := setup.provider.after events
    let q := p.step e
    (p.service n).state = .disabling → (q.service n).state = .enabled →
      (∃ i t ending reason, e = .move i ∧ q.tasks.tasks[i]? = some t ∧
        t.job = some (.disable n) ∧ t.stage = .ended ending ∧
        ending.callbackReason? = some reason ∧
        (q.service n).fault = some ⟨.aborted, reason⟩) ∧
      ∀ m, ReflTransGen q.Refers n m →
        (∀ y ∈ (q.service m).references, ∃ k, q.registry.find? y = some k) ∧
        ((q.service m).state = .enabled ∨ ∃ j, q.Returning m j) := by
  intro p q hdown hup
  have hp : p.Healthy :=
    setup.healthy_after fun e' he' => hevents e' (List.mem_append_left _ he')
  have he : e ≠ .stop := hevents e (by simp)
  exact ⟨hp.restored he hdown hup, fun m hbuilds => (hp.step he).footing hup hbuilds⟩

/-- A provider of services that do nothing, and of some whose deactivation hook panics. Each may
refer to one other. -/
def jamming : Setup :=
  { plain with
    catalogue := plain.catalogue.register "jams" fun _ =>
      ⟨[Catalogue.referenceProperty "upstream"], .scripted [] [[.act (.panic (some "boom"))]]⟩ }

/-- A service whose hook panics builds on a plain one, and that on a third. They are enabled, and
then the two that build on the third are taken down. The first of them is in line for a worker. -/
def jammedRun : List Event :=
  [.request (.create "plain" ⟨"c"⟩ false), .request (.create "plain" ⟨"b"⟩ false),
    .request (.create "jams" ⟨"a"⟩ false), .request (.setProperty ⟨"b"⟩ "upstream" "c"),
    .request (.setProperty ⟨"a"⟩ "upstream" "b"),
    .request (.enableAll [⟨"c"⟩, ⟨"b"⟩, ⟨"a"⟩])] ++ Event.rounds 6 13 ++
    [.request (.disableReferrers ⟨"c"⟩), .move 6, .move 6]

/-- Its hook panics, and the service is back. -/
theorem footing_of_restored_jammed :
    let p := jamming.provider.after jammedRun
    let q := p.step (.move 6)
    (p.service 2).state = .disabling ∧ (q.service 2).state = .enabled ∧
      (∃ i t ending reason, Event.move 6 = .move i ∧ q.tasks.tasks[i]? = some t ∧
        t.job = some (.disable 2) ∧ t.stage = .ended ending ∧
        ending.callbackReason? = some reason ∧
        (q.service 2).fault = some ⟨.aborted, reason⟩) ∧
      ∀ m, ReflTransGen q.Refers 2 m →
        (∀ y ∈ (q.service m).references, ∃ k, q.registry.find? y = some k) ∧
        ((q.service m).state = .enabled ∨ ∃ j, q.Returning m j) := by
  have hevents : ∀ e ∈ jammedRun ++ [.move 6], e ≠ .stop := by
    rintro e he rfl
    simp [jammedRun, Event.rounds] at he
  have hdown : ((jamming.provider.after jammedRun).service 2).state = .disabling := by
    decide +kernel
  have hup : (((jamming.provider.after jammedRun).step (.move 6)).service 2).state = .enabled := by
    decide +kernel
  exact ⟨hdown, hup, footing_of_restored jamming jammedRun (.move 6) hevents 2 hdown hup⟩

/-- The first service is put back while the one that it refers to is still on its way down. -/
theorem exposed_on_disabling :
    let p := jamming.provider.after jammedRun
    let q := p.step (.move 6)
    (∀ e ∈ jammedRun ++ [.move 6], e ≠ .stop) ∧
      (p.service 2).state = .disabling ∧ (q.service 2).state = .enabled ∧
      (q.service 2).fault = some ⟨.aborted, "task panicked: boom"⟩ ∧
      q.Refers 2 1 ∧ (q.service 1).state = .disabling := by
  refine ⟨?_, by decide +kernel, by decide +kernel, by decide +kernel, by decide +kernel,
    by decide +kernel⟩
  rintro e he rfl
  simp [jammedRun, Event.rounds] at he

end Setup

end ServiceLifecycle

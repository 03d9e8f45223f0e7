import ServiceLifecycle.Proofs.Alternation

/-!
# What a failed activation leaves behind

An activation that fails may have taken hold of things by then. If the configuration says so, the
deactivation hook is called to let go of them before the service is down again, once and after the
failure. An activation hook that panics is another matter: its task is given up and the service
goes back down, but nobody lets go of anything.

* **retreats** — the calls of a transition up that has led back down (`Scene.Retreat`,
  `Story.retreat`);
* **climbs** — what has become of a service that was down (`Scene.Climbs`), kept by every change
  (`Scene.Climbs.step`);
* **runs** — a transition up that leads back down has called both hooks in turn, or none, or its
  activation hook has panicked (`Setup.released_after`), and then nothing is released
  (`Setup.panic_unreleased`).
-/

namespace ServiceLifecycle

/-! ## Retreats -/

/-- The activation hook was called and failed. Then the deactivation hook was called, and has
returned or panicked since. -/
inductive Released : List JournalEntry → Prop
  | intro (number number' : Nat) (context context' : Context) (failure : String)
      (returns : List JournalEntry) :
      (returns = [] ∨ ∃ error, returns = [.returned .deactivate error]) →
      Released (returns ++ [.began .deactivate number context.id context.properties,
        .returned .activate (some failure),
        .began .activate number' context'.id context'.properties])

/-- Between the call of the one hook and the end of the transition, the other one was called
exactly once. -/
theorem Released.countP {calls : List JournalEntry} (h : Released calls) (hook : Hook) :
    calls.countP (JournalEntry.begins hook) = 1 := by
  obtain ⟨number, number', context, context', failure, returns, hreturns⟩ := h
  have hnone : returns.countP (JournalEntry.begins hook) = 0 := by
    rcases hreturns with rfl | ⟨error, rfl⟩ <;> rfl
  rw [List.countP_append, hnone]
  cases hook <;> rfl

/-- A cleanup is called after a failed activation, and once. -/
theorem Begun.released {failure : String} {calls : List JournalEntry}
    (h : Begun (.cleanup failure) calls) {returns : List JournalEntry}
    (hreturns : returns = [] ∨ ∃ error, returns = [.returned .deactivate error]) :
    Released (returns ++ calls) := by
  cases h with
  | cleanup failure number context hbegun =>
    cases hbegun with
    | activation number' context' =>
      exact .intro number number' context context' failure returns hreturns

/-- The calls of a transition up that has led back down, with the task that it was. -/
inductive Retreat (t : Task Job HookRun) : List JournalEntry → Prop
  | uncalled : Retreat t []
  | released {calls : List JournalEntry} : Released calls → Retreat t calls
  /-- The activation hook has panicked. -/
  | lost (number : Nat) (context : Context) : t.hasPanicked = true →
      Retreat t [.began .activate number context.id context.properties]

theorem Story.retreat {t : Task Job HookRun} {d : Direction} {calls : List JournalEntry}
    {ending : Ending} {fault : Option Fault} (h : Story true d calls ending .disabled fault)
    (hup : d = .up) (hstage : t.stage = .ended ending) : Retreat t calls := by
  generalize hcleans : true = cleansUp, hdown : ServiceState.disabled = state at h
  cases h with
  | activated => cases hdown
  | unready | givenUp => exact .uncalled
  | failed _ _ hoff => exact absurd (hcleans.trans hoff) (by decide)
  | cleaned failure text error hbegun => exact .released (hbegun.released (.inr ⟨error, rfl⟩))
  | deactivated => cases hup
  | @panicked purpose _ payload hbegun =>
    have hpanicked : t.hasPanicked = true := by rw [Task.hasPanicked, hstage]
    cases hbegun with
    | activation number context => exact .lost number context hpanicked
    | cleanup failure number context hbegun =>
      exact .released ((Begun.cleanup failure number context hbegun).released (.inl rfl))
    | deactivation => cases hup

/-! ## Climbs -/

namespace Scene

variable {S S' : Scene} {cause : Cause} {n : Incarnation} {s : Service}

/-- What has become of a service since it was as `s`, which was down: nothing, one transition up
so far, or more than that. -/
inductive Climbs (S : Scene) (n : Incarnation) (s : Service) : Prop
  | rests : (S.service n).history = s.history → (S.service n).journal = s.journal → Climbs S n s
  | climbs {i : TaskId} {t : Task Job HookRun} : S.task? i = some t → t.job = some (.enable n) →
      Tells S .up n s t → Climbs S n s
  | beyond : s.history.length + 2 < (S.service n).history.length → Climbs S n s

theorem Climbs.step (h : S.Climbs n s) (hdown : s.state = .disabled) (horderly : S.Orderly)
    (hpresent : S.Present) (change : Change S cause S') : S'.Climbs n s := by
  cases h with
  | rests hhistory hjournal =>
    have hstate : (S.service n).state = .disabled := (List.cons.inj hhistory).1.trans hdown
    have hrest : (S.service n).state.isTransient = false := by rw [hstate]; rfl
    rcases horderly.owned.rests_or_claims change hrest with
      hrests | ⟨d, name, gates, horigin, rfl⟩
    · exact .rests (hrests.history.trans hhistory) (hrests.journal.trans hjournal)
    · -- what is down can be claimed for the way up only
      obtain rfl : d = .up := by
        rw [hstate] at horigin
        cases d with
        | up => rfl
        | down => cases horigin
      have htells := (tells_of_claim hpresent.isAlive .up n name gates).congr hhistory hjournal
      exact .climbs ((task?_push S name gates (.enable n) S.submitted).trans (if_pos rfl)) rfl
        htells
  | @climbs i t ht hjob htells =>
    by_cases hlive : t.stage.isLive = true
    · obtain ⟨stage, ht', htells'⟩ := htells.goes horderly hpresent change ht hjob hlive
      exact .climbs ht' hjob htells'
    · cases htells with
      | underway hcourse => exact absurd hcourse.isLive hlive
      | ended hstage hstory hhistory hjournal =>
        have hrest : (S.service n).state.isTransient = false :=
          (congrArg ServiceState.isTransient (List.cons.inj hhistory).1).trans hstory.isTransient
        obtain ⟨stage, ht', hkeep⟩ := (horderly.gated.continues change i).task ht
        obtain rfl := hkeep (Bool.not_eq_true _ ▸ hlive)
        rcases horderly.owned.rests_or_claims change hrest with
          hrests | ⟨d, name, gates, -, rfl⟩
        · exact .climbs ht' hjob ((Tells.ended hstage hstory hhistory hjournal).rest hrests
            (cleansUp_of_change change))
        · -- another transition has begun
          refine .beyond ?_
          have hservice : ((S.claimed n d.via name gates (d.job n)).service n).history =
              d.via :: (S.service n).history :=
            congrArg Service.history (service_put_self _ n _)
          rw [hservice, hhistory]
          simp
  | beyond hlong =>
    refine .beyond ?_
    rcases horderly.owned.history_step change n with heq | ⟨later, -, heq⟩ <;> rw [heq]
    · exact hlong
    · exact Nat.lt_succ_of_lt hlong

end Scene

/-! ## Runs -/

namespace Setup

/-- If failed activations are cleaned up after, then in every run without a teardown a transition
up that has led back down has called no hook, or has called the deactivation hook once after its
activation failed, or its activation hook has panicked. -/
theorem released_after (setup : Setup)
    (hconfig : setup.config.deactivateOnFailedActivation = true) (before later : List Event)
    (hevents : ∀ e ∈ before ++ later, e ≠ .stop) (n : Incarnation) :
    let p := setup.provider.after before
    let p' := p.after later
    (p'.service n).history = .disabled :: .enabling :: (p.service n).history →
      ∃ (calls : List JournalEntry) (i : TaskId) (t : Task Job HookRun),
        (p'.service n).callLog = calls ++ (p.service n).callLog ∧
        p'.tasks.tasks[i]? = some t ∧ t.job = some (.enable n) ∧ Retreat t calls := by
  intro p p' hback
  have hbefore : ∀ e ∈ before, e ≠ .stop := fun e he => hevents e (List.mem_append_left _ he)
  have hlater : ∀ e ∈ later, e ≠ .stop := fun e he => hevents e (List.mem_append_right _ he)
  -- what goes up was down
  have hdown : (p.service n).state = .disabled := by
    have hchronicled := setup.chronicled_after (before ++ later) n
    rw [Provider.after_append] at hchronicled
    have hchain : (p'.service n).history.IsChain fun later earlier => later ∈ earlier.next :=
      hchronicled.1
    rw [hback] at hchain
    exact ServiceState.eq_disabled_of_enabling
      (List.isChain_cons_cons.mp (List.isChain_cons_cons.mp hchain).2).1
  have hlawful := setup.lawful_after before
  have hcleans : p.scene.cleansUp = true :=
    (Provider.cleansUp_after setup.lawful_provider before).trans hconfig
  obtain ⟨-, hclimbs⟩ := hlawful.keeps_after
    (I := fun S => S.Present ∧ S.Climbs n (p.service n).outline) (K := (· ≠ .teardown))
    ⟨setup.present_after hbefore, .rests rfl rfl⟩
    (fun hlaw ⟨hpresent, hclimbs⟩ hcause change =>
      ⟨hpresent.step hcause change, hclimbs.step hdown hlaw.orderly hpresent change⟩)
    later fun e he _ hcause => Event.ne_teardown (hlater e he) hcause
  have hlength : (p'.service n).history.length = (p.service n).outline.history.length + 2 :=
    congrArg List.length hback
  cases hclimbs with
  | rests hhistory =>
    exact absurd ((congrArg List.length hhistory).symm.trans hlength) (by omega)
  | @climbs i t ht hjob htells =>
    cases htells with
    | underway hcourse hhistory =>
      exact absurd ((congrArg List.length hhistory).symm.trans hlength) (by simp)
    | ended hstage hstory hhistory hjournal =>
      obtain rfl := (List.cons.inj (hhistory.symm.trans hback)).1
      rw [Provider.cleansUp_after hlawful, hcleans] at hstory
      exact ⟨_, i, t, hjournal, ht, hjob, hstory.retreat rfl hstage⟩
  | beyond hlong =>
    exact absurd (lt_of_lt_of_eq hlong hlength) (lt_irrefl _)

/-- A provider of services whose activation hook panics, and of some whose hooks fail. -/
def panicking : Setup :=
  { plain with
    catalogue := (Catalogue.empty.register "panics" fun _ =>
        ⟨[], .scripted [[.act (.panic (some "boom"))]] []⟩).register "fails" fun _ =>
      ⟨[], .scripted [[.act (.delay 5), .act (.fail "no connection")]] [[.act (.panic none)]]⟩
    workers := 2 }

/-- One service of each kind. -/
def panickingRun : List Event :=
  [.request (.create "panics" ⟨"a"⟩ false), .request (.create "fails" ⟨"b"⟩ false)]

/-- They are enabled, and what their tasks do is done. -/
def panickingRest : List Event :=
  .request (.enableAll [⟨"a"⟩, ⟨"b"⟩]) :: Event.rounds 2 3 ++ [.pass 5] ++ Event.rounds 2 3

/-- The one that fails is cleaned up after, although its deactivation hook panics. -/
theorem released_after_failure :
    let p := panicking.provider.after panickingRun
    let p' := p.after panickingRest
    (p'.service 1).history = .disabled :: .enabling :: (p.service 1).history ∧
      (p'.service 1).calls .deactivate = 1 ∧
      ∃ (calls : List JournalEntry) (i : TaskId) (t : Task Job HookRun),
        (p'.service 1).callLog = calls ++ (p.service 1).callLog ∧
        p'.tasks.tasks[i]? = some t ∧ t.job = some (.enable 1) ∧ Retreat t calls := by
  have hevents : ∀ e ∈ panickingRun ++ panickingRest, e ≠ .stop := by
    rintro e he rfl
    simp [panickingRun, panickingRest, Event.rounds] at he
  exact ⟨by decide +kernel, by decide +kernel, released_after panicking rfl panickingRun
    panickingRest hevents 1 (by decide +kernel)⟩

/-- The one that panics goes back down and nothing is released. -/
theorem panic_unreleased :
    let p := panicking.provider.after panickingRun
    let p' := p.after panickingRest
    panicking.config.deactivateOnFailedActivation = true ∧
      (∀ e ∈ panickingRun ++ panickingRest, e ≠ .stop) ∧
      (p'.service 0).history = .disabled :: .enabling :: (p.service 0).history ∧
      (p.service 0).calls .activate = 0 ∧ (p'.service 0).calls .activate = 1 ∧
      (p'.service 0).calls .deactivate = 0 := by
  refine ⟨rfl, ?_, by decide +kernel, by decide +kernel, by decide +kernel, by decide +kernel⟩
  rintro e he rfl
  simp [panickingRun, panickingRest, Event.rounds] at he

end Setup

end ServiceLifecycle

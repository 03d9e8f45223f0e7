import ServiceLifecycle.Proofs.Recounts

/-!
# The hooks take turns

What the activation hook of a service takes hold of, the deactivation hook is to let go of, once,
and before anything is taken hold of again. If a failed activation is cleaned up after, and no
hook panics, that is how the hooks are called, whoever asks for what and however far the tasks
get.

* **turns** — calls that take turns (`Alternates`), and what they have come to when the service is
  at rest (`Settled`);
* **transitions** — the calls of a transition carry the turns on (`Begun.alternates`,
  `Story.settled`);
* **changes** — so does every change of a scene (`Scene.Paced.step`);
* **runs** — the hooks take turns in every run (`Setup.hooks_alternate`).
-/

namespace ServiceLifecycle

/-! ## Turns -/

/-- Whether an entry may come right after another one: what has been called returns, and then the
other hook is called. -/
def JournalEntry.follows : JournalEntry → JournalEntry → Bool
  | .returned hook _, .began hook' _ _ _ => hook = hook'
  | .began hook _ _ _, .returned hook' _ => hook ≠ hook'
  | _, _ => false

/-- Whether an entry tells of the end of a call. -/
def JournalEntry.isReturn : JournalEntry → Bool
  | .returned _ _ => true
  | .began _ _ _ _ | .noted _ => false

/-- The hooks are called in turn, one call at a time and the activation hook first. -/
structure Alternates (calls : List JournalEntry) : Prop where
  follows : calls.IsChain fun later earlier => later.follows earlier
  first : ∀ e ∈ calls.getLast?, e.begins .activate

/-- The calls of a service that is up or down. -/
inductive Settled : ServiceState → List JournalEntry → Prop
  | fresh : Settled .disabled []
  | up {calls : List JournalEntry} : Alternates (.returned .activate none :: calls) →
      Settled .enabled (.returned .activate none :: calls)
  | down {error : Option String} {calls : List JournalEntry} :
      Alternates (.returned .deactivate error :: calls) →
      Settled .disabled (.returned .deactivate error :: calls)

/-- The hooks of a service take turns, and whether it is up is what came of the last call. -/
structure Service.Alternating (s : Service) : Prop where
  order : Alternates s.callLog
  /-- No call is under way while the service is at rest. -/
  idle : s.state.isTransient = false → ∀ e ∈ s.callLog.head?, e.isReturn
  /-- The last call to return is a successful activation if and only if the service is up. -/
  settled : s.state.isTransient = false →
    (s.callLog.find? JournalEntry.isReturn = some (.returned .activate none) ↔ s.state = .enabled)

theorem Alternates.cons {later earlier : JournalEntry} {calls : List JournalEntry}
    (h : Alternates (earlier :: calls)) (hfollows : later.follows earlier) :
    Alternates (later :: earlier :: calls) :=
  ⟨List.isChain_cons_cons.mpr ⟨hfollows, h.follows⟩, by
    rw [List.getLast?_cons_cons]
    exact h.first⟩

theorem Settled.alternates {state : ServiceState} {calls : List JournalEntry}
    (h : Settled state calls) : Alternates calls := by
  cases h with
  | fresh => exact ⟨List.isChain_nil, by simp⟩
  | up halternates | down halternates => exact halternates

theorem Settled.isTransient {state : ServiceState} {calls : List JournalEntry}
    (h : Settled state calls) : state.isTransient = false := by
  cases h <;> rfl

theorem Settled.alternating {s : Service} (h : Settled s.state s.callLog) : s.Alternating := by
  refine ⟨h.alternates, fun _ => ?_, fun _ => ?_⟩ <;>
    generalize s.state = state, s.callLog = calls at h <;> cases h <;>
    simp [JournalEntry.isReturn]

/-! ## Transitions -/

/-- The hook that is called for a purpose. -/
def Purpose.hook : Purpose → Hook
  | .activation => .activate
  | .cleanup _ | .deactivation => .deactivate

section Transitions

variable {purpose : Purpose} {d : Direction} {calls past : List JournalEntry} {ending : Ending}
  {state : ServiceState} {fault : Option Fault}

theorem Begun.head (h : Begun purpose calls) : ∃ number id properties rest,
    calls = .began purpose.hook number id properties :: rest := by
  cases h <;> exact ⟨_, _, _, _, rfl⟩

/-- The call under way may return. -/
theorem Begun.returns (h : Begun purpose calls) (error : Option String)
    (halternates : Alternates (calls ++ past)) :
    Alternates (.returned purpose.hook error :: (calls ++ past)) := by
  obtain ⟨number, id, properties, rest, rfl⟩ := h.head
  exact halternates.cons (decide_eq_true rfl)

theorem Begun.alternates (h : Begun purpose calls) (hpast : Settled purpose.direction.origin past) :
    Alternates (calls ++ past) := by
  induction h with
  | activation number context =>
    change Settled .disabled past at hpast
    cases hpast with
    | fresh => exact ⟨List.isChain_singleton _, by simp [JournalEntry.begins]⟩
    | down halternates => exact halternates.cons (by rfl)
  | cleanup failure number context hbegun ih =>
    exact (hbegun.returns (some failure) (ih hpast)).cons (by rfl)
  | deactivation number context =>
    change Settled .enabled past at hpast
    cases hpast with
    | up halternates => exact halternates.cons (by rfl)

/-- A transition without a panic leaves the calls settled. -/
theorem Story.settled (h : Story true d calls ending state fault)
    (hcalm : ∀ payload, ending ≠ .panicked payload) (hpast : Settled d.origin past) :
    Settled state (calls ++ past) := by
  cases h with
  | activated hbegun => exact .up (hbegun.returns none (hbegun.alternates hpast))
  | unready | givenUp => exact hpast
  | failed _ _ hoff => cases hoff
  | cleaned failure text error hbegun =>
    exact .down (hbegun.returns error (hbegun.alternates hpast))
  | deactivated error hbegun => exact .down (hbegun.returns error (hbegun.alternates hpast))
  | panicked payload => exact absurd rfl (hcalm payload)

theorem Course.alternates {n : Incarnation} {stage : Stage HookRun} (h : Course d n stage calls)
    (hpast : Settled d.origin past) : Alternates (calls ++ past) := by
  cases h with
  | idle => exact hpast.alternates
  | hook _ hdirection hbegun => exact hbegun.alternates (hdirection ▸ hpast)

end Transitions

/-- Whether a body has ended with a panic. -/
def Task.hasPanicked {ι κ : Type} (t : Task ι κ) : Bool :=
  match t.stage with
  | .ended (.panicked _) => true
  | _ => false

/-! ## Changes -/

namespace Scene

variable {S S' : Scene} {cause : Cause} {i : TaskId} {t : Task Job HookRun} {n : Incarnation}
  {d : Direction} {s : Service}

/-- Where the calls of a service stand: settled, or carried on by a transition, or in disorder
after a panic. -/
inductive Paced (S : Scene) (n : Incarnation) : Prop
  | rests : Settled (S.service n).state (S.service n).journal → Paced S n
  | moves {i : TaskId} {t : Task Job HookRun} {d : Direction} {s : Service} :
      S.task? i = some t → t.job = some (d.job n) → t.stage.isLive = true → Tells S d n s t →
      Settled d.origin s.journal → Paced S n
  | spoilt {i : TaskId} {t : Task Job HookRun} : S.task? i = some t → t.hasPanicked = true →
      Paced S n

/-- Whatever a task makes of a service that it moves, its calls are in order or it has
panicked. -/
theorem Tells.paced (h : Tells S d n s t) (hcleans : S.cleansUp = true) (ht : S.task? i = some t)
    (hjob : t.job = some (d.job n)) (hpast : Settled d.origin s.journal) : S.Paced n := by
  by_cases hlive : t.stage.isLive = true
  · exact .moves ht hjob hlive h hpast
  · cases h with
    | underway hcourse => exact absurd hcourse.isLive hlive
    | @ended calls ending state hstage hstory hhistory hjournal =>
      by_cases hpanic : t.hasPanicked = true
      · exact .spoilt ht hpanic
      · refine .rests ?_
        rw [hcleans] at hstory
        rw [hjournal, (List.cons.inj hhistory).1]
        refine hstory.settled (fun payload heq => hpanic ?_) hpast
        simp [Task.hasPanicked, hstage, heq]

theorem Tells.alternates (h : Tells S d n s t) (hlive : t.stage.isLive = true)
    (hpast : Settled d.origin s.journal) :
    (S.service n).state = d.via ∧ Alternates (S.service n).journal := by
  cases h with
  | underway hcourse hhistory hjournal =>
    exact ⟨(List.cons.inj hhistory).1, hjournal ▸ hcourse.alternates hpast⟩
  | ended hstage =>
    rw [hstage] at hlive
    cases hlive

theorem Paced.step (h : S.Paced n) (horderly : S.Orderly) (hpresent : S.Present)
    (hcleans : S.cleansUp = true) (change : Change S cause S') : S'.Paced n := by
  have hcleans' : S'.cleansUp = true := (cleansUp_of_change change).trans hcleans
  cases h with
  | rests hsettled =>
    rcases horderly.owned.rests_or_claims change hsettled.isTransient with
      hrests | ⟨d, name, gates, horigin, rfl⟩
    · refine .rests ?_
      rw [hrests.journal, (List.cons.inj hrests.history).1]
      exact hsettled
    · -- a transition begins, behind calls that are settled
      refine (tells_of_claim hpresent.isAlive d n name gates).paced hcleans'
        (i := S.submitted) ?_ rfl (horigin ▸ hsettled)
      exact (task?_push S name gates (d.job n) S.submitted).trans (if_pos rfl)
  | moves ht hjob hlive htells hpast =>
    obtain ⟨stage, ht', htells'⟩ := htells.goes horderly hpresent change ht hjob hlive
    exact htells'.paced hcleans' ht' hjob hpast
  | @spoilt i t ht hpanic =>
    obtain ⟨stage, ht', hkeep⟩ := (horderly.gated.continues change i).task ht
    refine .spoilt ht' ?_
    obtain rfl := hkeep (by
      unfold Task.hasPanicked at hpanic
      split at hpanic
      · next hstage => rw [hstage]; rfl
      · cases hpanic)
    exact hpanic

end Scene

/-! ## Runs -/

namespace Setup

/-- If failed activations are cleaned up after, then as long as no hook panics and there is no
teardown, the hooks of every service take turns, and a service at rest is up if and only if the
last call was a successful activation. -/
theorem hooks_alternate (setup : Setup)
    (hconfig : setup.config.deactivateOnFailedActivation = true) (events : List Event)
    (hevents : ∀ e ∈ events, e ≠ .stop)
    (hcalm : ∀ t ∈ (setup.provider.after events).tasks.tasks, t.hasPanicked = false)
    (n : Incarnation) : ((setup.provider.after events).service n).Alternating := by
  have hfirst : setup.provider.scene.Paced n := by
    refine .rests ?_
    rw [setup.service_provider n]
    exact .fresh
  obtain ⟨-, -, hpaced⟩ := setup.invariant_after
    (I := fun S => S.Present ∧ S.cleansUp = true ∧ S.Paced n) (K := (· ≠ .teardown))
    ⟨setup.present_provider, hconfig, hfirst⟩
    (fun hlaw ⟨hpresent, hcleans, hpaced⟩ hcause change =>
      ⟨hpresent.step hcause change, (Scene.cleansUp_of_change change).trans hcleans,
        hpaced.step hlaw.orderly hpresent hcleans change⟩)
    events fun e he _ hcause => Event.ne_teardown (hevents e he) hcause
  cases hpaced with
  | rests hsettled => exact Settled.alternating hsettled
  | @moves i t d s ht hjob hlive htells hpast =>
    obtain ⟨hvia, horder⟩ := htells.alternates hlive hpast
    have htransient : ((setup.provider.after events).service n).state.isTransient = true :=
      (congrArg ServiceState.isTransient hvia).trans d.isTransient_via
    refine ⟨horder, fun hrest => ?_, fun hrest => ?_⟩ <;>
      rw [htransient] at hrest <;> cases hrest
  | @spoilt i t ht hpanic =>
    rw [hcalm t (Array.mem_of_getElem? ht)] at hpanic
    cases hpanic

/-- One service fails to come up, twice, and another one comes up, goes down and comes up again. -/
def alternatingRun : List Event :=
  [.request (.create "mock.Failing" ⟨"f"⟩ false), .request (.create "mock.Passthrough" ⟨"s"⟩ false),
    .request (.enableAll [⟨"f"⟩, ⟨"s"⟩])] ++ Event.rounds 3 4 ++
  [.request (.disable ⟨"s"⟩), .request (.enable ⟨"f"⟩)] ++ Event.rounds 6 4 ++
  [.request (.enable ⟨"s"⟩)] ++ Event.rounds 8 4

theorem hooks_alternate_twice :
    let p := mock.provider.after alternatingRun
    (p.service 0).state = .disabled ∧ (p.service 0).callLog.length = 8 ∧
      (p.service 1).state = .enabled ∧ (p.service 1).callLog.length = 6 ∧
      ∀ n, (p.service n).Alternating := by
  have hevents : ∀ e ∈ alternatingRun, e ≠ .stop := by
    rintro e he rfl
    simp [alternatingRun, Event.rounds] at he
  exact ⟨by decide +kernel, by decide +kernel, by decide +kernel, by decide +kernel,
    hooks_alternate mock rfl alternatingRun hevents (by decide +kernel)⟩

end Setup

end ServiceLifecycle

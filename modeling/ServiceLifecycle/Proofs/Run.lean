import ServiceLifecycle.Proofs.Requests
import ServiceLifecycle.Provider.Session

/-!
# Runs

A run of a provider is a sequence of events. Requests are made, each at once and with
nobody else getting in; tasks move, in any order; time passes; and at any moment the
scheduler may be torn down, task by task. Whatever the order, each event is a sequence
of changes of the scene, so that the invariants hold after every run.

* **events** — what may happen to a provider, and what it comes to (`Provider.after`);
* **changes** — each event by the changes it is (`Provider.happens_step`);
* **laws** — what holds after every run (`Setup.lawful_after`).
-/

namespace ServiceLifecycle

open Relation

/-- What a provider starts from. -/
structure Setup where
  config : RegistryConfig
  validator : Validator
  isValidatorObserved : Bool
  catalogue : Catalogue
  /-- The name of the scheduler. -/
  name : String
  /-- The configured number of workers. -/
  workers : Nat

/-- The provider at the beginning, without services and without tasks. -/
def Setup.provider (setup : Setup) : Provider :=
  .new
    { config := setup.config
      validator := setup.validator
      isValidatorObserved := setup.isValidatorObserved
      catalogue := setup.catalogue }
    (.new setup.name setup.workers)

/-- A provider of services that do nothing and may each refer to one other. -/
def Setup.plain : Setup where
  config := {}
  validator := .accepting
  isValidatorObserved := false
  catalogue := Catalogue.empty.register "plain" fun _ =>
    ⟨[Catalogue.referenceProperty "upstream"], .plain⟩
  name := "main"
  workers := 1

/-- A provider of services of the mock types. -/
def Setup.mock : Setup := { plain with catalogue := .mock }

/-- What may happen to a provider. -/
inductive Event where
  /-- A request is made, and nobody gets in before it is done. -/
  | request (q : Request)
  /-- A task makes its next move, if it can make one. -/
  | move (i : TaskId)
  /-- Time passes, to the given moment if it is a later one. -/
  | pass (moment : Nat)
  /-- The teardown begins. No task is given a worker any more. -/
  | stop
  /-- A task is torn down, once the teardown has begun. -/
  | tear (i : TaskId)

/-- Each of the first few tasks has its turn, several times over. -/
def Event.rounds (tasks turns : Nat) : List Event :=
  (List.replicate turns ((List.range tasks).map move)).flatten

/-- The teardown of the scheduler, task by task in the given order. -/
def Event.teardown (order : List TaskId) : List Event := .stop :: order.map .tear

/-- What brings the changes of an event about. -/
def Event.Causes : Event → Cause → Prop
  | .request _ => Cause.IsRequest
  | .move i | .tear i => (· = .task i)
  | .pass _ => fun _ => False
  | .stop => (· = .teardown)

namespace Provider

/-- What an event comes to. -/
def step (p : Provider) : Event → Provider
  | .request q => (p.perform undisturbed q).2
  | .move i => (Scheduler.move Registry.workload i p.tasks p.registry).elim p p.withParts
  | .pass moment => { p with tasks := p.tasks.passTo moment }
  | .stop => { p with tasks := { p.tasks with isAlive := false, line := [] } }
  | .tear i =>
      if p.tasks.isAlive then p
      else p.withParts (Scheduler.tear Registry.workload i p.tasks p.registry)

/-- What several events come to, one after the other. -/
def after (p : Provider) (events : List Event) : Provider := events.foldl step p

theorem after_append (p : Provider) (done rest : List Event) :
    p.after (done ++ rest) = (p.after done).after rest := List.foldl_append

/-- Once the teardown has begun, tasks are torn down. -/
theorem step_tear {p : Provider} (hdead : p.tasks.isAlive = false) (i : TaskId) :
    p.step (.tear i) = p.withParts (Scheduler.tear Registry.workload i p.tasks p.registry) := by
  show (if p.tasks.isAlive then _ else _) = _
  rw [if_neg (by simp [hdead])]

/-- Before that, none is. -/
theorem step_tear_of_alive {p : Provider} (halive : p.tasks.isAlive = true) (i : TaskId) :
    p.step (.tear i) = p := by
  show (if p.tasks.isAlive then p else _) = _
  rw [if_pos halive]

/-- To tear the scheduler down at once is to begin with it and to tear down task by task. -/
theorem tearDown_eq_after (p : Provider) :
    p.withParts (Scheduler.tearDown Registry.workload p.tasks p.registry) =
      p.after (Event.teardown (List.range p.tasks.tasks.size)) := by
  have gen : ∀ (ids : List TaskId) (s : Scheduler Job HookRun) (r : Registry),
      s.isAlive = false →
      p.withParts (ids.foldl (fun q i => Scheduler.tear Registry.workload i q.1 q.2) (s, r)) =
        (p.withParts (s, r)).after (ids.map .tear) := by
    intro ids
    induction ids with
    | nil => exact fun _ _ _ => rfl
    | cons i ids ih =>
      intro s r hdead
      have halive := (Scheduler.torn_of_tear Registry.workload i s r).2.1.trans hdead
      have hstep : (p.withParts (s, r)).step (.tear i) =
          p.withParts (Scheduler.tear Registry.workload i s r) := step_tear hdead i
      rw [List.foldl_cons, List.map_cons]
      show _ = ((p.withParts (s, r)).step (.tear i)).after _
      rw [hstep]
      exact ih _ _ halive
  exact gen _ _ _ rfl

/-! ## Events as changes -/

/-- The changes that an event may be. -/
def Happens : Event → Scene → Scene → Prop
  | .request _ => Changes Cause.IsRequest
  | .move i | .tear i => ReflGen fun S => Change S (.task i)
  | .pass _ => Eq
  | .stop => fun S => Change S .teardown

variable {p : Provider}

theorem scene_withParts {parts : Scheduler Job HookRun × Registry}
    (halive : parts.1.isAlive = p.tasks.isAlive)
    (hshutdown : parts.1.isShutdown = p.tasks.isShutdown) :
    (p.withParts parts).scene = sceneOf parts.2 { p.tasks with tasks := parts.1.tasks } := by
  unfold withParts scene sceneOf
  rw [halive, hshutdown]

/-- Each event is what it may be. -/
theorem happens_step (h : p.scene.Lawful) (e : Event) : Happens e p.scene (p.step e).scene := by
  cases e with
  | request q => exact (performs h q).changes h.orderly
  | move i =>
    show ReflGen _ p.scene
      ((Scheduler.move Registry.workload i p.tasks p.registry).elim p p.withParts).scene
    cases hmove : Scheduler.move Registry.workload i p.tasks p.registry with
    | none => exact .refl
    | some parts =>
      obtain ⟨s, r⟩ := parts
      obtain ⟨hmoves, halive, hshutdown⟩ := Scheduler.moves_of_move hmove
      refine .single ?_
      rw [Option.elim_some, scene_withParts halive hshutdown]
      exact change_of_moves h.orderly hmoves
  | pass moment => rfl
  | stop => exact .stops
  | tear i =>
    show ReflGen _ p.scene (if p.tasks.isAlive then p
      else p.withParts (Scheduler.tear Registry.workload i p.tasks p.registry)).scene
    split
    · exact .refl
    · next hdead =>
      rw [Bool.not_eq_true] at hdead
      obtain ⟨htorn, halive, hshutdown⟩ :=
        Scheduler.torn_of_tear Registry.workload i p.tasks p.registry
      rw [scene_withParts halive hshutdown]
      rcases change_of_torn h.orderly hdead htorn with hchange | heq
      · exact .single hchange
      · rw [heq]
        exact .refl

theorem Happens.changes {e : Event} {S S' : Scene} (h : Happens e S S') :
    Changes e.Causes S S' := by
  cases e with
  | request q => exact h
  | move i | tear i =>
    cases h with
    | refl => exact .refl
    | single change => exact Changes.single rfl change
  | pass moment => exact h ▸ .refl
  | stop => exact Changes.single rfl h

end Provider

/-! ## Laws -/

namespace Scene.Lawful

variable {p : Provider}

/-- The laws hold ever after. -/
theorem after (h : p.scene.Lawful) (events : List Event) : (p.after events).scene.Lawful :=
  List.foldlRecOn (motive := fun q : Provider => q.scene.Lawful) events Provider.step h
    fun _ h e _ => h.changes (Provider.happens_step h e).changes

/-- What is kept by every change that can come up holds ever after. -/
theorem keeps_after (h : p.scene.Lawful) {I : Scene → Prop} {K : Cause → Prop} (hfirst : I p.scene)
    (hstep : ∀ {S S' : Scene} {cause : Cause}, S.Lawful → I S → K cause → Change S cause S' → I S')
    (events : List Event) (hevents : ∀ e ∈ events, ∀ cause, e.Causes cause → K cause) :
    I (p.after events).scene := by
  -- along the changes of one event
  have hall : ∀ {K' : Cause → Prop} {S T : Scene}, (∀ cause, K' cause → K cause) →
      Changes K' S T → S.Lawful → I S → I T := by
    intro K' S T hcauses changes hlawful hfirst
    induction changes with
    | refl => exact hfirst
    | tail hsteps hlast ih =>
      obtain ⟨cause, hcause, change⟩ := hlast
      exact hstep (hlawful.changes hsteps) ih (hcauses cause hcause) change
  refine (List.foldlRecOn (motive := fun q : Provider => q.scene.Lawful ∧ I q.scene) events
    Provider.step ⟨h, hfirst⟩ fun q hq e he => ?_).2
  have changes := (Provider.happens_step hq.1 e).changes
  exact ⟨hq.1.changes changes, hall (hevents e he) changes hq.1 hq.2⟩

end Scene.Lawful

namespace Setup

theorem service_provider (setup : Setup) (n : Incarnation) :
    setup.provider.scene.service n = default := by
  show ((#[] : Array Service)[n]?.getD default).outline = default
  rw [Array.getElem?_empty]
  rfl

theorem task?_provider (setup : Setup) (i : TaskId) : setup.provider.scene.task? i = none :=
  Array.getElem?_empty

/-- In the beginning there is nothing that could break a law. -/
theorem lawful_provider (setup : Setup) : setup.provider.scene.Lawful := by
  have hservice := setup.service_provider
  have htask := setup.task?_provider
  have hfind : ∀ id, setup.provider.scene.find? id = none := fun _ => rfl
  have hrecorded : ∀ y x, ¬ setup.provider.scene.recorded y x := by
    intro y x h
    cases h
  have hstate : ∀ n, (setup.provider.scene.service n).state = .disabled := by
    intro n
    rw [hservice]
    rfl
  have hvia : ∀ n (d : Direction), (setup.provider.scene.service n).state ≠ d.via := by
    intro n d h
    exact d.via_ne_disabled (h.symm.trans (hstate n))
  have hnamed : setup.provider.scene.Named := {
    within := by simp [hfind]
    own := by simp [hfind]
    housed n h := absurd (hstate n) h
    indexed := by simp [hfind, hrecorded]
    coherent n := by
      rw [hservice]
      simp [PropertyStore.Coherent, default, PropertyStore.empty, OrderedSet.empty, Table.empty,
        Table.values] }
  have howned : setup.provider.scene.Owned := {
    held := by simp [htask]
    holds n d h := absurd h (hvia n d)
    rests n _ := by
      rw [hservice]
      rfl
    matched := by simp [htask] }
  have hgated : setup.provider.scene.Gated := ⟨by simp [htask], by simp [htask], by simp [htask]⟩
  have hsupported : setup.provider.scene.Supported := {
    grounded n h := by
      rw [hstate] at h
      cases h
    yielding := by simp [htask]
    ready := by simp [htask] }
  exact ⟨⟨hnamed, hgated, howned⟩, hsupported⟩

/-- The laws hold after every run. -/
theorem lawful_after (setup : Setup) (events : List Event) :
    (setup.provider.after events).scene.Lawful := setup.lawful_provider.after events

/-- What holds in the beginning and is kept by every change that can come up holds after
every run. -/
theorem invariant_after (setup : Setup) {I : Scene → Prop} {K : Cause → Prop}
    (hfirst : I setup.provider.scene)
    (hstep : ∀ {S S' : Scene} {cause : Cause}, S.Lawful → I S → K cause → Change S cause S' → I S')
    (events : List Event) (hevents : ∀ e ∈ events, ∀ cause, e.Causes cause → K cause) :
    I (setup.provider.after events).scene :=
  setup.lawful_provider.keeps_after hfirst hstep events hevents

end Setup

end ServiceLifecycle

import Mathlib.Logic.Relation
import ServiceLifecycle.Proofs.Hooks

/-!
# What can change

Every operation and every move of a task is a sequence of changes to the scene, and
`Change` lists them all. Later proofs go through its cases and do not open an
operation again.

* **direction** — a transition goes up or down; either way it has an origin, a state
  while it lasts, a goal and a job (`Direction`);
* **gates** — which task waits behind which (`Scene.Gate`, `Scene.Behind`);
* **conclusion** — how the task of a transition can end (`Scene.Concludes`);
* **change** — all that can happen (`Change`).
-/

namespace ServiceLifecycle

open Relation

/-! ## Directions -/

/-- Which way a transition goes. -/
inductive Direction where
  | up
  | down
  deriving DecidableEq, Repr

namespace Direction

/-- Where the transition starts, and where it ends if it is given up. -/
def origin : Direction → ServiceState
  | up => .disabled
  | down => .enabled

/-- The state while the transition lasts. -/
def via : Direction → ServiceState
  | up => .enabling
  | down => .disabling

/-- Where the transition leads. -/
def goal : Direction → ServiceState
  | up => .enabled
  | down => .disabled

/-- The job of the transition. -/
def job (n : Incarnation) : Direction → Job
  | up => .enable n
  | down => .disable n

@[simp] theorem job_inj {d d' : Direction} {n m : Incarnation} :
    d.job n = d'.job m ↔ d = d' ∧ n = m := by
  cases d <;> cases d' <;> simp [job]

@[simp] theorem job_ne_confirm {d : Direction} {n m : Incarnation} : d.job n ≠ .confirm m := by
  cases d <;> simp [job]

@[simp] theorem via_inj {d d' : Direction} : d.via = d'.via ↔ d = d' := by
  cases d <;> cases d' <;> simp [via]

@[simp] theorem isTransient_via (d : Direction) : d.via.isTransient = true := by
  cases d <;> rfl

@[simp] theorem isTransient_origin (d : Direction) : d.origin.isTransient = false := by
  cases d <;> rfl

@[simp] theorem isTransient_goal (d : Direction) : d.goal.isTransient = false := by
  cases d <;> rfl

theorem via_ne_disabled (d : Direction) : d.via ≠ .disabled := by
  cases d <;> simp [via]

theorem via_ne_enabled (d : Direction) : d.via ≠ .enabled := by
  cases d <;> simp [via]

end Direction

theorem ServiceState.isTransient_iff {s : ServiceState} :
    s.isTransient = true ↔ ∃ d : Direction, s = d.via := by
  constructor
  · intro h
    cases s
    · simp [isTransient] at h
    · exact ⟨.up, rfl⟩
    · simp [isTransient] at h
    · exact ⟨.down, rfl⟩
  · rintro ⟨d, rfl⟩
    exact d.isTransient_via

/-- The direction of the transition that a hook was called for. -/
def Purpose.direction : Purpose → Direction
  | .activation | .cleanup _ => .up
  | .deactivation => .down

theorem Purpose.source_eq (p : Purpose) : p.source = p.direction.via := by
  cases p <;> rfl

namespace Scene

/-! ## Gates -/

/-- The second task is a gate of the first. -/
def Gate (S : Scene) (i g : TaskId) : Prop := ∃ t, S.task? i = some t ∧ g ∈ t.gates

/-- The second task is a gate of the first, or a gate of one of its gates, and so on. -/
abbrev Behind (S : Scene) : TaskId → TaskId → Prop := TransGen S.Gate

/-- The task is one of some gates, or one of these waits behind it. -/
def Covers (S : Scene) (gates : List TaskId) (j : TaskId) : Prop :=
  ∃ g ∈ gates, ReflTransGen S.Gate g j

/-- The task completed. -/
def Completed (S : Scene) (i : TaskId) : Prop :=
  ∃ t, S.task? i = some t ∧ t.stage = .ended .completed

/-- Every service that `n` refers to is up. -/
def Ready (S : Scene) (n : Incarnation) : Prop :=
  ∀ y ∈ (S.service n).references, S.stateOf? y = some .enabled

/-! ## Moves -/

/-- The stages that a task can reach with nothing else happening. -/
inductive Advances (S : Scene) (t : Task Job HookRun) : Stage HookRun → Prop
  | enters : t.stage = .queued → Advances S t (.gated t.gates)
  | passes {g : TaskId} {later : List TaskId} :
      t.stage = .gated (g :: later) → S.Completed g → Advances S t (.gated later)
  | lines : t.stage = .gated [] → Advances S t .waiting

/-- Why a task cannot go on. -/
inductive Hindered (S : Scene) (t : Task Job HookRun) : Prop
  /-- Its next gate will not complete. -/
  | gate {g : TaskId} {later : List TaskId} {gate : Task Job HookRun} :
      t.stage = .gated (g :: later) → S.task? g = some gate → gate.stage.isLive = false →
      gate.stage ≠ .ended .completed → Hindered S t
  /-- It would need a worker and is refused one. -/
  | shut : S.isShutdown = true → t.stage = .gated [] ∨ t.stage = .waiting → Hindered S t
  | torn : S.isAlive = false → Hindered S t

/-- A task has its turn and its body is at a hook called for a purpose, just now or earlier.
The calls begun just now are given. -/
inductive Called (S : Scene) (t : Task Job HookRun) :
    Incarnation → Purpose → List JournalEntry → Prop
  | activation {n : Incarnation} (number : Nat) (context : Context) :
      t.stage = .waiting → t.job = some (Direction.up.job n) → S.Ready n →
      Called S t n .activation [.began .activate number context.id context.properties]
  | deactivation {n : Incarnation} (number : Nat) (context : Context) :
      t.stage = .waiting → t.job = some (Direction.down.job n) →
      Called S t n .deactivation [.began .deactivate number context.id context.properties]
  | again {wake : Nat} {run : HookRun} :
      t.stage = .running (some wake) run →
      t.job = some (run.purpose.direction.job run.service) →
      Called S t run.service run.purpose []

/-- How the task of a transition can end: what was written down, where the service is put,
the fault and the ending of the task. -/
inductive Concludes (S : Scene) (t : Task Job HookRun) (n : Incarnation) :
    List JournalEntry → ServiceState → Option Fault → Ending → Prop
  | ends {purpose : Purpose} {before after : List JournalEntry} {turn : Turn HookRun}
      {state : ServiceState} {fault : Option Fault} {ending : Ending} :
      S.Called t n purpose before → Hooked S.cleansUp n purpose after turn (some (state, fault)) →
      turn.ending? = some ending → Concludes S t n (after ++ before) state fault ending
  | panics {purpose : Purpose} {before after : List JournalEntry} {payload : Option String} :
      S.Called t n purpose before → Hooked S.cleansUp n purpose after (.panics payload) none →
      Concludes S t n (after ++ before) purpose.direction.origin
        (some ⟨.aborted, Ending.panicReason payload⟩) (.panicked payload)
  | blocked (reason : String) :
      t.stage = .waiting → t.job = some (Direction.up.job n) → ¬ S.Ready n →
      Concludes S t n [] .disabled (some ⟨.activation, reason⟩) (.failed reason)
  | aborts (d : Direction) (reason : String) :
      t.stage.isLive = true → t.job = some (d.job n) → S.Hindered t →
      Concludes S t n [] d.origin (some ⟨.aborted, reason⟩) (.aborted reason)

/-! ## Claims -/

/-- The task takes a service down. -/
def Lowers (S : Scene) (i : TaskId) : Prop :=
  ∃ t, S.task? i = some t ∧ ∃ n, t.job = some (Direction.down.job n)

/-- What a claim makes sure of. On the way up no reference is going down; on the way down
every other service that refers to this one is down, or going down ahead of it, and only
services that go down are waited for. -/
def MayLeave (S : Scene) (n : Incarnation) (gates : List TaskId) : Direction → Prop
  | .up => ∀ y ∈ (S.service n).references, y ≠ (S.service n).id →
      S.stateOf? y ≠ some .disabling
  | .down =>
      (∀ g ∈ gates, S.Lowers g) ∧
      ∀ u m, S.find? u = some m → m ≠ n → (S.service n).id ∈ (S.service m).references →
        (S.service m).state = .disabled ∨
        (S.service m).state = .disabling ∧
          ∃ j, (S.service m).transition = some j ∧ S.Covers gates j

/-! ## Editing -/

/-- A service comes into being. It is registered only if asked for. -/
def appear (S : Scene) (s : Service) (isRegistered : Bool) : Scene :=
  { S with
    size := S.size + 1
    service := Function.update S.service S.size s
    find? := if isRegistered then Function.update S.find? s.id (some S.size) else S.find? }

/-- A service gets other properties, and the record of references follows. -/
def edit (S : Scene) (n : Incarnation) (properties : PropertyStore) : Scene :=
  { S.put n { S.service n with properties } with
    recorded := fun y x =>
      (x = (S.service n).id ∧ y ∈ properties.references.toList ∨ S.recorded y x) ∧
        ¬ (x = (S.service n).id ∧ y ∈ (S.service n).references ∧
          y ∉ properties.references.toList) }

/-- A service is removed for good. -/
def remove (S : Scene) (n : Incarnation) : Scene :=
  { S.put n { S.service n with removed := true } with
    find? := Function.update S.find? (S.service n).id none
    recorded := fun y x => S.recorded y x ∧
      ¬ (x = (S.service n).id ∧ y ∈ (S.service n).references) }

end Scene

/-- The references of a store are those of its values. -/
def PropertyStore.Coherent (s : PropertyStore) : Prop :=
  ∀ y, y ∈ s.references.toList ↔ .reference y ∈ s.values.values

/-- What brings a change about. -/
inductive Cause where
  /-- A request that edits the registry. -/
  | edit
  /-- A request that claims services for a transition, or has a task wait for one. -/
  | claim (d : Direction)
  | shutdown
  /-- The beginning of the teardown. -/
  | teardown
  /-- A move of a task, or its teardown. -/
  | task (i : TaskId)

/-- Whether a request brings the change about. -/
def Cause.IsRequest : Cause → Prop
  | .edit | .claim _ | .shutdown => True
  | .teardown | .task _ => False

open Scene in
/-- All that can happen to a scene. -/
inductive Change (S : Scene) : Cause → Scene → Prop
  | appears (id : ServiceId) (typeName : String) (descriptors : List Descriptor)
      (behaviour : Behaviour) (isRegistered : Bool) :
      S.service S.size = default → (isRegistered = true → S.find? id = none) →
      Change S .edit (S.appear { id, typeName, descriptors, behaviour } isRegistered)
  | edits {n : Incarnation} (properties : PropertyStore) :
      S.find? (S.service n).id = some n → (S.service n).state = .disabled →
      properties.Coherent → Change S .edit (S.edit n properties)
  | removes {n : Incarnation} :
      S.find? (S.service n).id = some n → (S.service n).state = .disabled →
      Change S .edit (S.remove n)
  /-- A service that was to be enabled on its creation has not been claimed. -/
  | blames {n : Incarnation} (message : String) :
      n < S.size → (S.service n).past = [] →
      Change S .edit (S.put n { S.service n with fault := some ⟨.rejected, message⟩ })
  | shuts : Change S .shutdown { S with isShutdown := true }
  | stops : Change S .teardown { S with isAlive := false }
  | claims (d : Direction) {n : Incarnation} (name : String) {gates : List TaskId} :
      S.find? (S.service n).id = some n → (S.service n).state = d.origin →
      (∀ g ∈ gates, g < S.submitted) → S.MayLeave n gates d →
      Change S (.claim d) (S.claimed n d.via name gates (d.job n))
  | joins (n : Incarnation) (name : String) {gates : List TaskId} :
      (∀ g ∈ gates, g < S.submitted) → Change S (.claim .up) (S.push name gates (.confirm n))
  | advances {i : TaskId} {t : Task Job HookRun} {stage : Stage HookRun} :
      S.task? i = some t → S.Advances t stage → Change S (.task i) (S.stand i t stage)
  | sleeps {i : TaskId} {t : Task Job HookRun} {n : Incarnation} {purpose : Purpose}
      {before after : List JournalEntry} {time wake : Option Nat} {run : HookRun} :
      S.task? i = some t → S.Called t n purpose before →
      Hooked S.cleansUp n purpose after (.sleeps time run) none →
      Change S (.task i)
        ((S.put n ((S.service n).recordAll (after ++ before))).stand i t (.running wake run))
  | concludes {i : TaskId} {t : Task Job HookRun} {n : Incarnation} {entries : List JournalEntry}
      {state : ServiceState} {fault : Option Fault} {ending : Ending} :
      S.task? i = some t → S.Concludes t n entries state fault ending →
      Change S (.task i)
        ((S.put n (((S.service n).recordAll entries).settle state fault)).stand i t (.ended ending))
  | confirms {i : TaskId} {t : Task Job HookRun} {n : Incarnation} :
      S.task? i = some t → t.stage = .waiting → t.job = some (.confirm n) →
      (S.service n).state = .enabled → Change S (.task i) (S.stand i t (.ended .completed))
  | denies {i : TaskId} {t : Task Job HookRun} {n : Incarnation} {ending : Ending} :
      S.task? i = some t → t.stage.isLive = true → t.job = some (.confirm n) →
      t.stage = .waiting ∧ (S.service n).state ≠ .enabled ∨ S.Hindered t →
      ending ≠ .completed → (∀ payload, ending ≠ .panicked payload) →
      Change S (.task i) (S.stand i t (.ended ending))
  | drops {i : TaskId} {t : Task Job HookRun} :
      S.task? i = some t → t.stage = .queued → S.isAlive = false →
      Change S (.task i) (S.stand i t (.dropped false))

/-- A sequence of changes brought about by such causes. -/
abbrev Changes (K : Cause → Prop) : Scene → Scene → Prop :=
  ReflTransGen fun S S' => ∃ cause, K cause ∧ Change S cause S'

theorem Changes.single {K : Cause → Prop} {S S' : Scene} {cause : Cause} (hcause : K cause)
    (change : Change S cause S') : Changes K S S' := ReflTransGen.single ⟨cause, hcause, change⟩

theorem Changes.head {K : Cause → Prop} {S S' T : Scene} {cause : Cause} (hcause : K cause)
    (change : Change S cause S') (changes : Changes K S' T) : Changes K S T :=
  ReflTransGen.head ⟨cause, hcause, change⟩ changes

theorem Changes.mono {K L : Cause → Prop} (hKL : ∀ cause, K cause → L cause) {S S' : Scene}
    (changes : Changes K S S') : Changes L S S' :=
  ReflTransGen.mono (fun _ _ ⟨cause, hcause, change⟩ => ⟨cause, hKL cause hcause, change⟩) _ _
    changes

/-! ## What the cases have in common -/

theorem Hooked.run {cleansUp : Bool} {n : Incarnation} {purpose : Purpose}
    {entries : List JournalEntry} {time : Option Nat} {run : HookRun} {ending : Option (ServiceState × Option Fault)}
    (h : Hooked cleansUp n purpose entries (.sleeps time run) ending) :
    run.service = n ∧ run.purpose.direction = purpose.direction ∧ ending = none := by
  generalize hturn : Turn.sleeps time run = turn at h
  induction h with
  | sleeps => cases hturn; exact ⟨rfl, rfl, rfl⟩
  | cleans _ _ _ _ ih => exact ih hturn
  | panics | activated | failed | cleaned | deactivated => cases hturn

/-- An activation that sleeps began as one. -/
theorem Hooked.activation {cleansUp : Bool} {n : Incarnation} {purpose : Purpose}
    {entries : List JournalEntry} {time : Option Nat} {run : HookRun} {ending : Option (ServiceState × Option Fault)}
    (h : Hooked cleansUp n purpose entries (.sleeps time run) ending) (hrun : run.purpose = .activation) :
    purpose = .activation := by
  cases h with
  | sleeps => exact hrun
  | cleans => rfl

/-- A transition that a hook ends leads to its goal if the task completes, and else back. -/
theorem Hooked.ending {cleansUp : Bool} {n : Incarnation} {purpose : Purpose}
    {entries : List JournalEntry} {turn : Turn HookRun} {state : ServiceState} {fault : Option Fault} {ending : Ending}
    (h : Hooked cleansUp n purpose entries turn (some (state, fault))) (hturn : turn.ending? = some ending) :
    ending = .completed ∧ state = purpose.direction.goal ∧ (∀ f, purpose ≠ .cleanup f) ∨
      ending ≠ .completed ∧ (∀ payload, ending ≠ .panicked payload) ∧
        state = purpose.direction.origin := by
  generalize hresult : some (state, fault) = result at h
  induction h with
  | sleeps | panics => cases hresult
  | activated => cases hresult; cases hturn; exact .inl ⟨rfl, rfl, by simp⟩
  | failed => cases hresult; cases hturn; exact .inr ⟨by simp, by simp, rfl⟩
  | cleans _ _ _ _ ih =>
    rcases ih hturn hresult with ⟨-, -, hne⟩ | hback
    · exact absurd rfl (hne _)
    · exact .inr hback
  | cleaned => cases hresult; cases hturn; exact .inr ⟨by simp, by simp, rfl⟩
  | deactivated => cases hresult; cases hturn; exact .inl ⟨rfl, rfl, by simp⟩

/-- Only a new activation begins a call of the activation hook. -/
theorem Hooked.begins_activate {cleansUp : Bool} {n : Incarnation} {purpose : Purpose}
    {entries : List JournalEntry} {turn : Turn HookRun} {ending : Option (ServiceState × Option Fault)}
    (h : Hooked cleansUp n purpose entries turn ending) :
    entries.countP (JournalEntry.begins .activate) = 0 := by
  induction h with
  | sleeps | panics | activated | failed | cleaned | deactivated => rfl
  | cleans number context _ _ ih =>
    rw [List.countP_append, List.countP_append, ih]
    rfl

/-- Whether a task is past its gates and has not ended. -/
def Stage.isFree {κ : Type} : Stage κ → Bool
  | .waiting | .running _ _ => true
  | .queued | .gated _ | .ended _ | .external _ | .dropped _ => false

theorem Stage.isLive_of_isFree {κ : Type} {stage : Stage κ} (h : stage.isFree = true) :
    stage.isLive = true := by
  cases stage <;> simp_all [Stage.isFree, Stage.isLive]

/-- The gates that a task with the given gates has not found complete at a stage. -/
def Stage.unpassed {κ : Type} (gates : List TaskId) : Stage κ → List TaskId
  | .gated remaining => remaining
  | .waiting | .running _ _ | .ended .completed => []
  | .queued | .ended _ | .external _ | .dropped _ => gates

theorem Stage.unpassed_of_isFree {κ : Type} {stage : Stage κ} (gates : List TaskId)
    (h : stage.isFree = true) : stage.unpassed gates = [] := by
  cases stage <;> simp_all [Stage.isFree, Stage.unpassed]

theorem Stage.unpassed_ended {κ : Type} (gates : List TaskId) {ending : Ending}
    (h : ending ≠ .completed) : (Stage.ended ending : Stage κ).unpassed gates = gates := by
  cases ending <;> simp_all [Stage.unpassed]

namespace Scene

variable {S : Scene} {t : Task Job HookRun} {n : Incarnation}

theorem service_appear_of_ne {s : Service} {isRegistered : Bool} (h : n ≠ S.size) :
    (S.appear s isRegistered).service n = S.service n :=
  Function.update_of_ne h _ _

theorem service_appear_self (S : Scene) (s : Service) (isRegistered : Bool) :
    (S.appear s isRegistered).service S.size = s :=
  Function.update_self ..

/-- What is registered stays registered when a service comes into being. -/
theorem find?_appear {s : Service} {isRegistered : Bool} {id : ServiceId}
    (hfree : isRegistered = true → S.find? s.id = none) (h : S.find? id = some n) :
    (S.appear s isRegistered).find? id = some n := by
  unfold appear
  cases isRegistered with
  | false => exact h
  | true =>
    have hid : id ≠ s.id := fun heq => by simp [heq, hfree rfl] at h
    simp only [if_true, Function.update_of_ne hid, h]

/-- A name shows either the new service or what it showed before. -/
theorem find?_of_appear {s : Service} {isRegistered : Bool} {id : ServiceId} {m : Incarnation}
    (hm : (S.appear s isRegistered).find? id = some m) :
    id = s.id ∧ m = S.size ∨ S.find? id = some m := by
  unfold appear at hm
  cases isRegistered with
  | false => exact .inr hm
  | true =>
    by_cases hid : id = s.id
    · subst hid
      simp only [if_true, Function.update_self, Option.some.injEq] at hm
      exact .inl ⟨rfl, hm.symm⟩
    · simp only [if_true, Function.update_of_ne hid] at hm
      exact .inr hm

theorem find?_remove {id : ServiceId} {m : Incarnation} (h : S.find? id = some m)
    (hid : id ≠ (S.service n).id) : (S.remove n).find? id = some m := by
  show Function.update S.find? (S.service n).id none id = some m
  rw [Function.update_of_ne hid, h]

/-- The task is at the activation hook of a service. -/
def Activates (t : Task Job HookRun) (n : Incarnation) : Prop :=
  ∃ wake run, t.stage = .running wake run ∧ run.service = n ∧ run.purpose = .activation

theorem Called.job {purpose : Purpose} {before : List JournalEntry}
    (h : S.Called t n purpose before) : t.job = some (purpose.direction.job n) := by
  cases h <;> assumption

theorem Called.isFree {purpose : Purpose} {before : List JournalEntry}
    (h : S.Called t n purpose before) : t.stage.isFree = true := by
  cases h <;> simp_all [Stage.isFree]

/-- The activation hook is called for a service that is ready, by a task that has just been
given a worker. -/
theorem Called.begins_activate {purpose : Purpose} {before : List JournalEntry}
    (h : S.Called t n purpose before) :
    before.countP (JournalEntry.begins .activate) = 0 ∧ (purpose = .activation → Activates t n) ∨
      before.countP (JournalEntry.begins .activate) = 1 ∧ purpose = .activation ∧
        t.stage = .waiting ∧ S.Ready n := by
  cases h with
  | activation number context hstage _ hready => exact .inr ⟨rfl, rfl, hstage, hready⟩
  | deactivation => exact .inl ⟨rfl, by simp⟩
  | again hstage => exact .inl ⟨rfl, fun hpurpose => ⟨_, _, hstage, rfl, hpurpose⟩⟩

/-- A task that is at the activation hook found everything up when it began. -/
theorem Called.ready {before : List JournalEntry} (h : S.Called t n .activation before) :
    S.Ready n ∨ Activates t n := by
  rcases h.begins_activate with ⟨-, hactivates⟩ | ⟨-, -, -, hready⟩
  · exact .inr (hactivates rfl)
  · exact .inl hready

/-- The task of a transition leads it to its goal if it completes, and else back. On the
way up it completes only if everything was up when it was at the hook. -/
theorem Concludes.direction {entries : List JournalEntry} {state : ServiceState}
    {fault : Option Fault} {ending : Ending} (h : S.Concludes t n entries state fault ending) :
    ∃ d : Direction, t.job = some (d.job n) ∧ t.stage.isLive = true ∧
      (ending = .completed ∧ state = d.goal ∧ t.stage.isFree = true ∧
        (d = .up → S.Ready n ∨ Activates t n) ∨
       ending ≠ .completed ∧ state = d.origin) := by
  cases h with
  | @ends purpose _ _ _ _ _ _ hcalled hooked hturn =>
    refine ⟨_, hcalled.job, Stage.isLive_of_isFree hcalled.isFree, ?_⟩
    rcases hooked.ending hturn with ⟨hend, hstate, hne⟩ | ⟨hend, -, hstate⟩
    · refine .inl ⟨hend, hstate, hcalled.isFree, fun hup => ?_⟩
      cases purpose with
      | activation => exact hcalled.ready
      | cleanup f => exact absurd rfl (hne f)
      | deactivation => cases hup
    · exact .inr ⟨hend, hstate⟩
  | panics hcalled hooked =>
    exact ⟨_, hcalled.job, Stage.isLive_of_isFree hcalled.isFree, .inr ⟨by simp, rfl⟩⟩
  | blocked reason hstage hjob _ =>
    exact ⟨.up, hjob, by rw [hstage]; rfl, .inr ⟨by simp, rfl⟩⟩
  | aborts d reason hlive hjob _ => exact ⟨d, hjob, hlive, .inr ⟨by simp, rfl⟩⟩

end Scene

end ServiceLifecycle

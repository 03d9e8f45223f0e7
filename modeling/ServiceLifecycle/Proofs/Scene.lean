import Mathlib.Logic.Function.Basic
import ServiceLifecycle.Proofs.Index
import ServiceLifecycle.Proofs.Moves
import ServiceLifecycle.Provider.Perform

/-!
# What a provider looks like from outside

A `Scene` is what is left of a provider once everything is taken away that no
lifecycle depends on: remarks, memory, components, verdicts, who watches whom. Two
providers with the same scene are in the same place of every lifecycle, so that of
most operations no more has to be said than that they leave the scene as it is.

* **outline** — a registry without such things (`Registry.outline`);
* **scene** — an outline together with the tasks (`Provider.scene`);
* **effects** — what can be done to a scene: a service is put in another condition, a
  task is put at another stage, a task is taken in;
* **claims** — how an attempt to claim a service may turn out (`Provider.Claiming`).
-/

namespace ServiceLifecycle

/-- Whether an entry tells of the beginning or the end of a call. -/
def JournalEntry.isCall : JournalEntry → Bool
  | .began _ _ _ _ | .returned _ _ => true
  | .noted _ => false

/-- Whether an entry tells of the beginning of a call of a hook. -/
def JournalEntry.begins (hook : Hook) : JournalEntry → Bool
  | .began h _ _ _ => h = hook
  | .returned _ _ | .noted _ => false

namespace Service

/-- A service without its verdict and without what its hooks took down. -/
def outline (s : Service) : Service :=
  { s with verdict := .valid, journal := s.journal.filter JournalEntry.isCall }

/-- The end of a transition. -/
def settle (s : Service) (state : ServiceState) (fault : Option Fault) : Service :=
  { s.publish state with transition := none, fault := fault.or s.fault }

/-- The beginning of a transition, which is task `i`. -/
def depart (s : Service) (state : ServiceState) (i : TaskId) : Service :=
  { s.publish state with fault := none, transition := some i }

/-- Writes down several things that happened, the latest first. -/
def recordAll (s : Service) (entries : List JournalEntry) : Service :=
  { s with journal := entries ++ s.journal }

theorem calls_eq (s : Service) (hook : Hook) :
    s.calls hook = s.journal.countP (JournalEntry.begins hook) := by
  unfold calls
  congr 1

theorem calls_outline (s : Service) (hook : Hook) : s.outline.calls hook = s.calls hook := by
  rw [calls_eq, calls_eq, outline, List.countP_filter]
  congr 1
  funext e
  cases e <;> simp [JournalEntry.isCall, JournalEntry.begins]

theorem calls_recordAll (s : Service) (entries : List JournalEntry) (hook : Hook) :
    (s.recordAll entries).calls hook =
      entries.countP (JournalEntry.begins hook) + s.calls hook := by
  rw [calls_eq, calls_eq, recordAll, List.countP_append]

theorem outline_record (s : Service) (e : JournalEntry) :
    (s.record e).outline = if e.isCall then s.outline.recordAll [e] else s.outline := by
  unfold record outline recordAll
  cases h : e.isCall <;> simp [h]

end Service

/-! ## Outlines -/

/-- A registry as far as lifecycles depend on it. -/
structure Outline where
  /-- How many services there have been. -/
  size : Nat
  service : Incarnation → Service
  find? : ServiceId → Option Incarnation
  /-- Whether the first is recorded as referred to by the second. -/
  recorded : ServiceId → ServiceId → Prop
  /-- Whether the other hook is called when an activation has failed. -/
  cleansUp : Bool

namespace Outline

/-- Puts a service in another condition. -/
def put (o : Outline) (n : Incarnation) (s : Service) : Outline :=
  { o with service := Function.update o.service n s }

/-- The state of the service registered under a name. -/
def stateOf? (o : Outline) (id : ServiceId) : Option ServiceState :=
  (o.find? id).map fun n => (o.service n).state

/-- Writes down what happened to an implementation. -/
def record (o : Outline) (n : Incarnation) (entries : List JournalEntry) : Outline :=
  o.put n ((o.service n).recordAll entries)

/-- Ends a transition, if there is one to end. -/
def settle (o : Outline) (n : Incarnation) : Option (ServiceState × Option Fault) → Outline
  | none => o
  | some (state, fault) => o.put n ((o.service n).settle state fault)

theorem service_put (o : Outline) (n m : Incarnation) (s : Service) :
    (o.put n s).service m = if m = n then s else o.service m := by
  simp only [put, Function.update_apply]

theorem put_put (o : Outline) (n : Incarnation) (s t : Service) :
    (o.put n s).put n t = o.put n t := by
  simp only [put, Function.update_idem]

@[simp] theorem put_self (o : Outline) (n : Incarnation) : o.put n (o.service n) = o := by
  simp only [put, Function.update_eq_self]

@[simp] theorem record_nil (o : Outline) (n : Incarnation) : o.record n [] = o :=
  o.put_self n

theorem record_record (o : Outline) (n : Incarnation) (es fs : List JournalEntry) :
    (o.record n es).record n fs = o.record n (fs ++ es) := by
  simp [record, put_put, service_put, Service.recordAll]

end Outline

namespace Registry

/-- What lifecycles depend on. -/
def outline (r : Registry) : Outline where
  size := r.services.size
  service n := (r.service n).outline
  find? := r.find?
  recorded y x := r.referrers.has y (.service x) = true
  cleansUp := r.config.deactivateOnFailedActivation

variable {r : Registry} {n : Incarnation}

theorem outline_stateOf? (r : Registry) (id : ServiceId) :
    r.outline.stateOf? id = r.stateOf? id := by
  simp only [Outline.stateOf?, stateOf?, lookup?, outline, Option.map_map]
  rfl

/-- Only services that have come into being can be in another state than disabled. -/
theorem lt_of_state (h : (r.service n).state ≠ .disabled) : n < r.services.size := by
  by_contra hge
  rw [service, Array.getElem?_eq_none (Nat.le_of_not_lt hge)] at h
  exact h rfl

theorem service_modify (hn : n < r.services.size) (f : Service → Service) (m : Incarnation) :
    (r.modify n f).service m = if m = n then f (r.service n) else r.service m := by
  unfold modify service
  rw [Array.getElem?_modify]
  by_cases h : m = n
  · subst h
    simp [hn]
  · rw [if_neg (Ne.symm h), if_neg h]

@[simp] theorem outline_say (r : Registry) (remark : Remark) : (r.say remark).outline = r.outline :=
  rfl

theorem outline_sayAll (remarks : List Remark) (r : Registry) :
    (r.sayAll remarks).outline = r.outline := by
  unfold sayAll
  induction remarks generalizing r with
  | nil => rfl
  | cons m rest ih => exact ih (r.say m)

/-- A change to one service changes the outline in one place. -/
theorem outline_modify (hn : n < r.services.size) (f : Service → Service) :
    (r.modify n f).outline = r.outline.put n (f (r.service n)).outline := by
  unfold outline Outline.put
  congr 1
  · simp [modify]
  · funext m
    rw [service_modify hn, Function.update_apply]
    split <;> rfl

/-- A change that does not show in the outline of the service does not show at all. -/
theorem outline_modify_eq (f : Service → Service) (hf : ∀ s, (f s).outline = s.outline) :
    (r.modify n f).outline = r.outline := by
  by_cases hn : n < r.services.size
  · rw [outline_modify hn, hf]
    exact r.outline.put_self n
  · unfold outline modify service
    congr 1
    · simp
    · funext m
      rw [Array.getElem?_modify]
      split
      · next h =>
        subst h
        rw [Array.getElem?_eq_none (Nat.le_of_not_lt hn)]
        rfl
      · rfl

/-- The end of a transition that is where it should be. -/
theorem outline_complete {source : ServiceState} (target : ServiceState) (fault : Option Fault)
    (h : (r.service n).state = source) (hsource : source ≠ .disabled) :
    (r.complete n source target fault).1 = true ∧
      (r.complete n source target fault).2.outline = r.outline.settle n (some (target, fault)) := by
  unfold complete
  rw [if_pos h]
  refine ⟨rfl, ?_⟩
  rw [outline_modify (lt_of_state (h ▸ hsource))]
  rfl

end Registry

/-! ## Scenes -/

/-- A provider as far as lifecycles depend on it. -/
structure Scene extends Outline where
  /-- How many tasks there have been. -/
  submitted : Nat
  task? : TaskId → Option (Task Job HookRun)
  /-- Tasks still get turns. -/
  isAlive : Bool
  /-- No worker is given out any more. -/
  isShutdown : Bool

namespace Scene

/-- Puts a service in another condition. -/
def put (S : Scene) (n : Incarnation) (s : Service) : Scene :=
  { S with toOutline := S.toOutline.put n s }

/-- Puts a task at another stage. -/
def stand (S : Scene) (i : TaskId) (t : Task Job HookRun) (stage : Stage HookRun) : Scene :=
  { S with task? := Function.update S.task? i (some { t with stage }) }

/-- A task as it is taken in. -/
def newcomer (S : Scene) (name : String) (gates : List TaskId) (job : Job) : Task Job HookRun :=
  { name, gates, job := some job, hasCallback := job.hasCallback
    stage := if S.isAlive then .queued else .dropped false }

/-- Takes in a task. -/
def push (S : Scene) (name : String) (gates : List TaskId) (job : Job) : Scene :=
  { S with
    submitted := S.submitted + 1
    task? := Function.update S.task? S.submitted (some (S.newcomer name gates job)) }

/-- Claims a service: its transition begins and the task of the transition is taken in. -/
def claimed (S : Scene) (n : Incarnation) (target : ServiceState) (name : String)
    (gates : List TaskId) (job : Job) : Scene :=
  (S.push name gates job).put n ((S.service n).depart target S.submitted)

/-! What each effect leaves of the rest. -/

theorem service_put (S : Scene) (n m : Incarnation) (s : Service) :
    (S.put n s).service m = if m = n then s else S.service m := S.toOutline.service_put n m s

theorem service_put_self (S : Scene) (n : Incarnation) (s : Service) :
    (S.put n s).service n = s := by
  rw [service_put, if_pos rfl]

theorem service_put_of_ne (S : Scene) (s : Service) {n m : Incarnation} (hne : m ≠ n) :
    (S.put n s).service m = S.service m := by
  rw [service_put, if_neg hne]

@[simp] theorem find?_put (S : Scene) (n : Incarnation) (s : Service) :
    (S.put n s).find? = S.find? := rfl

@[simp] theorem toOutline_stand (S : Scene) (i : TaskId) (t : Task Job HookRun)
    (stage : Stage HookRun) : (S.stand i t stage).toOutline = S.toOutline := rfl

theorem task?_stand (S : Scene) (i j : TaskId) (t : Task Job HookRun) (stage : Stage HookRun) :
    (S.stand i t stage).task? j = if j = i then some { t with stage } else S.task? j := by
  simp only [stand, Function.update_apply]

theorem task?_push (S : Scene) (name : String) (gates : List TaskId) (job : Job) (j : TaskId) :
    (S.push name gates job).task? j =
      if j = S.submitted then some (S.newcomer name gates job) else S.task? j := by
  simp only [push, Function.update_apply]

end Scene

namespace Provider

/-- The scene of a registry and a scheduler. -/
def sceneOf (r : Registry) (s : Scheduler Job HookRun) : Scene where
  toOutline := r.outline
  submitted := s.tasks.size
  task? i := s.tasks[i]?
  isAlive := s.isAlive
  isShutdown := s.isShutdown

/-- What lifecycles depend on. -/
def scene (p : Provider) : Scene := sceneOf p.registry p.tasks

variable {p : Provider} {n : Incarnation}

@[simp] theorem scene_say (p : Provider) (remark : Remark) : (p.say remark).scene = p.scene := rfl

@[simp] theorem id_scene (p : Provider) (n : Incarnation) :
    (p.scene.service n).id = (p.service n).id := rfl

@[simp] theorem state_scene (p : Provider) (n : Incarnation) :
    (p.scene.service n).state = (p.service n).state := rfl

@[simp] theorem references_scene (p : Provider) (n : Incarnation) :
    (p.scene.service n).references = (p.service n).references := rfl

theorem sceneOf_outline {r r' : Registry} (s : Scheduler Job HookRun)
    (h : r'.outline = r.outline) : sceneOf r' s = sceneOf r s := by
  unfold sceneOf
  rw [h]

theorem scene_modify (hn : n < p.registry.services.size) (f : Service → Service) :
    (p.modify n f).scene = p.scene.put n (f (p.service n)).outline := by
  show sceneOf (p.registry.modify n f) p.tasks = _
  unfold sceneOf
  rw [Registry.outline_modify hn]
  rfl

/-- Taking in a task shows in the scene only as that. -/
theorem scene_submit (p : Provider) (job : Job) (gates : List TaskId) :
    (p.submit job gates).1 = p.scene.submitted ∧
      (p.submit job gates).2.scene =
        p.scene.push (job.taskName p.registry) (OrderedSet.ofList gates).toList job := by
  refine ⟨rfl, ?_⟩
  unfold submit scene sceneOf Scene.push
  simp only [Scheduler.submit, Provider.say]
  congr 1
  · simp
  · funext j
    rw [Array.getElem?_push, Function.update_apply]
    rfl

/-! ## Claims -/

/-- The transition of a service begins: the service is moved on, the task is taken in, and the
service is told of the task. -/
def depart (p : Provider) (n : Incarnation) (target : ServiceState) (job : Job)
    (gates : List TaskId) : Provider :=
  let q := p.modify n fun s => { s.publish target with fault := none }
  (q.submit job gates).2.modify n fun s => { s with transition := some p.tasks.tasks.size }

/-- What a claim comes to, and what is answered. If it succeeds the service is claimed as things
are after the last check. -/
inductive Claiming (p : Provider) (n : Incarnation) (source target : ServiceState) (job : Job)
    (gates : List TaskId) (confirm : Provider → Except RequestError Unit × Provider) :
    Except Refusal TaskId × Provider → Prop
  | removed : (p.service n).removed = true →
      Claiming p n source target job gates confirm (.error .removed, p)
  | busy : (p.service n).removed = false → (p.service n).state ≠ source →
      Claiming p n source target job gates confirm
        (.error (.busy (p.service n).state (p.service n).transition), p)
  | rejected {e : RequestError} {q : Provider} : (p.service n).removed = false →
      (p.service n).state = source → confirm p = (.error e, q) →
      Claiming p n source target job gates confirm (.error (.rejected e), q)
  | granted {q : Provider} : (p.service n).removed = false → (p.service n).state = source →
      confirm p = (.ok (), q) →
      Claiming p n source target job gates confirm
        (.ok q.tasks.tasks.size, q.depart n target job gates)

theorem claiming (p : Provider) (n : Incarnation) (source target : ServiceState) (job : Job)
    (gates : List TaskId) (confirm : Provider → Except RequestError Unit × Provider) :
    Claiming p n source target job gates confirm
      (p.claim n source target job gates confirm) := by
  unfold claim
  dsimp only
  split
  · next hremoved => exact .removed hremoved
  · next hremoved =>
    have hkept := eq_false_of_ne_true hremoved
    split
    · next hstate => exact .busy hkept hstate
    · next hstate =>
      split
      · next heq => exact .rejected hkept (not_not.mp hstate) heq
      · next heq => exact .granted hkept (not_not.mp hstate) heq

/-- The beginning of a transition shows in the scene only as that. -/
theorem scene_depart (hn : n < p.registry.services.size) (target : ServiceState) (job : Job)
    (gates : List TaskId) : ∃ name, (p.depart n target job gates).scene =
      p.scene.claimed n target name (OrderedSet.ofList gates).toList job := by
  let q := p.modify n fun s => { s.publish target with fault := none }
  have hq : n < q.registry.services.size := by
    simpa [q, Provider.modify, Registry.modify] using hn
  have hqn : q.service n = { (p.service n).publish target with fault := none } := by
    show (p.registry.modify n _).service n = _
    rw [Registry.service_modify hn, if_pos rfl]
    rfl
  refine ⟨job.taskName q.registry, ?_⟩
  unfold depart
  dsimp only
  rw [scene_modify (p := (q.submit job gates).2) hq, (scene_submit q job gates).2, scene_modify hn]
  show Scene.put _ n { q.service n with transition := _ }.outline = _
  rw [hqn]
  simp only [Scene.claimed, Scene.put, Scene.push, Outline.put, Function.update_idem]
  rfl

end Provider

end ServiceLifecycle

import ServiceLifecycle.Provider.Request
import ServiceLifecycle.Registry.Hooks

/-!
# The provider

A provider is a registry together with the scheduler that does its work. It also
keeps what callers have set up: the moments at which others get in, and who
watches the state of which service.

Operations in which others may get in take a function that says what happens at
such a moment. `undisturbed` is the case in which nothing does.
-/

namespace ServiceLifecycle

/-- Requests that others make at a given moment, once. -/
structure Ambush where
  probe : Probe
  requests : List Request
  deriving Repr

/-- Watches the state of a service. -/
structure Watch where
  service : Incarnation
  /-- How many states had been published at the last look. -/
  seen : Nat
  deriving Repr

/-- A registry, its scheduler and its callers. -/
structure Provider where
  registry : Registry := {}
  tasks : Scheduler Job HookRun
  /-- What others are going to do, the latest first. -/
  ambushes : List Ambush := []
  /-- What others were told since the last request began, the latest first. -/
  overheard : List Reply := []
  watches : Table ServiceId Watch := .empty

/-- What others do at the moments at which they may get in. -/
abbrev Interference := Probe → Provider → Provider

/-- Nobody gets in. -/
def undisturbed : Interference := fun _ p => p

namespace Provider

/-- A provider without services. -/
def new (registry : Registry) (tasks : Scheduler Job HookRun) : Provider :=
  { registry :=
      (registry.say (Scheduler.startRemark tasks.name tasks.configured)).say
        ⟨.info, s!"Creating controller service provider with {registry.catalogue.size} service types"⟩
    tasks }

/-- Says something. -/
def say (p : Provider) (remark : Remark) : Provider :=
  { p with registry := p.registry.say remark }

/-- A service by its incarnation. -/
def service (p : Provider) (n : Incarnation) : Service := p.registry.service n

/-- Changes a service. -/
def modify (p : Provider) (n : Incarnation) (f : Service → Service) : Provider :=
  { p with registry := p.registry.modify n f }

/-- Submits a job gated on the given tasks, each of which counts once. -/
def submit (p : Provider) (job : Job) (gates : List TaskId) : TaskId × Provider :=
  let gates := OrderedSet.ofList gates
  let name := job.taskName p.registry
  let (i, tasks) := p.tasks.submit name gates job job.hasCallback
  (i, { p with tasks }.say (Scheduler.submitRemark name gates.toList.length))

/-- Consults the validator about a service with the given properties. If the validator
is observed, others get in first. -/
def judge (between : Interference) (p : Provider) (n : Incarnation)
    (properties : PropertyStore) : Verdict × Provider :=
  let p :=
    if p.registry.isValidatorObserved then between (.validation (p.service n).id) p else p
  (p.registry.verdictFor n properties, p)

/-- Asks a component for its state. If it is observed, others get in first. -/
def askComponent (between : Interference) (p : Provider) (c : ComponentNumber) :
    Component × Provider :=
  let before := p.registry.component c
  let p := if before.isObserved then between (.schedule before.id) p else p
  (p.registry.component c, p)

/-- Asks the component registered under a name whether it is running. One that is not
registered is not. -/
def askRunning (between : Interference) (p : Provider) (id : ComponentId) :
    Bool × Provider :=
  match p.registry.roster.get? id with
  | none => (false, p)
  | some c =>
      let (component, p) := p.askComponent between c
      (component.isRunning, p)

/-- Validates a service anew and keeps the verdict. -/
def revalidate (between : Interference) (p : Provider) (n : Incarnation) : Provider :=
  let (verdict, p) := p.judge between n (p.service n).properties
  p.modify n fun s => { s with verdict }

/-! ## Claims -/

/-- Why a service cannot be claimed for a transition. -/
inductive Refusal where
  /-- It is not in the state in which the transition starts. -/
  | busy (state : ServiceState) (inFlight : Option TaskId)
  /-- It has been removed. -/
  | removed
  /-- The last check failed. -/
  | rejected (e : RequestError)
  deriving Repr

/-- Claims a service for a transition: if it is where the transition starts and passes
the last check, it is moved on, its fault is cleared, and the task of the transition is
submitted. -/
def claim (p : Provider) (n : Incarnation) (source target : ServiceState) (job : Job)
    (gates : List TaskId)
    (confirm : Provider → Except RequestError Unit × Provider) :
    Except Refusal TaskId × Provider :=
  let s := p.service n
  if s.removed then (.error .removed, p)
  else if s.state ≠ source then (.error (.busy s.state s.transition), p)
  else
    match confirm p with
    | (.error e, p) => (.error (.rejected e), p)
    | (.ok (), p) =>
        let p := p.modify n fun s => { s.publish target with fault := none }
        let (i, p) := p.submit job gates
        (.ok i, p.modify n fun s => { s with transition := some i })

/-- A refusal described as a value. -/
def describeRefusal (p : Provider) : Refusal → String
  | .busy state inFlight =>
      let handle := match inFlight.bind fun i => p.tasks.tasks[i]? with
        | some t => "Some(" ++ t.handleDescription ++ ")"
        | none => "None"
      "Busy \x7b state: " ++ state.name ++ ", in_flight: " ++ handle ++ " \x7d"
  | .removed => "Removed"
  | .rejected e => "Rejected(" ++ e.message ++ ")"

end Provider

end ServiceLifecycle

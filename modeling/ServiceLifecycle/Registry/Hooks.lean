import ServiceLifecycle.Registry.Basic
import ServiceLifecycle.Task.Scheduler

/-!
# The bodies of tasks

There are three jobs to be done on a service: to bring it up, to see whether
somebody else has brought it up, and to take it down. The first and the last call
hooks of the implementation, which may sleep in between.
-/

namespace ServiceLifecycle

/-- What a task does to a service. -/
inductive Job where
  /-- Brings it up. -/
  | enable (n : Incarnation)
  /-- Succeeds if it is up. -/
  | confirm (n : Incarnation)
  /-- Takes it down. -/
  | disable (n : Incarnation)
  deriving DecidableEq, Repr

/-- What a hook was called for. -/
inductive Purpose where
  /-- To bring the service up. -/
  | activation
  /-- To clean up after an activation that failed with this message. -/
  | cleanup (failure : String)
  /-- To take the service down. -/
  | deactivation
  deriving DecidableEq, Repr

/-- A hook under way, with the actions it has still to do. -/
structure HookRun where
  service : Incarnation
  purpose : Purpose
  context : Context
  rest : List HookAction
  deriving Repr

namespace Registry

/-- Why a service cannot be activated now: the first of its references that is not up. -/
def missingDependency? (r : Registry) (n : Incarnation) : Option String :=
  (r.service n).references.findSome? fun reference =>
    match r.stateOf? reference with
    | none => some s!"referenced service {reference.text} does not exist"
    | some .enabled => none
    | some state => some s!"referenced service {reference.text} is {state.text}"

/-- What a hook of a service gets to see. Its memory is set up if need be. -/
def contextFor (r : Registry) (n : Incarnation) : Context × Registry :=
  let s := r.service n
  let (handle, memory) := r.memory.acquire s.id.text
  ({ id := s.id, properties := s.properties.values.entries, memory := handle },
   { r with memory })

/-- Begins a call of a hook. What is to do depends on the number of the call. -/
def callHook (r : Registry) (n : Incarnation) (hook : Hook) (c : Context) :
    List HookAction × Registry :=
  let s := r.service n
  let number := s.calls hook + 1
  (s.behaviour.script hook s.id number,
   r.modify n fun s => s.record (.began hook number c.id c.properties))

/-- Does the actions of a hook in turn, until it sleeps or ends. -/
def play (n : Incarnation) (c : Context) :
    List HookAction → Registry → Turn (List HookAction) × Registry
  | [], r => (.returns, r)
  | .act (.delay 0) :: rest, r => play n c rest r
  | .act (.delay ms) :: rest, r => (.sleeps (some ms) rest, r)
  | .act (.fail message) :: _, r => (.fails message, r)
  | .act (.panic payload) :: _, r => (.panics payload, r)
  | .act .hang :: rest, r => (.sleeps none rest, r)
  | .require name :: rest, r =>
      if c.properties.any fun e => e.1 = name then play n c rest r
      else (.fails s!"missing {name}", r)
  | .store entries :: rest, r =>
      match r.memory.set c.memory entries with
      | .error e => (.fails e.message, r)
      | .ok memory => play n c rest { r with memory }
  | .describe :: rest, r =>
      play n c rest (r.modify n fun s => s.record (.noted c.description))
  | .say remark :: rest, r => play n c rest (r.say remark)

/-- Writes down that a call of a hook returned. -/
def recordReturn (r : Registry) (n : Incarnation) (hook : Hook) (error : Option String) :
    Registry :=
  r.modify n fun s => s.record (.returned hook error)

/-- The name of a service in messages. -/
def nameOf (r : Registry) (n : Incarnation) : String := (r.service n).id.text

/-- The service goes back down, since its activation failed. -/
def failActivation (r : Registry) (n : Incarnation) (failure : String) :
    Turn HookRun × Registry :=
  let r := (r.complete n .enabling .disabled (some ⟨.activation, failure⟩)).2
  (.fails s!"activation of controller service {r.nameOf n} failed: {failure}", r)

/-- The cleanup after a failed activation has done what it could. -/
def afterCleanup (n : Incarnation) (c : Context) (failure : String) :
    Turn (List HookAction) × Registry → Turn HookRun × Registry
  | (.sleeps time rest, r) =>
      (.sleeps time { service := n, purpose := .cleanup failure, context := c, rest }, r)
  | (.panics payload, r) => (.panics payload, r)
  | (.returns, r) => (r.recordReturn n .deactivate none).failActivation n failure
  | (.fails message, r) =>
      let r := (r.recordReturn n .deactivate (some message)).say
        ⟨.debug, s!"Cleanup after failed activation of {r.nameOf n} also failed: {message}"⟩
      r.failActivation n failure

/-- The activation hook has done what it could. If it failed, what it may have taken
hold of is released, should the configuration say so. -/
def afterActivation (n : Incarnation) (c : Context) :
    Turn (List HookAction) × Registry → Turn HookRun × Registry
  | (.sleeps time rest, r) =>
      (.sleeps time { service := n, purpose := .activation, context := c, rest }, r)
  | (.panics payload, r) => (.panics payload, r)
  | (.returns, r) =>
      let (isDone, r) := (r.recordReturn n .activate none).complete n .enabling .enabled none
      (.returns,
        if isDone then r.say ⟨.info, s!"Enabled controller service {r.nameOf n}"⟩ else r)
  | (.fails message, r) =>
      let r := (r.recordReturn n .activate (some message)).say
        ⟨.warn, s!"Failed to enable controller service {r.nameOf n}: {message}"⟩
      if r.config.deactivateOnFailedActivation then
        let (script, r) := r.callHook n .deactivate c
        afterCleanup n c message (play n c script r)
      else r.failActivation n message

/-- The service is down, whether or not its deactivation hook failed. -/
def finishDeactivation (r : Registry) (n : Incarnation) (fault : Option Fault) :
    Turn HookRun × Registry :=
  let (isDone, r) := r.complete n .disabling .disabled fault
  (.returns, if isDone then r.say ⟨.info, s!"Disabled controller service {r.nameOf n}"⟩ else r)

/-- The deactivation hook has done what it could. -/
def afterDeactivation (n : Incarnation) (c : Context) :
    Turn (List HookAction) × Registry → Turn HookRun × Registry
  | (.sleeps time rest, r) =>
      (.sleeps time { service := n, purpose := .deactivation, context := c, rest }, r)
  | (.panics payload, r) => (.panics payload, r)
  | (.returns, r) => (r.recordReturn n .deactivate none).finishDeactivation n none
  | (.fails message, r) =>
      let r := (r.recordReturn n .deactivate (some message)).say
        ⟨.warn, s!"Failed to cleanly disable controller service {r.nameOf n}: {message}"⟩
      r.finishDeactivation n (some ⟨.deactivation, message⟩)

/-- Goes on with a hook, and with what comes after it. -/
def continueHook (run : HookRun) (r : Registry) : Turn HookRun × Registry :=
  let played := play run.service run.context run.rest r
  match run.purpose with
  | .activation => afterActivation run.service run.context played
  | .cleanup failure => afterCleanup run.service run.context failure played
  | .deactivation => afterDeactivation run.service run.context played

/-- Starts on a job. -/
def startJob (job : Job) (r : Registry) : Turn HookRun × Registry :=
  match job with
  | .enable n =>
      match r.missingDependency? n with
      | some reason =>
          let r := r.say ⟨.warn, s!"Cannot enable controller service {r.nameOf n}: {reason}"⟩
          (.fails reason, (r.complete n .enabling .disabled (some ⟨.activation, reason⟩)).2)
      | none =>
          let (c, r) := r.contextFor n
          let (script, r) := r.callHook n .activate c
          afterActivation n c (play n c script r)
  | .confirm n =>
      match (r.service n).state with
      | .enabled => (.returns, r)
      | state => (.fails s!"controller service {r.nameOf n} is {state.text}", r)
  | .disable n =>
      let (c, r) := r.contextFor n
      let (script, r) := r.callHook n .deactivate c
      afterDeactivation n c (play n c script r)

/-- Puts a service back where it was, since the body of its task did not run to its end. -/
def giveUpJob (job : Job) (reason : String) (r : Registry) : Registry :=
  match job with
  | .enable n =>
      ((r.say ⟨.warn, s!"Enabling controller service {r.nameOf n} aborted: {reason}"⟩).complete
        n .enabling .disabled (some ⟨.aborted, reason⟩)).2
  | .confirm _ => r
  | .disable n =>
      ((r.say ⟨.warn, s!"Disabling controller service {r.nameOf n} aborted: {reason}"⟩).complete
        n .disabling .enabled (some ⟨.aborted, reason⟩)).2

/-- How the bodies of tasks act on the registry. Nothing that is done when a job is given up can
panic. -/
def workload : Workload Job HookRun Registry where
  start := startJob
  resume := continueHook
  giveUp := fun job reason r => (.returns, giveUpJob job reason r)
  remark := fun remark r => r.say remark

end Registry

/-- The name of the task that does a job. -/
def Job.taskName (r : Registry) : Job → String
  | .enable n => s!"enable {r.nameOf n}"
  | .confirm n => s!"confirm enabled {r.nameOf n}"
  | .disable n => s!"disable {r.nameOf n}"

/-- The service a job is about. -/
def Job.service : Job → Incarnation
  | .enable n | .confirm n | .disable n => n

/-- Whether somebody is to be told when a job is not done to its end. -/
def Job.hasCallback : Job → Bool
  | .enable _ | .disable _ => true
  | .confirm _ => false

end ServiceLifecycle

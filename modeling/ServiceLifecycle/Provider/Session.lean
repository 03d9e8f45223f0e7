import ServiceLifecycle.Provider.Perform
import ServiceLifecycle.Task.Drive

/-!
# Sessions

A session makes requests of a provider and, between them, lets its tasks run and
time pass.
-/

namespace ServiceLifecycle.Provider

/-- One step of a session. -/
inductive Step where
  | request (q : Request)
  /-- Does everything that can be done at the present moment. -/
  | settle
  /-- Lets the given time pass. -/
  | advance (time : Nat)
  /-- Waits for a task to end, at most for the given time. -/
  | wait (i : TaskId) (time : Option Nat)
  /-- Waits for a service to be in a state, at most for the given or the configured time. -/
  | awaitState (id : ServiceId) (state : ServiceState) (time : Option Nat)
  /-- Tears the scheduler down. -/
  | tearDown
  deriving Repr

/-- What a step of a session gives. -/
inductive Answer where
  | reply (r : Reply)
  /-- Nothing to tell. -/
  | nothing
  /-- The outcome waited for, unless it took too long. -/
  | outcome (o : Option Outcome)
  /-- Whether the state waited for was reached in time. -/
  | reached (b : Bool)
  /-- The step cannot be taken. -/
  | impossible

/-- Puts scheduler and registry back together. -/
def withParts (p : Provider) (parts : Scheduler Job HookRun × Registry) : Provider :=
  { p with tasks := parts.1, registry := parts.2 }

/-- Waits until `done` tells something, at most for the given time. -/
def waitFor {α : Type} (p : Provider) (done : Scheduler Job HookRun → Registry → Option α)
    (time : Option Nat) : Option α × Provider :=
  let (found, parts) := Scheduler.waitFor Registry.workload done time p.tasks p.registry
  (found, p.withParts parts)

/-- Waits for a service to be in a state, at most for the given time. A service that does
not exist is in none. -/
def awaitState (p : Provider) (id : ServiceId) (state : ServiceState) (time : Nat) :
    Bool × Provider :=
  match p.registry.find? id with
  | none => (false, p.withParts (Scheduler.settle Registry.workload p.tasks p.registry))
  | some n =>
      let (found, p) := p.waitFor
        (fun _ r => if (r.service n).state = state then some () else none) (some time)
      (found.isSome, p)

/-- Takes one step. What others are told while it is taken is overheard anew. -/
def take (p : Provider) (step : Step) : Answer × Provider :=
  let p := { p with overheard := [] }
  match step with
  | .request q =>
      let (reply, p) := p.serve q
      (.reply reply, p)
  | .settle =>
      if p.tasks.isAlive then
        (.nothing, p.withParts (Scheduler.settle Registry.workload p.tasks p.registry))
      else (.impossible, p)
  | .advance time =>
      if p.tasks.isAlive then
        (.nothing, p.withParts (Scheduler.advance Registry.workload time p.tasks p.registry))
      else (.impossible, p)
  | .wait i time =>
      match p.tasks.tasks[i]? with
      | none => (.impossible, p)
      | some _ =>
          let (found, p) := p.waitFor (fun s _ => s.result? i) time
          (.outcome found, p)
  | .awaitState id state time =>
      let (reached, p) := p.awaitState id state
        (time.getD p.registry.config.awaitTimeout.milliseconds)
      (.reached reached, p)
  | .tearDown =>
      (.nothing, p.withParts (Scheduler.tearDown Registry.workload p.tasks p.registry))

/-- Hands over what has been said and forgets it. -/
def takeLog (p : Provider) : List Remark × Provider :=
  (p.registry.log.reverse, { p with registry := { p.registry with log := [] } })

end ServiceLifecycle.Provider

import ServiceLifecycle.Log
import ServiceLifecycle.Table
import ServiceLifecycle.Task.Basic

/-!
# The scheduler

A scheduler runs the bodies of tasks, at most a given number of them at the same
time. It knows nothing of what the bodies do: a `Workload` says how a body acts on
its surroundings `σ`, and what the owner of a task makes of it to be told that its body does
not run to its end. Bodies and owners may panic.

All that happens to a task happens in moves: it gets its first turn, finds a gate
complete or not, gets in line for a worker, starts, goes on after a sleep. `move`
is one such move, and nothing but moves, submissions, a shutdown or a teardown
changes a task. Which of the possible moves comes next is not laid down here.
-/

namespace ServiceLifecycle

/-- What a body does with its turn: it sleeps, for ever if no time is given, or it ends. -/
inductive Turn (κ : Type) where
  | sleeps (time : Option Nat) (rest : κ)
  | returns
  | fails (message : String)
  | panics (payload : Option String)

/-- What the owner of a task does on being told why its body did not run to its end. -/
inductive Reaction where
  | returns
  | panics
  deriving DecidableEq, Repr

/-- How the bodies of tasks, and the owners of tasks, act on their surroundings `σ`. -/
structure Workload (ι κ σ : Type) where
  /-- Starts a body and runs it until it sleeps or ends. -/
  start : ι → σ → Turn κ × σ
  /-- Runs on the rest of a body that has slept. -/
  resume : κ → σ → Turn κ × σ
  /-- Tells the owner of a task why its body did not run to its end. An owner may panic over
  that at any point, so what it has done until then counts. -/
  giveUp : ι → String → σ → Reaction × σ
  /-- Takes down a remark. -/
  remark : Remark → σ → σ

/-- Tasks and the workers that run them. -/
structure Scheduler (ι κ : Type) where
  name : String
  /-- The configured number of workers. -/
  configured : Nat
  /-- Workers that are free. -/
  free : Nat
  /-- No worker is given out any more. -/
  isShutdown : Bool := false
  /-- Tasks still get turns. -/
  isAlive : Bool := true
  /-- The present moment. -/
  now : Nat := 0
  /-- How many submitted tasks are counted as waiting. -/
  pending : Nat := 0
  /-- How many bodies are counted as running. -/
  running : Nat := 0
  /-- The tasks in line for a worker, the first in front. -/
  line : List TaskId := []
  tasks : Array (Task ι κ) := #[]
  /-- The abort callbacks that ran, with the reasons given, the latest first. -/
  callbacks : List (TaskId × String) := []

namespace Scheduler

variable {ι κ σ : Type}

/-- The number of workers: at least one. -/
def workers (configured : Nat) : Nat := max configured 1

/-- A scheduler without tasks. -/
def new (name : String) (configured : Nat) : Scheduler ι κ :=
  { name, configured, free := workers configured }

/-- What a new scheduler says. -/
def startRemark (name : String) (configured : Nat) : Remark :=
  ⟨.info, s!"Starting task scheduler {name} with {workers configured} workers"⟩

/-- What a scheduler says when it takes in a task. The id of the task is masked. -/
def submitRemark (name : String) (gates : Nat) : Remark :=
  ⟨.trace, s!"Submitting task {name} (#) with {gates} gates"⟩

/-- What a scheduler says when it is shut down. -/
def shutdownRemark (name : String) : Remark :=
  ⟨.info, s!"Shutting down task scheduler {name}"⟩

/-- What waiting for a task tells, once it tells something. -/
def result? (s : Scheduler ι κ) (i : TaskId) : Option Outcome :=
  s.tasks[i]?.bind Task.result?

/-- Puts a task at a stage. -/
def setStage (s : Scheduler ι κ) (i : TaskId) (stage : Stage κ) : Scheduler ι κ :=
  { s with tasks := s.tasks.modify i fun t => { t with stage } }

/-! ## Requests -/

/-- Takes in a task. Where no turns are given any more it is let go of at once. -/
def submit (s : Scheduler ι κ) (name : String) (gates : OrderedSet TaskId) (job : ι)
    (hasCallback : Bool) : TaskId × Scheduler ι κ :=
  (s.tasks.size,
   { s with
     pending := s.pending + 1
     tasks := s.tasks.push
      { name, gates := gates.toList, job := some job, hasCallback
        stage := if s.isAlive then .queued else .dropped false } })

/-- Takes in a task that somebody else reports on. It is not counted. -/
def watch (s : Scheduler ι κ) (name : String) : TaskId × Scheduler ι κ :=
  (s.tasks.size,
   { s with
     tasks := s.tasks.push
      { name, gates := [], job := none, hasCallback := false, stage := .external false } })

/-- Reports the start of a task that is reported on from outside. -/
def reportStart (s : Scheduler ι κ) (i : TaskId) : Scheduler ι κ :=
  match s.tasks[i]?.map Task.stage with
  | some (.external _) => s.setStage i (.external true)
  | _ => s

/-- Reports the end of a task that is reported on from outside. -/
def reportEnd (s : Scheduler ι κ) (i : TaskId) (ending : Ending) : Scheduler ι κ :=
  match s.tasks[i]?.map Task.stage with
  | some (.external _) => s.setStage i (.ended ending)
  | _ => s

/-- Lets go of a task that is reported on from outside. -/
def abandon (s : Scheduler ι κ) (i : TaskId) : Scheduler ι κ :=
  match s.tasks[i]?.map Task.stage with
  | some (.external started) => s.setStage i (.dropped started)
  | _ => s

/-- Gives out no worker any more. Bodies under way go on. -/
def shutdown (s : Scheduler ι κ) : Scheduler ι κ := { s with isShutdown := true }

/-! ## Moves -/

/-- What is said of a task that is let go of. Its id is masked. -/
def tearRemark (name reason : String) : Remark :=
  ⟨.warn, s!"Task {name} (#) aborted: {reason}"⟩

/-- What is said of the end of a task, whose id is masked. A task that completes goes without
saying. -/
def endRemark (name : String) : Ending → Option Remark
  | .completed => none
  | .failed message => some ⟨.debug, s!"Task {name} (#) failed: {message}"⟩
  | .panicked payload => some ⟨.warn, s!"Task {name} (#) {Ending.panicReason payload}"⟩
  | .aborted reason => some ⟨.debug, s!"Task {name} (#) aborted: {reason}"⟩
  | .disrupted _ reason => some (tearRemark name reason)

/-- Tells the owner of a task, if there is one, why its body does not run to its end, and takes
note of that. Nothing is published yet. -/
def notify (work : Workload ι κ σ) (i : TaskId) (t : Task ι κ) (reason : String)
    (s : Scheduler ι κ) (env : σ) : Reaction × Scheduler ι κ × σ :=
  match t.job, t.hasCallback with
  | some job, true =>
      let p := work.giveUp job reason env
      (p.1, { s with callbacks := (i, reason) :: s.callbacks }, p.2)
  | _, _ => (.returns, s, env)

/-- Ends a task: first its owner is told if the body did not run to its end, then the
outcome is published. If the owner panics over it, nothing is left to publish that outcome: the
task is let go of, and what is published is that it was aborted for that reason. The owner
is not told again. -/
def finish (work : Workload ι κ σ) (i : TaskId) (t : Task ι κ) (ending : Ending)
    (s : Scheduler ι κ) (env : σ) : Scheduler ι κ × σ :=
  match ending.callbackReason? with
  | none => (s.setStage i (.ended ending), env)
  | some told =>
    match notify work i t told s env with
    | (.returns, s, env) => (s.setStage i (.ended ending), env)
    | (.panics, s, env) =>
        (s.setStage i (.ended (.disrupted ending t.droppedReason)),
          work.remark (tearRemark t.name t.droppedReason) env)

/-- Says how a task ends, and ends it. -/
def conclude (work : Workload ι κ σ) (i : TaskId) (t : Task ι κ) (ending : Ending)
    (s : Scheduler ι κ) (env : σ) : Scheduler ι κ × σ :=
  finish work i t ending s
    (match endRemark t.name ending with
     | some r => work.remark r env
     | none => env)

/-- Ends a task whose body has not started. -/
def abort (work : Workload ι κ σ) (i : TaskId) (t : Task ι κ) (reason : String)
    (s : Scheduler ι κ) (env : σ) : Scheduler ι κ × σ :=
  conclude work i t (.aborted reason) { s with pending := s.pending - 1 } env

/-- Ends a task whose body has ended, and gives its worker back. -/
def leave (work : Workload ι κ σ) (i : TaskId) (t : Task ι κ) (ending : Ending)
    (s : Scheduler ι κ) (env : σ) : Scheduler ι κ × σ :=
  conclude work i t ending { s with running := s.running - 1, free := s.free + 1 } env

/-- Takes note of what a body did with its turn. A sleep lasts at least until the next
moment, so no body gets two turns at the same moment. -/
def settleTurn (work : Workload ι κ σ) (i : TaskId) (t : Task ι κ) (s : Scheduler ι κ) :
    Turn κ × σ → Scheduler ι κ × σ
  | (.sleeps time rest, env) =>
      (s.setStage i (.running (time.map fun ms => s.now + max ms 1) rest), env)
  | (.returns, env) => leave work i t .completed s env
  | (.fails message, env) => leave work i t (.failed message) s env
  | (.panics payload, env) => leave work i t (.panicked payload) s env

/-- The reason for giving up a task one of whose gates did not complete. It names the gate by
name and id; the id is masked. -/
def gateReason (gate : String) (o : Outcome) : String := s!"gate {gate} (#) {o.text}"

/-- The reason for giving up a task that would need a worker after the shutdown. -/
def shutdownReason (s : Scheduler ι κ) : String := s!"scheduler {s.name} is shut down"

/-- The next move of a task, if it can make one now. -/
def move (work : Workload ι κ σ) (i : TaskId) (s : Scheduler ι κ) (env : σ) :
    Option (Scheduler ι κ × σ) :=
  match s.tasks[i]? with
  | none => none
  | some t =>
    match t.stage, t.job with
    | .queued, _ => some (s.setStage i (.gated t.gates), env)
    | .gated (gate :: later), _ =>
      match s.tasks[gate]? with
      | none => none
      | some g =>
        match g.result? with
        | none => none
        | some .completed => some (s.setStage i (.gated later), env)
        | some o => some (abort work i t (gateReason g.name o) s env)
    | .gated [], _ =>
      if s.isShutdown then some (abort work i t s.shutdownReason s env)
      else some ({ s.setStage i .waiting with line := s.line ++ [i] }, env)
    | .waiting, some job =>
      if s.isShutdown then
        some (abort work i t s.shutdownReason { s with line := s.line.erase i } env)
      else if s.line.head? = some i ∧ 0 < s.free then
        some (settleTurn work i t
          { s with
            line := s.line.tail
            free := s.free - 1
            pending := s.pending - 1
            running := s.running + 1 }
          (work.start job env))
      else none
    | .running (some wake) rest, _ =>
      if wake ≤ s.now then some (settleTurn work i t s (work.resume rest env)) else none
    | _, _ => none

/-! ## Teardown -/

/-- Tears down one task. A task that has had a turn is aborted, unless its owner panics when told
so: then its status stays what it was. A task that has had no turn is let go of, and nobody is
told. The counts stay what they are. -/
def tear (work : Workload ι κ σ) (i : TaskId) (s : Scheduler ι κ) (env : σ) :
    Scheduler ι κ × σ :=
  match s.tasks[i]? with
  | none => (s, env)
  | some t =>
    match t.stage with
    | .queued => (s.setStage i (.dropped false), env)
    | .gated _ | .waiting | .running _ _ =>
      match notify work i t t.droppedReason s
          (work.remark (tearRemark t.name t.droppedReason) env) with
      | (.returns, s, env) => (s.setStage i (.ended (.aborted t.droppedReason)), env)
      | (.panics, s, env) => (s.setStage i (.dropped (t.status = .running)), env)
    | .ended _ | .external _ | .dropped _ => (s, env)

/-- Tears everything down. No task gets a turn any more. -/
def tearDown (work : Workload ι κ σ) (s : Scheduler ι κ) (env : σ) : Scheduler ι κ × σ :=
  (List.range s.tasks.size).foldl (fun p i => tear work i p.1 p.2)
    ({ s with isAlive := false, line := [] }, env)

end Scheduler

end ServiceLifecycle

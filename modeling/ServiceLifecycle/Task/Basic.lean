import ServiceLifecycle.Text.Quoted

/-!
# Tasks

A task waits for its gates, then for a free worker, then runs its body. This
module says where a task can stand on that way and how it can end, and what an
observer sees of it.
-/

namespace ServiceLifecycle

/-- Names a task by its place in the order of submission. -/
abbrev TaskId := Nat

/-- How a task ended, as far as an observer can tell. -/
inductive Outcome where
  /-- The body ran to its end without an error. -/
  | completed
  /-- The body ended with an error or panicked. -/
  | failed (reason : String)
  /-- The body did not run, or not to its end. -/
  | aborted (reason : String)
  deriving DecidableEq, Repr

namespace Outcome

/-- The wording of an outcome. -/
def text : Outcome → String
  | .completed => "completed"
  | .failed reason => s!"failed: {reason}"
  | .aborted reason => s!"aborted: {reason}"

/-- Whether the body ran to its end without an error. -/
def isCompleted : Outcome → Bool
  | .completed => true
  | .failed _ | .aborted _ => false

end Outcome

/-- How a task came to its end. A panic carries its text, if it has one. -/
inductive Ending where
  | completed
  | failed (message : String)
  | panicked (payload : Option String)
  | aborted (reason : String)
  /-- It was to end like this, but its abort callback panicked before the outcome was published.
  So it was let go of, and aborted for the reason of that. -/
  | disrupted (ending : Ending) (reason : String)
  deriving DecidableEq, Repr

namespace Ending

/-- The reason given for a panic. -/
def panicReason (payload : Option String) : String :=
  let text := payload.getD "unknown panic"
  s!"task panicked: {text}"

/-- What an observer sees: a panic counts as a failure. -/
def outcome : Ending → Outcome
  | .completed => .completed
  | .failed message => .failed message
  | .panicked payload => .failed (panicReason payload)
  | .aborted reason | .disrupted _ reason => .aborted reason

/-- The reason handed to the abort callback. A body that ran to its end, be it with
an error, calls none. -/
def callbackReason? : Ending → Option String
  | .completed | .failed _ => none
  | .panicked payload => some (panicReason payload)
  | .aborted reason => some reason
  | .disrupted ending _ => ending.callbackReason?

/-- Whether the body had started by then. -/
def isOfBody : Ending → Bool
  | .completed | .failed _ | .panicked _ => true
  | .aborted _ => false
  | .disrupted ending _ => ending.isOfBody

end Ending

/-- Where a task stands. The rest of a body under way is of type `κ`. -/
inductive Stage (κ : Type) where
  /-- Submitted and not yet given a turn. -/
  | queued
  /-- Waiting for these gates, one after the other. -/
  | gated (remaining : List TaskId)
  /-- In line for a worker. -/
  | waiting
  /-- Under way, asleep until the given moment, or for ever. -/
  | running (wake : Option Nat) (rest : κ)
  | ended (ending : Ending)
  /-- Reported on by somebody else, who has or has not announced its start. -/
  | external (started : Bool)
  /-- Let go of without an end. Its status stays what it was. -/
  | dropped (started : Bool)
  deriving Repr

/-- A submitted task. What its body has to do is of type `ι`. -/
structure Task (ι κ : Type) where
  name : String
  /-- The tasks that have to complete first, each once. -/
  gates : List TaskId
  /-- What there is to do; nothing for a task that somebody else reports on. -/
  job : Option ι
  /-- Whether there is somebody to tell when the body does not run to its end. -/
  hasCallback : Bool
  stage : Stage κ
  deriving Repr

/-- What an observer sees of the progress of a task. -/
inductive TaskStatus where
  | pending
  | running
  | finished (outcome : Outcome)
  deriving DecidableEq, Repr

namespace Task

variable {ι κ : Type}

/-- The progress of a task. -/
def status (t : Task ι κ) : TaskStatus :=
  match t.stage with
  | .queued | .gated _ | .waiting | .external false | .dropped false => .pending
  | .running _ _ | .external true | .dropped true => .running
  | .ended e => .finished e.outcome

/-- The outcome, once there is one. -/
def outcome? (t : Task ι κ) : Option Outcome :=
  match t.stage with
  | .ended e => some e.outcome
  | _ => none

/-- Whether the task has come to its end. -/
def isFinished (t : Task ι κ) : Bool := t.outcome?.isSome

/-- The reason given for a task that was let go of. -/
def droppedReason (t : Task ι κ) : String := s!"task {t.name} was dropped before finishing"

/-- What somebody who waits for the task is told, once there is something to tell.
A task that was let go of counts as aborted. -/
def result? (t : Task ι κ) : Option Outcome :=
  match t.stage with
  | .ended e => some e.outcome
  | .dropped _ => some (.aborted t.droppedReason)
  | _ => none

end Task

/-! ## Descriptions

The text of a task id is made at random, and nothing but its text is ever shown of it. It is
masked here and wherever a task is spoken of: a number sign stands for every id. -/

namespace Outcome

/-- An outcome described as a value. -/
def description : Outcome → String
  | .completed => "Completed"
  | .failed reason => s!"Failed({Text.quoted reason})"
  | .aborted reason => s!"Aborted({Text.quoted reason})"

end Outcome

/-- A status described as a value. -/
def TaskStatus.description : TaskStatus → String
  | .pending => "Pending"
  | .running => "Running"
  | .finished o => s!"Finished({o.description})"

namespace Task

variable {ι κ : Type}

/-- A task before its submission, described as a value, with its id masked. -/
def description (name : String) (gates : Nat) (hasCallback : Bool) : String :=
  "Task \x7b id: TaskId(#), name: " ++ Text.quoted name ++ ", gates: " ++ toString gates
    ++ ", on_abort: " ++ (if hasCallback then "true" else "false") ++ ", .. \x7d"

/-- What an observer holds of a task, described as a value, with its id masked. -/
def handleDescription (t : Task ι κ) : String :=
  "TaskHandle \x7b id: TaskId(#), name: " ++ Text.quoted t.name ++ ", status: "
    ++ t.status.description ++ " \x7d"

end Task

end ServiceLifecycle

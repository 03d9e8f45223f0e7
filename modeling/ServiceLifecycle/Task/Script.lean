import ServiceLifecycle.Task.Scheduler

/-!
# Scripts

A script is the plainest body there is: a list of actions, done in turn until one
fails, panics or never ends. A list that comes to its end has succeeded.
-/

namespace ServiceLifecycle

/-- Something that a body may do. -/
inductive Action where
  /-- Sleeps for so many milliseconds. -/
  | delay (ms : Nat)
  /-- Ends with an error. -/
  | fail (message : String)
  /-- Panics, with a text or with something else. -/
  | panic (payload : Option String)
  /-- Never ends. -/
  | hang
  deriving DecidableEq, Repr

/-- A list of actions. -/
abbrev Script := List Action

namespace Script

/-- Does the actions in turn until one takes time or ends the script. -/
def play : Script → Turn Script
  | [] => .returns
  | .delay 0 :: rest => play rest
  | .delay ms :: rest => .sleeps (some ms) rest
  | .fail message :: _ => .fails message
  | .panic payload :: _ => .panics payload
  | .hang :: rest => .sleeps none rest

/-- Scripts act on nothing, and their owners take it calmly when they are told. -/
def workload : Workload Script Script Unit where
  start script env := (play script, env)
  resume script env := (play script, env)
  giveUp _ _ env := (.returns, env)
  remark _ env := env

end Script

end ServiceLifecycle

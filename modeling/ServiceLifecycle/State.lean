/-!
# Lifecycle states and faults
-/

namespace ServiceLifecycle

/-- Where a service stands in its lifecycle. -/
inductive ServiceState where
  /-- Not running; its properties may be edited. -/
  | disabled
  /-- Activation has been asked for or is under way. -/
  | enabling
  /-- Activated, usable by those that refer to it. -/
  | enabled
  /-- Deactivation has been asked for or is under way. -/
  | disabling
  deriving DecidableEq, Repr, Inhabited

namespace ServiceState

/-- Enabling or enabled. -/
def isActive : ServiceState → Bool
  | .enabling | .enabled => true
  | .disabled | .disabling => false

/-- Enabling or disabling: a transition has not ended yet. -/
def isTransient : ServiceState → Bool
  | .enabling | .disabling => true
  | .disabled | .enabled => false

/-- How messages write a state. -/
def text : ServiceState → String
  | .disabled => "DISABLED"
  | .enabling => "ENABLING"
  | .enabled => "ENABLED"
  | .disabling => "DISABLING"

/-- How a state is called as a variant. -/
def name : ServiceState → String
  | .disabled => "Disabled"
  | .enabling => "Enabling"
  | .enabled => "Enabled"
  | .disabling => "Disabling"

/-- Every state. -/
def all : List ServiceState := [.disabled, .enabling, .enabled, .disabling]

end ServiceState

/-- Whether a component is scheduled. -/
inductive ScheduledState where
  | stopped
  | running
  /-- Taken out of service by an administrator. -/
  | disabled
  deriving DecidableEq, Repr, Inhabited

namespace ScheduledState

/-- How a scheduled state is called as a variant. -/
def name : ScheduledState → String
  | .stopped => "Stopped"
  | .running => "Running"
  | .disabled => "Disabled"

/-- Every scheduled state. -/
def all : List ScheduledState := [.stopped, .running, .disabled]

end ScheduledState

/-- What kind of failure a fault records. -/
inductive FaultKind where
  /-- The activation hook failed, or a dependency was not up in time. -/
  | activation
  /-- The deactivation hook failed; the service went down regardless. -/
  | deactivation
  /-- A transition was given up because its task did not run to its end. -/
  | aborted
  /-- Enabling a new service on creation was refused. -/
  | rejected
  deriving DecidableEq, Repr, Inhabited

namespace FaultKind

/-- How a kind of fault is called. -/
def name : FaultKind → String
  | .activation => "Activation"
  | .deactivation => "Deactivation"
  | .aborted => "Aborted"
  | .rejected => "Rejected"

/-- Every kind of fault. -/
def all : List FaultKind := [.activation, .deactivation, .aborted, .rejected]

end FaultKind

/-- The last failure seen by a service, kept until its next transition starts. -/
structure Fault where
  kind : FaultKind
  message : String
  deriving DecidableEq, Repr

/-- A fault reads as its kind and its message. -/
def Fault.text (f : Fault) : String := s!"{f.kind.name}: {f.message}"

end ServiceLifecycle

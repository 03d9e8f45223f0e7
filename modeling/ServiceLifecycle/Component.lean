import ServiceLifecycle.Ident
import ServiceLifecycle.State

/-!
# Components

Components other than services, such as processors. They refer to services while
they run, and the registry may ask them to stop and to start.
-/

namespace ServiceLifecycle

/-- A component that can be scheduled. -/
structure Component where
  id : ComponentId
  state : ScheduledState := .stopped
  /-- Threads still at work; a stopped component may still be draining. -/
  threads : Nat := 0
  /-- Whether it only counts what it is asked for. -/
  isStubborn : Bool := false
  /-- Whether others get a chance to act whenever it is asked for its state. -/
  isObserved : Bool := false
  /-- How often it was asked to stop. -/
  stops : Nat := 0
  /-- How often it was asked to start. -/
  starts : Nat := 0
  deriving DecidableEq, Repr

instance : Inhabited Component := ⟨{ id := default }⟩

/-- Tells apart all components that were ever registered. -/
abbrev ComponentNumber := Nat

namespace Component

/-- Scheduled, or still draining. -/
def isRunning (c : Component) : Bool := c.state = .running || 0 < c.threads

/-- Asks a component to stop. -/
def requestStop (c : Component) : Component :=
  { c with stops := c.stops + 1, state := if c.isStubborn then c.state else .stopped }

/-- Asks a component to start. -/
def requestStart (c : Component) : Component :=
  { c with starts := c.starts + 1, state := if c.isStubborn then c.state else .running }

end Component

end ServiceLifecycle

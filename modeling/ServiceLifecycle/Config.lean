/-!
# Configuration

The settings of the scheduler and of the registry, with their defaults.
-/

namespace ServiceLifecycle

/-- A span of time. Fewer than 10^9 nanoseconds go beside the seconds. -/
structure Duration where
  seconds : Nat
  nanoseconds : Nat
  deriving DecidableEq, Repr

namespace Duration

/-- Nanoseconds in a second. -/
def nanosecondsPerSecond : Nat := 1000000000

/-- The span of some seconds and any number of nanoseconds, full seconds carried over. -/
def normalized (seconds nanoseconds : Nat) : Duration :=
  ⟨seconds + nanoseconds / nanosecondsPerSecond, nanoseconds % nanosecondsPerSecond⟩

/-- The span of some milliseconds. -/
def ofMilliseconds (ms : Nat) : Duration := ⟨ms / 1000, ms % 1000 * 1000000⟩

/-- The full milliseconds in a span. -/
def milliseconds (d : Duration) : Nat := d.seconds * 1000 + d.nanoseconds / 1000000

theorem milliseconds_ofMilliseconds (ms : Nat) : (ofMilliseconds ms).milliseconds = ms := by
  simp only [ofMilliseconds, milliseconds]
  omega

end Duration

/-- Settings of the registry. -/
structure RegistryConfig where
  /-- How long to wait for a service to reach a state. -/
  awaitTimeout : Duration := ⟨30, 0⟩
  /-- Whether the deactivation hook runs after a failed activation. -/
  deactivateOnFailedActivation : Bool := true
  deriving DecidableEq, Repr

/-- Settings of the scheduler. -/
structure SchedulerConfig where
  name : String := "lifecycle"
  /-- Bound on the bodies running at the same time; by default the machine decides. -/
  maxConcurrentTasks : Option Nat := none
  deriving DecidableEq, Repr

end ServiceLifecycle

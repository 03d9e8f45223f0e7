import ServiceLifecycle.Config
import ServiceLifecycle.Json.Shape
import ServiceLifecycle.Memory
import ServiceLifecycle.Property
import ServiceLifecycle.State

/-!
# How values are written in JSON

For each kind of value that is exchanged as JSON, how it is read and how it is
written. Identifiers are texts, states are named choices, and settings may leave
out what has a default.
-/

namespace ServiceLifecycle.Json

open Reader

/-- A JSON value, as far as any is written. -/
inductive JsonValue where
  | text (s : String)
  | number (n : Nat)
  | flag (b : Bool)
  | record (members : List (String × JsonValue))
  deriving Repr

/-- How values of a type are read and written. -/
structure Codec (α : Type) where
  read : Reader α
  write : α → JsonValue

namespace Codec

/-- Reads a text and writes the value it stands for. -/
def echo {α : Type} (codec : Codec α) (text : String) : Except ReadError JsonValue :=
  (readAll codec.read text).map codec.write

/-- Integers take at most eight bytes. -/
def wordBound : Nat := Nat.pow 2 64

/-- Counts of nanoseconds take at most four bytes. -/
def halfWordBound : Nat := Nat.pow 2 32

/-- Service identifiers are texts. -/
def serviceId : Codec ServiceId where
  read := return ⟨← text⟩
  write id := .text id.text

/-- Component identifiers are texts. -/
def componentId : Codec ComponentId where
  read := return ⟨← text⟩
  write id := .text id.text

/-! ## Choices -/

/-- Values that have a name and nothing else. -/
def named {α : Type} (all : List α) (name : α → String) : Codec α where
  read := (Variants.named all name).read
  write a := .text (name a)

/-- States are named. -/
def serviceState : Codec ServiceState := named ServiceState.all ServiceState.name

/-- Scheduled states are named. -/
def scheduledState : Codec ScheduledState := named ScheduledState.all ScheduledState.name

/-- Kinds of faults are named. -/
def faultKind : Codec FaultKind := named FaultKind.all FaultKind.name

/-- A referrer is a choice with an identifier. -/
def referrer : Codec Referrer where
  read := Variants.read
    [("Service", .text fun id => .service ⟨id⟩), ("Component", .text fun id => .component ⟨id⟩)]
  write
    | .service id => .record [("Service", .text id.text)]
    | .component id => .record [("Component", .text id.text)]

/-- A value of a property is a choice with a text. -/
def propertyValue : Codec PropertyValue where
  read := Variants.read
    [("Literal", .text .literal), ("ServiceRef", .text fun id => .reference ⟨id⟩)]
  write
    | .literal text => .record [("Literal", .text text)]
    | .reference id => .record [("ServiceRef", .text id.text)]

/-! ## Records -/

/-- What has been read of a descriptor. -/
structure DescriptorDraft where
  name : Option String := none
  required : Option Bool := none
  identifiesService : Option Bool := none

/-- How a descriptor is written. -/
def descriptorShape : Shape DescriptorDraft Descriptor where
  fields :=
    [.of "name" DescriptorDraft.name (fun d name => { d with name := some name }) text,
     .of "required" DescriptorDraft.required (fun d b => { d with required := some b }) flag,
     .of "identifies_service" DescriptorDraft.identifiesService
       (fun d b => { d with identifiesService := some b }) flag]
  start := {}
  finish d := do return ⟨← d.name, ← d.required, ← d.identifiesService⟩

/-- A descriptor is a record without defaults. -/
def descriptor : Codec Descriptor where
  read := descriptorShape.read
  write d := .record
    [("name", .text d.name), ("required", .flag d.required),
     ("identifies_service", .flag d.identifiesService)]

/-- What has been read of a snapshot. -/
structure SnapshotDraft where
  version : Option Nat := none
  entries : Option Entries := none

/-- How a snapshot is written. Of entries with the same key the last one counts. -/
def snapshotShape : Shape SnapshotDraft Snapshot where
  fields :=
    [.of "version" SnapshotDraft.version (fun d n => { d with version := some n })
       (natural wordBound),
     .of "entries" SnapshotDraft.entries (fun d es => { d with entries := some es })
       (return .ofList (← texts))]
  start := {}
  finish d := do return ⟨← d.version, ← d.entries⟩

/-- A snapshot is a record without defaults. -/
def snapshot : Codec Snapshot where
  read := snapshotShape.read
  write s := .record
    [("version", .number s.version),
     ("entries", .record (s.entries.entries.map fun e => (e.1, .text e.2)))]

/-- What has been read of a span of time. -/
structure DurationDraft where
  seconds : Option Nat := none
  nanoseconds : Option Nat := none

/-- How a span of time is written. Too many nanoseconds are carried over to the seconds,
whose number has its bound; nothing else is allowed beside them. -/
def durationShape : Shape DurationDraft Duration where
  fields :=
    [.of "secs" DurationDraft.seconds (fun d n => { d with seconds := some n })
       (natural wordBound),
     .of "nanos" DurationDraft.nanoseconds (fun d n => { d with nanoseconds := some n })
       (natural halfWordBound)]
  allowsOthers := false
  start := {}
  finish d := do
    let span := Duration.normalized (← d.seconds) (← d.nanoseconds)
    guard (span.seconds < wordBound)
    return span

/-- A span of time is a record without defaults. -/
def duration : Codec Duration where
  read := durationShape.read
  write d := .record [("secs", .number d.seconds), ("nanos", .number d.nanoseconds)]

/-- What has been read of the settings of the registry. -/
structure RegistryConfigDraft where
  awaitTimeout : Option Duration := none
  deactivateOnFailedActivation : Option Bool := none

/-- How the settings of the registry are written. -/
def registryConfigShape : Shape RegistryConfigDraft RegistryConfig where
  fields :=
    [.of "await_timeout" RegistryConfigDraft.awaitTimeout
       (fun d t => { d with awaitTimeout := some t }) duration.read,
     .of "deactivate_on_failed_activation" RegistryConfigDraft.deactivateOnFailedActivation
       (fun d b => { d with deactivateOnFailedActivation := some b }) flag]
  start := {}
  finish d :=
    let standard : RegistryConfig := {}
    some
      { awaitTimeout := d.awaitTimeout.getD standard.awaitTimeout
        deactivateOnFailedActivation :=
          d.deactivateOnFailedActivation.getD standard.deactivateOnFailedActivation }

/-- The settings of the registry are a record with defaults. -/
def registryConfig : Codec RegistryConfig where
  read := registryConfigShape.read
  write c := .record
    [("await_timeout", duration.write c.awaitTimeout),
     ("deactivate_on_failed_activation", .flag c.deactivateOnFailedActivation)]

/-- What has been read of the settings of the scheduler. -/
structure SchedulerConfigDraft where
  name : Option String := none
  maxConcurrentTasks : Option Nat := none

/-- How the settings of the scheduler are written. -/
def schedulerConfigShape : Shape SchedulerConfigDraft SchedulerConfig where
  fields :=
    [.of "name" SchedulerConfigDraft.name (fun d name => { d with name := some name }) text,
     .of "max_concurrent_tasks" SchedulerConfigDraft.maxConcurrentTasks
       (fun d n => { d with maxConcurrentTasks := some n }) (natural wordBound)]
  start := {}
  finish d :=
    let standard : SchedulerConfig := {}
    some
      { name := d.name.getD standard.name
        maxConcurrentTasks := d.maxConcurrentTasks.or standard.maxConcurrentTasks }

/-- The settings of the scheduler are a record with defaults. What the machine decides is
written as a word. -/
def schedulerConfig : Codec SchedulerConfig where
  read := schedulerConfigShape.read
  write c := .record
    [("name", .text c.name),
     ("max_concurrent_tasks", match c.maxConcurrentTasks with
       | none => .text "default"
       | some n => .number n)]

end Codec

end ServiceLifecycle.Json

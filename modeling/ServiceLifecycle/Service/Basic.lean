import ServiceLifecycle.Service.Behaviour
import ServiceLifecycle.State
import ServiceLifecycle.Task.Basic
import ServiceLifecycle.Validation

/-!
# A service

All there is to know about one service, from its creation on. A service that was
removed is still known to the tasks that were submitted for it, and a later
service of the same name is another one; so services are told apart by their
`Incarnation`, not by their name.
-/

namespace ServiceLifecycle

/-- Tells apart all services that were ever created. -/
abbrev Incarnation := Nat

/-- What a hook sees when it is called. -/
structure Context where
  id : ServiceId
  properties : List (String × PropertyValue)
  memory : Handle
  deriving Repr

/-- What happened to an implementation. -/
inductive JournalEntry where
  /-- The n-th call of a hook began. -/
  | began (hook : Hook) (n : Nat) (id : ServiceId) (properties : List (String × PropertyValue))
  /-- A call of a hook returned, with or without an error. -/
  | returned (hook : Hook) (error : Option String)
  /-- A hook took something down. -/
  | noted (text : String)
  deriving Repr

/-- A service with its implementation. -/
structure Service where
  id : ServiceId
  typeName : String
  descriptors : List Descriptor
  behaviour : Behaviour
  properties : PropertyStore := .empty
  /-- What the last validation said. -/
  verdict : Verdict := .valid
  /-- The last failure, until the next transition starts. -/
  fault : Option Fault := none
  /-- The task of the transition under way. -/
  transition : Option TaskId := none
  /-- No longer in the registry, for good. -/
  removed : Bool := false
  state : ServiceState := .disabled
  /-- The states published before, the latest first. -/
  past : List ServiceState := []
  /-- What happened to the implementation, the latest first. -/
  journal : List JournalEntry := []
  deriving Repr

instance : Inhabited Service :=
  ⟨{ id := default, typeName := "", descriptors := [], behaviour := .plain }⟩

namespace Service

/-- Publishes a state. -/
def publish (s : Service) (state : ServiceState) : Service :=
  { s with state, past := s.state :: s.past }

/-- The descriptor of a property, if it is declared. -/
def descriptor? (s : Service) (name : String) : Option Descriptor :=
  s.descriptors.find? fun d => d.name = name

/-- The services referred to, in property order. -/
def references (s : Service) : List ServiceId := s.properties.references.toList

/-- How often a hook has been called. -/
def calls (s : Service) (hook : Hook) : Nat :=
  s.journal.countP fun
    | .began h _ _ _ => h = hook
    | .returned _ _ | .noted _ => false

/-- Writes down what happened to the implementation. -/
def record (s : Service) (e : JournalEntry) : Service := { s with journal := e :: s.journal }

end Service

/-! ## Descriptions -/

/-- An identifier described as a value. -/
def ServiceId.description (id : ServiceId) : String := s!"ServiceId({Text.quoted id.text})"

/-- A value described. -/
def PropertyValue.description : PropertyValue → String
  | .literal text => s!"Literal({Text.quoted text})"
  | .reference id => s!"ServiceRef({id.description})"

/-- A service described by its name, type and state. -/
def Service.description (s : Service) : String :=
  "ServiceNode \x7b id: " ++ s.id.description ++ ", service_type: " ++ Text.quoted s.typeName
    ++ ", state: " ++ s.state.name ++ ", .. \x7d"

/-- What a hook sees, described by the service and its properties. -/
def Context.description (c : Context) : String :=
  let entries := c.properties.map fun e => Text.quoted e.1 ++ ": " ++ e.2.description
  "ActivationContext \x7b service_id: " ++ c.id.description ++ ", properties: \x7b"
    ++ ", ".intercalate entries ++ "\x7d, .. \x7d"

end ServiceLifecycle

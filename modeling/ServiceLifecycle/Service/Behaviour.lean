import ServiceLifecycle.Log
import ServiceLifecycle.Memory
import ServiceLifecycle.Property
import ServiceLifecycle.Task.Script

/-!
# What an implementation does

An implementation declares its properties and has two hooks, one that brings the
service up and one that takes it down. What a hook does is written down as a list
of actions, done in turn until one fails, panics or never ends. A list that comes
to its end has succeeded. Which list is played may depend on how often the hook
has been called.
-/

namespace ServiceLifecycle

/-- Something that a hook may do. -/
inductive HookAction where
  | act (a : Action)
  /-- Fails unless the property has a value. -/
  | require (property : String)
  /-- Replaces the persistent state of the service. -/
  | store (entries : Entries)
  /-- Takes down a description of what the hook sees. -/
  | describe
  /-- Says something. -/
  | say (r : Remark)
  deriving Repr

/-- The hooks of an implementation. -/
inductive Hook where
  | activate
  | deactivate
  deriving DecidableEq, Repr

/-- The name of a hook. -/
def Hook.name : Hook → String
  | .activate => "activate"
  | .deactivate => "deactivate"

/-- What an implementation does when its hooks are called. -/
inductive Behaviour where
  /-- Counts the calls, acts as told on activation, and then stores the count. -/
  | counting (onActivation : List Action)
  /-- Plays the n-th script at the n-th call; the last one is played again and again. -/
  | scripted (activations deactivations : List (List HookAction))
  /-- Does nothing and succeeds. -/
  | plain
  deriving Repr

namespace Behaviour

/-- Whether the calls are counted only. -/
def isCounting : Behaviour → Bool
  | .counting _ => true
  | .scripted _ _ | .plain => false

/-- Whether there is a script. -/
def isScripted : Behaviour → Bool
  | .scripted _ _ => true
  | .counting _ | .plain => false

/-- The n-th script, counting from one; the last is repeated and none does nothing. -/
def scriptAt (scripts : List (List HookAction)) (n : Nat) : List HookAction :=
  (scripts[n - 1]?).getD (scripts.getLast?.getD [])

/-- What the n-th call of a hook does, counting from one. -/
def script (b : Behaviour) (hook : Hook) (id : ServiceId) (n : Nat) : List HookAction :=
  match b, hook with
  | .counting onActivation, .activate =>
      .say ⟨.debug, s!"Activating mock service {id.text} (attempt {n})"⟩
        :: onActivation.map .act ++ [.store (.ofList [("activations", toString n)])]
  | .counting _, .deactivate => [.say ⟨.debug, s!"Deactivating mock service {id.text}"⟩]
  | .scripted activations _, .activate => scriptAt activations n
  | .scripted _ deactivations, .deactivate => scriptAt deactivations n
  | .plain, _ => []

end Behaviour

/-- What an instance of a type of service declares and does. -/
structure Implementation where
  descriptors : List Descriptor
  behaviour : Behaviour
  deriving Repr

/-- Makes the implementation for a new service. -/
abbrev Factory := ServiceId → Implementation

/-- The types of which services can be created. -/
structure Catalogue where
  factories : Table String Factory

namespace Catalogue

/-- No type at all. -/
def empty : Catalogue := ⟨.empty⟩

/-- Puts a factory under a type name, in place of the one there if there is one. -/
def register (c : Catalogue) (typeName : String) (factory : Factory) : Catalogue :=
  ⟨c.factories.insert typeName factory⟩

/-- Whether there is such a type. -/
def contains (c : Catalogue) (typeName : String) : Bool := c.factories.contains typeName

/-- The implementation for a new service of a type, if there is such a type. -/
def instantiate? (c : Catalogue) (typeName : String) (id : ServiceId) :
    Option Implementation :=
  (c.factories.get? typeName).map fun factory => factory id

/-- How many types there are. -/
def size (c : Catalogue) : Nat := c.factories.size

/-- The names of the types, sorted by code points. -/
def typeNames (c : Catalogue) : List String :=
  c.factories.keys.mergeSort fun a b => (compare a b).isLE

/-- The names of the types, described as a set. -/
def description (c : Catalogue) : String :=
  "\x7b" ++ ", ".intercalate (c.factories.keys.map Text.quoted) ++ "\x7d"

/-- An optional property that names another service. -/
def referenceProperty (name : String) : Descriptor := { name, identifiesService := true }

/-- The two reference properties of the mock types that have dependencies. -/
def mockReferences : List Descriptor :=
  [referenceProperty "Other Service", referenceProperty "Other Service 2"]

/-- The types for trying things out: one without properties, one with dependencies, one
whose activation fails, one whose activation takes 50 ms, and one with a required
property. -/
def mock : Catalogue :=
  let type := fun descriptors onActivation =>
    (fun _ => ⟨descriptors, .counting onActivation⟩ : Factory)
  ⟨.ofList
    [("mock.Passthrough", type [] []),
     ("mock.Dependent", type mockReferences []),
     ("mock.Failing", type [referenceProperty "Other Service"] [.fail "mock activation failure"]),
     ("mock.Slow", type mockReferences [.delay 50]),
     ("mock.Configured", type [{ name := "Endpoint", required := true }] [])]⟩

end Catalogue

end ServiceLifecycle

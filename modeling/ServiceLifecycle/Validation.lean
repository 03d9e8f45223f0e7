import ServiceLifecycle.Property

/-!
# Validation of a configuration

A validator looks at what a service declares, at what is configured and at which
services exist, and says whether the service may be enabled.
-/

namespace ServiceLifecycle

/-- What a validator says about a configuration. -/
inductive Verdict where
  | valid
  | invalid (reasons : List String)
  deriving DecidableEq, Repr, Inhabited

namespace Verdict

/-- Whether the configuration may be used. -/
def isValid : Verdict → Bool
  | .valid => true
  | .invalid _ => false

/-- Why it may not, in the order found. -/
def reasons : Verdict → List String
  | .valid => []
  | .invalid reasons => reasons

/-- Valid unless there is a reason against it. -/
def ofReasons : List String → Verdict
  | [] => .valid
  | reasons => .invalid reasons

end Verdict

/-- Everything a validator may look at. -/
structure ValidationContext where
  id : ServiceId
  descriptors : List Descriptor
  properties : PropertyStore
  /-- Whether a service of that name exists. -/
  serviceExists : ServiceId → Bool

/-- Decides whether a service may be enabled. -/
abbrev Validator := ValidationContext → Verdict

namespace Validator

/-- One reason for each required property without a value, in the order of declaration. -/
def missingReasons (c : ValidationContext) : List String :=
  (c.descriptors.filter fun d => d.required && (c.properties.get? d.name).isNone).map
    fun d => s!"'{d.name}' is required"

/-- One reason for each reference to a service that does not exist, in property order. -/
def danglingReasons (c : ValidationContext) : List String :=
  (c.properties.referenceEntries.filter fun e => !c.serviceExists e.2).map
    fun e => s!"'{e.1}' references unknown controller service {e.2.text}"

/-- Requires the required properties and the existence of every referenced service. -/
def standard : Validator := fun c => .ofReasons (missingReasons c ++ danglingReasons c)

/-- Finds nothing to object to. -/
def accepting : Validator := fun _ => .valid

/-- Always objects, for the given reasons. -/
def refusing (reasons : List String) : Validator := fun _ => .invalid reasons

end Validator

end ServiceLifecycle

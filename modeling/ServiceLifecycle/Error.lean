import ServiceLifecycle.Ident
import ServiceLifecycle.State

/-!
# Refused requests

The reasons for which a request to the registry is refused at once, and their
wording. What fails later, in a hook, is no error of a request: it is recorded as
a fault of the service.
-/

namespace ServiceLifecycle

/-- Why a request is refused. -/
inductive RequestError where
  /-- No service of that name. -/
  | notFound (id : ServiceId)
  /-- A service of that name exists already. -/
  | duplicateId (id : ServiceId)
  /-- No implementation under that type name. -/
  | unknownServiceType (serviceType : String)
  /-- The service, or one it depends on, is in a state that forbids the request. -/
  | invalidState (id : ServiceId) (reason : String)
  /-- Something that refers to the service is still up. -/
  | activeReferrer (id : ServiceId) (referrers : List Referrer)
  /-- Something still refers to the service. -/
  | stillReferenced (id : ServiceId) (referrers : List Referrer)
  /-- A property names a service that does not exist. -/
  | unresolvedReference (id : ServiceId) (property : String) (reference : ServiceId)
  /-- The validator objects to the configuration. -/
  | invalid (id : ServiceId) (reasons : List String)
  /-- No component of that name is registered. -/
  | componentNotFound (id : ComponentId)
  deriving DecidableEq, Repr

namespace RequestError

/-- Referrers as a message lists them. -/
def listed (referrers : List Referrer) : String :=
  ", ".intercalate (referrers.map Referrer.text)

/-- The wording of an error. -/
def message : RequestError → String
  | .notFound id => s!"controller service {id.text} does not exist"
  | .duplicateId id => s!"controller service {id.text} already exists"
  | .unknownServiceType t => s!"no implementation registered for service type {t}"
  | .invalidState id reason => s!"controller service {id.text}: {reason}"
  | .activeReferrer id rs =>
      s!"controller service {id.text} is referenced by active components: {listed rs}"
  | .stillReferenced id rs =>
      s!"controller service {id.text} is still referenced by {listed rs}"
  | .unresolvedReference id p r =>
      s!"property '{p}' of controller service {id.text} references unknown service {r.text}"
  | .invalid id reasons =>
      let text := "; ".intercalate reasons
      s!"controller service {id.text} is invalid: {text}"
  | .componentNotFound id => s!"component {id.text} is not registered"

end RequestError

end ServiceLifecycle

/-!
# Identifiers

Names of services and of the components that may refer to them. Both are free
text; they are kept apart by type so that neither is taken for the other.
-/

namespace ServiceLifecycle

/-- Names a service. -/
structure ServiceId where
  text : String
  deriving DecidableEq, Repr, Inhabited

/-- Names a schedulable component. -/
structure ComponentId where
  text : String
  deriving DecidableEq, Repr, Inhabited

/-- Identifiers are ordered by code points, which is the order of their UTF-8 bytes. -/
def ServiceId.order (a b : ServiceId) : Ordering := compare a.text b.text

/-- Identifiers are ordered by code points, which is the order of their UTF-8 bytes. -/
def ComponentId.order (a b : ComponentId) : Ordering := compare a.text b.text

/-- Whatever may refer to a service: another service, or a component. -/
inductive Referrer where
  | service (id : ServiceId)
  | component (id : ComponentId)
  deriving DecidableEq, Repr

namespace Referrer

/-- The referring service, if it is one. -/
def service? : Referrer → Option ServiceId
  | .service id => some id
  | .component _ => none

/-- The referring component, if it is one. -/
def component? : Referrer → Option ComponentId
  | .service _ => none
  | .component id => some id

/-- What a referrer is called in messages. -/
def text : Referrer → String
  | .service id => s!"service {id.text}"
  | .component id => s!"component {id.text}"

end Referrer

end ServiceLifecycle

import ServiceLifecycle.Component
import ServiceLifecycle.Config
import ServiceLifecycle.Error
import ServiceLifecycle.Graph.Branch
import ServiceLifecycle.Graph.Discovery
import ServiceLifecycle.Referrers
import ServiceLifecycle.Service.Basic

/-!
# The registry

Every service there has ever been, which of them are registered under their
names, who refers to whom, the components, and what services keep in memory. The
registry knows nothing of tasks; it ends transitions, but does not begin them.
-/

namespace ServiceLifecycle

/-- Services, components and what connects them. -/
structure Registry where
  config : RegistryConfig := {}
  validator : Validator := Validator.standard
  /-- Whether others get a chance to act whenever the validator is consulted. -/
  isValidatorObserved : Bool := false
  catalogue : Catalogue := .empty
  /-- Every service there has ever been. -/
  services : Array Service := #[]
  /-- The registered services, in the order of their creation. -/
  names : Table ServiceId Incarnation := .empty
  /-- The latest instance of a counting implementation made for each name. -/
  latestCounting : Table ServiceId Incarnation := .empty
  /-- The latest instance of a scripted implementation made for each name. -/
  latestScripted : Table ServiceId Incarnation := .empty
  /-- Every component there has ever been. -/
  components : Array Component := #[]
  /-- The registered components. -/
  roster : Table ComponentId ComponentNumber := .empty
  referrers : Referrers := .empty
  memory : Memory := .empty
  /-- What was said, the latest first. -/
  log : List Remark := []

namespace Registry

/-- Says something. -/
def say (r : Registry) (remark : Remark) : Registry := { r with log := remark :: r.log }

/-- Says several things, one after the other. -/
def sayAll (r : Registry) (remarks : List Remark) : Registry := remarks.foldl say r

/-! ## Services -/

/-- A service by its incarnation. -/
def service (r : Registry) (n : Incarnation) : Service := (r.services[n]?).getD default

/-- Changes a service. -/
def modify (r : Registry) (n : Incarnation) (f : Service → Service) : Registry :=
  { r with services := r.services.modify n f }

/-- The incarnation registered under a name. -/
def find? (r : Registry) (id : ServiceId) : Option Incarnation := r.names.get? id

/-- The service registered under a name. -/
def lookup? (r : Registry) (id : ServiceId) : Option Service := (r.find? id).map r.service

/-- The state of the service registered under a name. -/
def stateOf? (r : Registry) (id : ServiceId) : Option ServiceState :=
  (r.lookup? id).map Service.state

/-- The state of the service registered under a name; one that is not there counts as disabled. -/
def stateOf (r : Registry) (id : ServiceId) : ServiceState := (r.stateOf? id).getD .disabled

/-- What the validator says of a service with the given properties, as things are now. -/
def verdictFor (r : Registry) (n : Incarnation) (properties : PropertyStore) : Verdict :=
  let s := r.service n
  r.validator
    { id := s.id, descriptors := s.descriptors, properties
      serviceExists := fun id => r.names.contains id }

/-! ## Components -/

/-- A component by its number. -/
def component (r : Registry) (n : ComponentNumber) : Component :=
  (r.components[n]?).getD default

/-- Changes a component. -/
def modifyComponent (r : Registry) (n : ComponentNumber) (f : Component → Component) :
    Registry :=
  { r with components := r.components.modify n f }

/-! ## Along the references -/

/-- The registered services that refer to `id` directly or through other services,
nearest first, without `id` itself. -/
def recursiveReferrers (r : Registry) (id : ServiceId) : List ServiceId :=
  let found := Graph.discover
    (fun k => (r.referrers.services k).filter r.names.contains)
    (r.names.size + 1) [id] (OrderedSet.empty.insert id)
  found.toList.filter fun k => k ≠ id

/-- A service as a vertex of the dependency graph. -/
def vertex (r : Registry) (n : Incarnation) : Graph.Vertex Incarnation :=
  let s := r.service n
  { id := s.id, dependencies := s.references, item := n }

/-- Some services, each name once. -/
def roots (r : Registry) (ns : List Incarnation) : Table ServiceId Incarnation :=
  ns.foldl
    (fun t n => let id := (r.service n).id; if t.contains id then t else t.insert id n)
    .empty

/-- The given services followed by every registered service that they refer to,
directly or through others. -/
def dependencyGraph (r : Registry) (ns : List Incarnation) :
    Table ServiceId (Graph.Vertex Incarnation) :=
  let given := r.roots ns
  let incarnation? := fun k => (given.get? k).or (r.find? k)
  let found := Graph.discover
    (fun k => match incarnation? k with
      | some n => (r.service n).references.filter r.names.contains
      | none => [])
    (given.size + r.names.size) given.keys (given.keys.foldl OrderedSet.insert .empty)
  .ofList (found.toList.filterMap fun k => (incarnation? k).map fun n => (k, r.vertex n))

/-! ## The end of a transition -/

/-- What is said of a service that is not where its transition should have put it. -/
def staleRemark (s : Service) (expected : ServiceState) : Remark :=
  ⟨.warn, s!"Controller service {s.id.text} expected to be {expected.text} but is {s.state.text}, leaving it as is"⟩

/-- Ends a transition of a service and says whether there was one to end. A service that
is not where the transition should have put it is left alone. -/
def complete (r : Registry) (n : Incarnation) (source target : ServiceState)
    (fault : Option Fault) : Bool × Registry :=
  let s := r.service n
  if s.state = source then
    (true, r.modify n fun s =>
      { s.publish target with transition := none, fault := fault.or s.fault })
  else
    (false, r.say (staleRemark s source))

end Registry

end ServiceLifecycle

import ServiceLifecycle.Provider.Enabling

/-!
# Editing the registry

Services are created and removed, their properties set and cleared, components
registered, and references recorded. The edges of the dependency graph and the
verdicts of the validator follow every edit.
-/

namespace ServiceLifecycle.Provider

/-- Takes in the implementation made for a new service. It is not registered yet. -/
def instantiate (p : Provider) (made : Implementation) (typeName : String) (id : ServiceId) :
    Incarnation × Provider :=
  let r := p.registry
  let n := r.services.size
  (n, { p with registry := { r with
    services := r.services.push
      { id, typeName, descriptors := made.descriptors, behaviour := made.behaviour }
    latestCounting :=
      if made.behaviour.isCounting then r.latestCounting.insert id n else r.latestCounting
    latestScripted :=
      if made.behaviour.isScripted then r.latestScripted.insert id n else r.latestScripted } })

/-- Validates the registered services of some names anew. -/
def revalidateAll (between : Interference) (ids : List ServiceId) (p : Provider) : Provider :=
  ids.foldl
    (fun p id => match p.registry.find? id with
      | some n => p.revalidate between n
      | none => p)
    p

/-- Registers an instance under its name, which must be free, and validates it and those
that have been waiting for a service of its name. -/
def register (between : Interference) (p : Provider) (n : Incarnation) (id : ServiceId) :
    Provider :=
  let p := { p with registry := { p.registry with names := p.registry.names.insert id n } }
  let p := p.revalidate between n
  revalidateAll between (p.registry.referrers.services id) p

/-- Creates a service that is down. If it is to be enabled at once and that is refused,
it is created nevertheless and the refusal is recorded as its fault. -/
def create (between : Interference) (p : Provider) (typeName : String) (id : ServiceId)
    (enabled : Bool) : Except RequestError Incarnation × Provider :=
  match p.registry.catalogue.instantiate? typeName id with
  | none => (.error (.unknownServiceType typeName), p)
  | some made =>
    let (n, p) := p.instantiate made typeName id
    if p.registry.names.contains id then (.error (.duplicateId id), p)
    else
      let p := (p.register between n id).say
        ⟨.info, s!"Created controller service {id.text} of type {typeName}"⟩
      if enabled then
        match p.enable between id with
        | (.ok _, p) => (.ok n, p)
        | (.error e, p) =>
            let p := p.say
              ⟨.warn, s!"Controller service {id.text} was not enabled on creation: {e.message}"⟩
            (.ok n, p.modify n fun s => { s with fault := some ⟨.rejected, e.message⟩ })
      else (.ok n, p)

/-- Gives up what a removed service keeps in memory. -/
def dropMemory (p : Provider) (id : ServiceId) : Provider :=
  if p.registry.memory.contains id.text then
    { p with registry := { p.registry with memory := p.registry.memory.drop id.text } }.say
      ⟨.debug, s!"Dropped state of component {id.text}"⟩
  else p

/-- Removes a service that is down and to which nothing but itself refers. -/
def remove (p : Provider) (id : ServiceId) : Except RequestError Unit × Provider :=
  match p.registry.find? id with
  | none => (.error (.notFound id), p)
  | some n =>
    let others := (p.registry.referrers.of id).filter fun r => r ≠ .service id
    let s := p.service n
    if !others.isEmpty then (.error (.stillReferenced id others), p)
    else if s.removed then (.error (.notFound id), p)
    else if s.state ≠ .disabled then
      (.error (.invalidState id s!"cannot remove a service that is {s.state.text}"), p)
    else
      let p := p.modify n fun s => { s with removed := true }
      let p := { p with registry := { p.registry with
        names := p.registry.names.erase id
        referrers := s.references.foldl (fun rs target => rs.remove target (.service id))
          p.registry.referrers } }
      (.ok (), (p.dropMemory id).say ⟨.info, s!"Removed controller service {id.text}"⟩)

/-- Records what an edit did to the references of a service. -/
def applyChange (p : Provider) (id : ServiceId) (change : ReferenceChange) : Provider :=
  let added := change.added.foldl (fun rs target => rs.add target (.service id))
    p.registry.referrers
  { p with registry := { p.registry with
    referrers := change.removed.foldl (fun rs target => rs.remove target (.service id)) added } }

/-- Edits the properties of a service that is down; says so if it was done. -/
def edit (between : Interference) (p : Provider) (id : ServiceId)
    (change : Service → PropertyStore × ReferenceChange) (remark : Remark) :
    Except RequestError Unit × Provider :=
  match p.registry.find? id with
  | none => (.error (.notFound id), p)
  | some n =>
    let s := p.service n
    if s.removed then (.error (.notFound id), p)
    else if s.state ≠ .disabled then
      (.error (.invalidState id
        s!"properties cannot change while the service is {s.state.text}"), p)
    else
      let (properties, referenceChange) := change s
      let p := (p.modify n fun s => { s with properties }).applyChange id referenceChange
      (.ok (), (p.revalidate between n).say remark)

/-- Sets a property. -/
def setProperty (between : Interference) (p : Provider) (id : ServiceId)
    (name value : String) : Except RequestError Unit × Provider :=
  p.edit between id (fun s => s.properties.set (s.descriptor? name) name value)
    ⟨.debug, s!"Set property '{name}' of controller service {id.text}"⟩

/-- Clears a property. -/
def removeProperty (between : Interference) (p : Provider) (id : ServiceId)
    (name : String) : Except RequestError Unit × Provider :=
  p.edit between id (fun s => s.properties.remove name)
    ⟨.debug, s!"Removed property '{name}' of controller service {id.text}"⟩

/-! ## Components -/

/-- Registers a component, in place of one of the same name if there is one. -/
def registerComponent (p : Provider) (c : Component) : Provider :=
  let r := p.registry
  { p with registry := { r with
    components := r.components.push c
    roster := r.roster.insert c.id r.components.size } }.say
      ⟨.debug, s!"Registered component {c.id.text}"⟩

/-- Takes a component off the roster, with every reference it holds. -/
def unregisterComponent (p : Provider) (id : ComponentId) :
    Except RequestError Unit × Provider :=
  if p.registry.roster.contains id then
    (.ok (), { p with registry := { p.registry with
      roster := p.registry.roster.erase id
      referrers := p.registry.referrers.removeEverywhere (.component id) } }.say
        ⟨.debug, s!"Unregistered component {id.text}"⟩)
  else (.error (.componentNotFound id), p)

/-- Records that a registered component refers to a service. Says whether that is new. -/
def addReference (p : Provider) (target : ServiceId) (id : ComponentId) :
    Except RequestError Bool × Provider :=
  if !p.registry.names.contains target then (.error (.notFound target), p)
  else if !p.registry.roster.contains id then (.error (.componentNotFound id), p)
  else
    (.ok !(p.registry.referrers.has target (.component id)),
     { p with registry := { p.registry with
       referrers := p.registry.referrers.add target (.component id) } })

/-- Drops the reference of a component to a service. Says whether there was one. -/
def removeReference (p : Provider) (target : ServiceId) (id : ComponentId) :
    Bool × Provider :=
  (p.registry.referrers.has target (.component id),
   { p with registry := { p.registry with
     referrers := p.registry.referrers.remove target (.component id) } })

end ServiceLifecycle.Provider

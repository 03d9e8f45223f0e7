import ServiceLifecycle.Provider.Basic

/-!
# Enabling services

To enable a service, one task is submitted for each element of its enabling
branch, gated on the task before it. An element that is down is claimed and its
task brings it up. For any other element the task only confirms that it is up,
after whatever transition is under way. Everything is checked before the first
task is submitted, and the state of the dependencies once more with each claim.
-/

namespace ServiceLifecycle.Provider

/-- What became of one element of a branch. -/
inductive Claimed where
  /-- It was moved to enabling. -/
  | initiated
  /-- Somebody else has it; the task waits for it. -/
  | joined
  /-- Its dependencies had changed. -/
  | rejected (e : RequestError)
  deriving Repr

/-- The first property whose reference stands in the way of enabling a service: the
service it names does not exist, or is not up and not about to be enabled either. -/
def referenceObstacle? (p : Provider) (n : Incarnation) (properties : PropertyStore)
    (willEnable : List ServiceId) : Option RequestError :=
  properties.referenceEntries.findSome? fun e =>
    match p.registry.stateOf? e.2 with
    | none => some (.unresolvedReference (p.service n).id e.1 e.2)
    | some state =>
        if state.isActive || willEnable.contains e.2 then none
        else some (.invalidState (p.service n).id
          s!"referenced service {e.2.text} is {state.text}")

/-- Checks whether a service may be enabled. -/
def verifyCanEnable (between : Interference) (p : Provider) (n : Incarnation)
    (willEnable : List ServiceId) : Except RequestError Unit × Provider :=
  let properties := (p.service n).properties
  match p.referenceObstacle? n properties willEnable with
  | some e => (.error e, p)
  | none =>
      let (verdict, p) := p.judge between n properties
      match verdict with
      | .valid => (.ok (), p)
      | .invalid reasons => (.error (.invalid (p.service n).id reasons), p)

/-- The last check before a service is claimed: every dependency other than the service
itself is up or, if it is down, about to be enabled. -/
def verifyDependenciesUp (p : Provider) (n : Incarnation) (willEnable : List ServiceId) :
    Except RequestError Unit :=
  let s := p.service n
  match (s.references.filter fun reference => reference ≠ s.id).find? fun reference =>
      match p.registry.stateOf reference with
      | .enabling | .enabled => false
      | .disabled => !willEnable.contains reference
      | .disabling => true with
  | none => .ok ()
  | some reference =>
      .error (.invalidState s.id
        s!"referenced service {reference.text} is {(p.registry.stateOf reference).text}")

/-- Submits the task for one element of a branch, gated on the task before it. -/
def submitStep (p : Provider) (n : Incarnation) (gate : Option TaskId)
    (willEnable : List ServiceId) : TaskId × Claimed × Provider :=
  match p.claim n .disabled .enabling (.enable n) gate.toList
      (fun p => (p.verifyDependenciesUp n willEnable, p)) with
  | (.ok i, p) =>
      (i, .initiated, p.say ⟨.info, s!"Enabling controller service {p.registry.nameOf n}"⟩)
  | (.error (.rejected e), p) =>
      let p := p.say
        ⟨.debug, s!"Not enabling controller service {p.registry.nameOf n}: {e.message}"⟩
      let (i, p) := p.submit (.confirm n) gate.toList
      (i, .rejected e, p)
  | (.error (.busy _ inFlight), p) =>
      let (i, p) := p.submit (.confirm n) (inFlight.toList ++ gate.toList)
      (i, .joined, p)
  | (.error .removed, p) =>
      let (i, p) := p.submit (.confirm n) gate.toList
      (i, .joined, p)

/-- What the submission of a branch has come to. -/
structure Submission where
  /-- The task of the element submitted last, and what became of the element. -/
  last : Option (TaskId × Claimed) := none
  /-- The services moved to enabling. -/
  initiated : OrderedSet ServiceId := .empty

/-- Submits a branch, each element gated on the one before it. -/
def submitBranch (branch : List (Graph.Vertex Incarnation)) (willEnable : List ServiceId)
    (initiated : OrderedSet ServiceId) (p : Provider) : Submission × Provider :=
  branch.foldl
    (fun (acc : Submission × Provider) v =>
      let (i, claimed, p) := acc.2.submitStep v.item (acc.1.last.map Prod.fst) willEnable
      let initiated := match claimed with
        | .initiated => acc.1.initiated.insert v.id
        | .joined | .rejected _ => acc.1.initiated
      ({ last := some (i, claimed), initiated }, p))
    ({ initiated }, p)

/-- Says what a walk had to note. -/
def sayNotes (p : Provider) (walk : Graph.Walk Incarnation) : Provider :=
  { p with registry := p.registry.sayAll (walk.notes.reverse.map fun n => ⟨.trace, n.text⟩) }

/-- Enables a service and gives the task that brings it up. -/
def enable (between : Interference) (p : Provider) (id : ServiceId) :
    Except RequestError TaskId × Provider :=
  match p.registry.find? id with
  | none => (.error (.notFound id), p)
  | some n =>
    let state := (p.service n).state
    if state ≠ .disabled then
      (.error (.invalidState id s!"cannot enable a service that is {state.text}"), p)
    else
      match p.verifyCanEnable between n [] with
      | (.error e, p) => (.error e, p)
      | (.ok (), p) =>
          let walk := Graph.walkFrom (p.registry.dependencyGraph [n]) (p.registry.vertex n)
          let (submission, p) := submitBranch walk.branch [] .empty (p.sayNotes walk)
          match submission.last with
          | some (i, claimed) =>
              if submission.initiated.contains id then (.ok i, p)
              else match claimed with
                | .rejected e => (.error e, p)
                | .initiated | .joined =>
                    (.error (.invalidState id "another caller started enabling the service"), p)
          | none =>
              (.error (.invalidState id "another caller started enabling the service"), p)

/-- Picks out the services that are down. One that is going down stops everything. -/
def selectTargets (p : Provider) :
    List Incarnation → Except RequestError (List Incarnation) × Provider
  | [] => (.ok [], p)
  | n :: rest =>
    let s := p.service n
    match s.state with
    | .disabled =>
        match p.selectTargets rest with
        | (.ok targets, p) => (.ok (n :: targets), p)
        | (.error e, p) => (.error e, p)
    | .enabling | .enabled =>
        (p.say ⟨.trace, s!"Controller service {s.id.text} is already active"⟩).selectTargets rest
    | .disabling =>
        (.error (.invalidState s.id "cannot enable a service that is DISABLING"), p)

/-- Checks several services one after the other, up to the first that may not be enabled. -/
def verifyAll (between : Interference) (willEnable : List ServiceId) :
    List Incarnation → Provider → Except RequestError Unit × Provider
  | [], p => (.ok (), p)
  | n :: rest, p =>
    match p.verifyCanEnable between n willEnable with
    | (.ok (), p) => verifyAll between willEnable rest p
    | (.error e, p) => (.error e, p)

/-- Submits several branches and gives the services moved to enabling. -/
def submitBranches (branches : List (List (Graph.Vertex Incarnation)))
    (willEnable : List ServiceId) (p : Provider) : OrderedSet ServiceId × Provider :=
  branches.foldl
    (fun (acc : OrderedSet ServiceId × Provider) branch =>
      let (submission, p) := submitBranch branch willEnable acc.1 acc.2
      (submission.initiated, p))
    (.empty, p)

/-- Enables those of the given services that are down. Each may count on the others.
As many branches are submitted as there are services to be enabled; theirs come first
in the enabling order. -/
def enableServices (between : Interference) (p : Provider) (ns : List Incarnation) :
    Except RequestError (List ServiceId) × Provider :=
  match p.selectTargets ns with
  | (.error e, p) => (.error e, p)
  | (.ok targets, p) =>
    let willEnable := targets.map fun n => (p.service n).id
    match verifyAll between willEnable targets p with
    | (.error e, p) => (.error e, p)
    | (.ok (), p) =>
        let walks := Graph.walks (p.registry.dependencyGraph targets)
        let p := walks.foldl sayNotes p
        let (initiated, p) :=
          submitBranches ((walks.map Graph.Walk.branch).take targets.length) willEnable p
        (.ok initiated.toList, p)

/-- The services of the given names, or the first name that none has. -/
def resolve (p : Provider) : List ServiceId → Except RequestError (List Incarnation)
  | [] => .ok []
  | id :: rest =>
    match p.registry.find? id with
    | none => .error (.notFound id)
    | some n => (p.resolve rest).map (n :: ·)

/-- Enables several services at once and gives those moved to enabling. -/
def enableAll (between : Interference) (p : Provider) (ids : List ServiceId) :
    Except RequestError (List ServiceId) × Provider :=
  match p.resolve ids with
  | .error e => (.error e, p)
  | .ok ns => p.enableServices between ns

/-- Enables every service that refers to an active service, directly or through others,
and gives those moved to enabling. -/
def enableReferrers (between : Interference) (p : Provider) (id : ServiceId) :
    Except RequestError (List ServiceId) × Provider :=
  match p.registry.stateOf? id with
  | none => (.error (.notFound id), p)
  | some state =>
    if state.isActive then
      p.enableServices between
        ((p.registry.recursiveReferrers id).filterMap p.registry.find?)
    else
      (.error (.invalidState id
        s!"cannot enable referencing services while the service is {state.text}"), p)

end ServiceLifecycle.Provider

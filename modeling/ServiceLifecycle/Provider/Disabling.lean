import ServiceLifecycle.Provider.Basic

/-!
# Disabling services

A service goes down only when nothing that is up refers to it. Whoever refers to
it can be taken down with one request, those that others build upon last, and the
components that refer to it can be stopped and started.
-/

namespace ServiceLifecycle.Provider

/-- Whether a referrer of `id` stands in the way of taking it down: a service other than
`id`, not among the excluded ones, that is not down; or a component that is running. -/
def isActiveReferrer (between : Interference) (id : ServiceId) (excluded : List ServiceId)
    (referrer : Referrer) (p : Provider) : Bool × Provider :=
  match referrer with
  | .service other =>
      (other ≠ id && !excluded.contains other && p.registry.stateOf other ≠ .disabled, p)
  | .component c => p.askRunning between c

/-- Those of some things that pass a check, asked one after the other. -/
def selectAsking {α : Type} (check : α → Provider → Bool × Provider) :
    List α → Provider → List α × Provider
  | [], p => ([], p)
  | a :: rest, p =>
    let (passes, p) := check a p
    let (selected, p) := selectAsking check rest p
    (if passes then a :: selected else selected, p)

/-- Checks that nothing outside the excluded services needs the service to be up. -/
def verifyNoActiveReferrers (between : Interference) (p : Provider) (n : Incarnation)
    (excluded : List ServiceId) : Except RequestError Unit × Provider :=
  let id := (p.service n).id
  match selectAsking (isActiveReferrer between id excluded) (p.registry.referrers.of id) p with
  | ([], p) => (.ok (), p)
  | (active, p) => (.error (.activeReferrer id active), p)

/-- Checks that no component that refers to the service is running. -/
def verifyNoRunningComponents (between : Interference) (p : Provider) (n : Incarnation) :
    Except RequestError Unit × Provider :=
  let id := (p.service n).id
  match selectAsking (fun c p => p.askRunning between c)
      (p.registry.referrers.components id) p with
  | ([], p) => (.ok (), p)
  | (running, p) => (.error (.activeReferrer id (running.map .component)), p)

/-- Claims a service for being taken down, after one last look at its referrers. -/
def claimDown (between : Interference) (p : Provider) (n : Incarnation)
    (excluded : List ServiceId) (gate : Option TaskId) : Except Refusal TaskId × Provider :=
  match p.claim n .enabled .disabling (.disable n) gate.toList
      (fun p => p.verifyNoActiveReferrers between n excluded) with
  | (.ok i, p) =>
      (.ok i, p.say ⟨.info, s!"Disabling controller service {p.registry.nameOf n}"⟩)
  | (.error refusal, p) => (.error refusal, p)

/-- The error of a request to take down a service that could not be claimed. -/
def refusalError (id : ServiceId) : Refusal → RequestError
  | .busy state _ => .invalidState id s!"cannot disable a service that is {state.text}"
  | .removed => .notFound id
  | .rejected e => e

/-- Takes down a service and gives the task that does it. -/
def disable (between : Interference) (p : Provider) (id : ServiceId) :
    Except RequestError TaskId × Provider :=
  match p.registry.find? id with
  | none => (.error (.notFound id), p)
  | some n =>
    let state := (p.service n).state
    if state ≠ .enabled then
      (.error (.invalidState id s!"cannot disable a service that is {state.text}"), p)
    else
      match p.verifyNoActiveReferrers between n [] with
      | (.error e, p) => (.error e, p)
      | (.ok (), p) =>
          match p.claimDown between n [] none with
          | (.ok i, p) => (.ok i, p)
          | (.error refusal, p) => (.error (refusalError id refusal), p)

/-- The services that are up. One in transit stops everything. -/
def selectEnabled (p : Provider) : List Incarnation → Except RequestError (List Incarnation)
  | [] => .ok []
  | n :: rest =>
    let s := p.service n
    if s.state.isTransient then
      .error (.invalidState s.id s!"cannot disable a service that is {s.state.text}")
    else if s.state = .enabled then (p.selectEnabled rest).map (n :: ·)
    else p.selectEnabled rest

/-- Checks several services one after the other, up to the first with a running component. -/
def verifyNoneInUse (between : Interference) :
    List Incarnation → Provider → Except RequestError Unit × Provider
  | [], p => (.ok (), p)
  | n :: rest, p =>
    match p.verifyNoRunningComponents between n with
    | (.ok (), p) => verifyNoneInUse between rest p
    | (.error e, p) => (.error e, p)

/-- Claims services one after the other, each task gated on the one before it. A service
that somebody else has by now is skipped. -/
def claimChain (between : Interference) (excluded : List ServiceId) :
    List (Graph.Vertex Incarnation) → Option TaskId → Provider →
      Except RequestError (List ServiceId) × Provider
  | [], _, p => (.ok [], p)
  | v :: rest, gate, p =>
    match p.claimDown between v.item excluded gate with
    | (.ok i, p) =>
        match claimChain between excluded rest (some i) p with
        | (.ok initiated, p) => (.ok (v.id :: initiated), p)
        | (.error e, p) => (.error e, p)
    | (.error (.rejected e), p) => (.error e, p)
    | (.error refusal, p) =>
        claimChain between excluded rest gate
          (p.say ⟨.debug, s!"Skipping controller service {v.id.text}: {p.describeRefusal refusal}"⟩)

/-- Takes down every service that is up and refers to `id`, directly or through others,
in a single chain in which those that are built upon come last. Gives the services
claimed. -/
def disableReferrers (between : Interference) (p : Provider) (id : ServiceId) :
    Except RequestError (List ServiceId) × Provider :=
  match p.registry.find? id with
  | none => (.error (.notFound id), p)
  | some _ =>
    match p.selectEnabled ((p.registry.recursiveReferrers id).filterMap p.registry.find?) with
    | .error e => (.error e, p)
    | .ok targets =>
      match verifyNoneInUse between targets p with
      | (.error e, p) => (.error e, p)
      | (.ok (), p) =>
          let nodes := Table.ofList (targets.map fun n => ((p.service n).id, p.registry.vertex n))
          let notes := (Graph.walks nodes).flatMap fun w => w.notes.reverse
          let p := { p with
            registry := p.registry.sayAll (notes.map fun n => ⟨.trace, n.text⟩) }
          claimChain between nodes.keys (Graph.disablingOrder nodes) none p

/-! ## Components -/

/-- Asks the components that refer to `service` to stop, unless they are among those
asked before or not running. -/
def stopComponents (between : Interference) (service : ServiceId) :
    List ComponentId → OrderedSet ComponentId → Provider → OrderedSet ComponentId × Provider
  | [], stopped, p => (stopped, p)
  | id :: rest, stopped, p =>
    match p.registry.roster.get? id with
    | none =>
        stopComponents between service rest stopped
          (p.say ⟨.debug, s!"Component {id.text} is not registered"⟩)
    | some c =>
        let (component, p) := p.askComponent between c
        if component.state = .running && !stopped.contains id then
          let p := { p with registry := p.registry.modifyComponent c Component.requestStop }
          stopComponents between service rest (stopped.insert id)
            (p.say ⟨.info, s!"Stopping component {id.text} that references {service.text}"⟩)
        else stopComponents between service rest stopped p

/-- Asks every running component to stop that refers to `id`, or to a service that refers
to it directly or through others. Gives the components asked. -/
def unscheduleReferrers (between : Interference) (p : Provider) (id : ServiceId) :
    Except RequestError (List ComponentId) × Provider :=
  match p.registry.find? id with
  | none => (.error (.notFound id), p)
  | some _ =>
    let (stopped, p) := (id :: p.registry.recursiveReferrers id).foldl
      (fun (acc : OrderedSet ComponentId × Provider) service =>
        stopComponents between service (acc.2.registry.referrers.components service) acc.1 acc.2)
      (.empty, p)
    (.ok stopped.toList, p)

/-- Asks those of some components that are stopped to start. -/
def startComponents (between : Interference) (service : ServiceId) :
    List ComponentId → Provider → List ComponentId × Provider
  | [], p => ([], p)
  | id :: rest, p =>
    match p.registry.roster.get? id with
    | none => startComponents between service rest p
    | some c =>
        let (component, p) := p.askComponent between c
        if component.state = .stopped then
          let p := { p with registry := p.registry.modifyComponent c Component.requestStart }
          let (started, p) := startComponents between service rest
            (p.say ⟨.info, s!"Starting component {id.text} that references {service.text}"⟩)
          (id :: started, p)
        else startComponents between service rest p

/-- Asks every stopped component that refers directly to a service that is up to start.
Gives the components asked. -/
def scheduleReferrers (between : Interference) (p : Provider) (id : ServiceId) :
    Except RequestError (List ComponentId) × Provider :=
  match p.registry.stateOf? id with
  | none => (.error (.notFound id), p)
  | some state =>
    if state = .enabled then
      let (started, p) :=
        startComponents between id (p.registry.referrers.components id) p
      (.ok started, p)
    else
      (.error (.invalidState id
        s!"cannot start referencing components while the service is {state.text}"), p)

end ServiceLifecycle.Provider

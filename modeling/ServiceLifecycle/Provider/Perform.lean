import ServiceLifecycle.Provider.Disabling
import ServiceLifecycle.Provider.Editing

/-!
# Performing requests

`perform` makes one request of a provider and gives the reply. What others do at
the moments at which they may get in is given to it; `interference` is what the
ambushes set up so far come to. A request made by others may be interrupted in its
turn, but each ambush is laid only once, so this comes to an end.
-/

namespace ServiceLifecycle.Provider

/-- The branches of the registered services among the given names, with nothing else in
the graph, and what there is to note about them. -/
def walksOf (p : Provider) (ids : List ServiceId) : List (Graph.Walk Incarnation) :=
  Graph.walks (.ofList (ids.filterMap fun id =>
    (p.registry.find? id).map fun n => (id, p.registry.vertex n)))

/-- Sets the state of a component that was registered with one of its own. -/
def setComponent (p : Provider) (id : ComponentId) (state : ScheduledState) (threads : Nat) :
    Reply × Provider :=
  match p.registry.roster.get? id with
  | none => (.unreadable, p)
  | some c =>
      (.done, { p with registry := p.registry.modifyComponent c fun c => { c with state, threads } })

/-- Lets others get in at a moment, once. -/
def arm (p : Provider) (probe : Probe) (requests : List Request) : Provider :=
  { p with ambushes := ⟨probe, requests⟩ :: p.ambushes.filter fun a => a.probe ≠ probe }

/-- Starts watching the state of a service. -/
def subscribe (p : Provider) (id : ServiceId) : Reply × Provider :=
  match p.registry.find? id with
  | none => (.unreadable, p)
  | some n =>
      (.done, { p with watches :=
        p.watches.insert id { service := n, seen := (p.service n).past.length } })

/-- Tells whether a watched service has published a state since the last look. -/
def lookForChange (p : Provider) (id : ServiceId) : Reply × Provider :=
  match p.watches.get? id with
  | none => (.unreadable, p)
  | some w =>
      let s := p.service w.service
      (.change (decide (w.seen < s.past.length)) s.state,
       { p with watches := p.watches.insert id { w with seen := s.past.length } })

/-- The memory of a service, set up if need be. -/
def readMemory (p : Provider) (id : ServiceId) : Reply × Provider :=
  let (h, memory) := p.registry.memory.acquire id.text
  (.memory (memory.get h), { p with registry := { p.registry with memory } })

/-- Turns a result into the reply that tells it. -/
def told {α : Type} (reply : α → Reply) (result : α × Provider) : Reply × Provider :=
  (reply result.1, result.2)

/-- Makes one request. -/
def perform (between : Interference) (q : Request) (p : Provider) : Reply × Provider :=
  match q with
  | .create typeName id enabled =>
      match p.create between typeName id enabled with
      | (.ok n, p) => (.state (p.service n).state, p)
      | (.error e, p) => (.refused e, p)
  | .remove id => told .ofUnit (p.remove id)
  | .setProperty id name value => told .ofUnit (p.setProperty between id name value)
  | .removeProperty id name => told .ofUnit (p.removeProperty between id name)
  | .enable id => told (.ofResult .submitted) (p.enable between id)
  | .disable id => told (.ofResult .submitted) (p.disable between id)
  | .enableAll ids => told (.ofResult .services) (p.enableAll between ids)
  | .enableReferrers id => told (.ofResult .services) (p.enableReferrers between id)
  | .disableReferrers id => told (.ofResult .services) (p.disableReferrers between id)
  | .unscheduleReferrers id =>
      told (.ofResult .components) (p.unscheduleReferrers between id)
  | .scheduleReferrers id => told (.ofResult .components) (p.scheduleReferrers between id)
  | .registerComponent c => (.done, p.registerComponent c)
  | .setComponent id state threads => p.setComponent id state threads
  | .unregisterComponent id => told .ofUnit (p.unregisterComponent id)
  | .inspectComponent id =>
      match p.registry.roster.get? id with
      | none => (.component none, p)
      | some c =>
          let (component, p) := p.askComponent between c
          (.component (some component), p)
  | .addReference target id => told (.ofResult .flag) (p.addReference target id)
  | .removeReference target id => told .flag (p.removeReference target id)
  | .listReferrers id => (.referrers (p.registry.referrers.of id), p)
  | .listRecursiveReferrers id => (.services (p.registry.recursiveReferrers id), p)
  | .listServices => (.services p.registry.names.keys, p)
  | .orderBranches ids =>
      let walks := p.walksOf ids
      (.branches (walks.map fun w => w.branch.map Graph.Vertex.id), walks.foldl sayNotes p)
  | .inspect id => (.inspected (p.registry.lookup? id), p)
  | .property id name =>
      (.property ((p.registry.lookup? id).bind fun s => s.properties.get? name), p)
  | .query id => (.query (p.registry.lookup? id), p)
  | .describe id => (.description ((p.registry.lookup? id).map Service.description), p)
  | .task i =>
      match p.tasks.tasks[i]? with
      | none => (.unreadable, p)
      | some t => (.task t.name t.status, p)
  | .counts =>
      (.counts p.tasks.pending p.tasks.running p.tasks.isShutdown p.tasks.name
        p.tasks.configured, p)
  | .configuration =>
      (.configuration p.registry.config.awaitTimeout.milliseconds
        p.registry.config.deactivateOnFailedActivation p.tasks.name, p)
  | .shutdown =>
      (.done, { p with tasks := p.tasks.shutdown }.say (Scheduler.shutdownRemark p.tasks.name))
  | .countCalls id =>
      (.calls ((p.registry.latestCounting.get? id).map fun n =>
        let s := p.service n
        (s.calls .activate, s.calls .deactivate)), p)
  | .readJournal id =>
      (.journal ((p.registry.latestScripted.get? id).map fun n =>
        (p.service n).journal.reverse), p)
  | .holdsMemory id => (.flag (p.registry.memory.contains id.text), p)
  | .readMemory id => p.readMemory id
  | .subscribe id => p.subscribe id
  | .lookForChange id => p.lookForChange id
  | .arm probe requests => (.done, p.arm probe requests)
  | .unreadable => (.unreadable, p)

/-! ## Others getting in -/

/-- Makes the requests of others, one after the other, and overhears what they are told. -/
def performOverheard (between : Interference) (requests : List Request) (p : Provider) :
    Provider :=
  requests.foldl
    (fun p q =>
      let (reply, p) := p.perform between q
      { p with overheard := reply :: p.overheard })
    p

/-- What others do at a moment, as long as no more than `depth` of them interrupt each
other. -/
def interferenceWithin : Nat → Interference
  | 0, _, p => p
  | depth + 1, probe, p =>
    match p.ambushes.find? fun a => a.probe = probe with
    | none => p
    | some a =>
        performOverheard (interferenceWithin depth) a.requests
          { p with ambushes := p.ambushes.filter fun b => b.probe ≠ probe }

/-- How many ambushes there are and may come to be through those there are. -/
def ambushCount (p : Provider) : Nat :=
  p.ambushes.foldl (fun n a => n + 1 + Request.armsOfAll a.requests) 0

/-- What others do at a moment, as things are set up before `q` is made: no more of them
can interrupt each other than there are ambushes. -/
def interference (p : Provider) (q : Request) : Interference :=
  interferenceWithin (p.ambushCount + q.arms)

/-- Makes a request while others may get in. -/
def serve (p : Provider) (q : Request) : Reply × Provider :=
  p.perform (p.interference q) q

end ServiceLifecycle.Provider

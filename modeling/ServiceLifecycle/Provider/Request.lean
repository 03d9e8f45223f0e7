import ServiceLifecycle.Component
import ServiceLifecycle.Error
import ServiceLifecycle.Memory
import ServiceLifecycle.Service.Basic

/-!
# Requests and replies

What callers may ask of a provider, and what they are told. Callers do not only
come one after the other: a request may consult a validator or ask a component
for its state, and while it does so other callers may get in. A `Probe` names such
a moment; what others do at it is again a list of requests.
-/

namespace ServiceLifecycle

/-- A moment in the middle of a request at which others may act. -/
inductive Probe where
  /-- The configuration of a service is about to be validated. -/
  | validation (id : ServiceId)
  /-- A component is about to say whether it is scheduled. -/
  | schedule (id : ComponentId)
  deriving DecidableEq, Repr

/-- What a caller may ask for. None of it lets time pass. -/
inductive Request where
  | create (typeName : String) (id : ServiceId) (enabled : Bool)
  | remove (id : ServiceId)
  | setProperty (id : ServiceId) (name value : String)
  | removeProperty (id : ServiceId) (name : String)
  | enable (id : ServiceId)
  | disable (id : ServiceId)
  | enableAll (ids : List ServiceId)
  | enableReferrers (id : ServiceId)
  | disableReferrers (id : ServiceId)
  | unscheduleReferrers (id : ServiceId)
  | scheduleReferrers (id : ServiceId)
  | registerComponent (component : Component)
  | setComponent (id : ComponentId) (state : ScheduledState) (threads : Nat)
  | unregisterComponent (id : ComponentId)
  | inspectComponent (id : ComponentId)
  | addReference (target : ServiceId) (component : ComponentId)
  | removeReference (target : ServiceId) (component : ComponentId)
  | listReferrers (id : ServiceId)
  | listRecursiveReferrers (id : ServiceId)
  | listServices
  | orderBranches (ids : List ServiceId)
  | inspect (id : ServiceId)
  | property (id : ServiceId) (name : String)
  | query (id : ServiceId)
  | describe (id : ServiceId)
  | task (i : TaskId)
  | counts
  | configuration
  | shutdown
  /-- How often the hooks of the latest counting implementation made for a name were called. -/
  | countCalls (id : ServiceId)
  /-- What happened to the latest scripted implementation made for a name. -/
  | readJournal (id : ServiceId)
  | holdsMemory (id : ServiceId)
  | readMemory (id : ServiceId)
  | subscribe (id : ServiceId)
  | lookForChange (id : ServiceId)
  /-- Has the requests made by others the next time the moment comes. -/
  | arm (probe : Probe) (requests : List Request)
  /-- Something that is no request. -/
  | unreadable
  deriving Repr

mutual

/-- How many moments a request may set up in all, at once or later. -/
def Request.arms : Request → Nat
  | .arm _ requests => 1 + Request.armsOfAll requests
  | _ => 0

/-- How many moments some requests may set up in all. -/
def Request.armsOfAll : List Request → Nat
  | [] => 0
  | q :: rest => q.arms + Request.armsOfAll rest

end

/-- What a caller is told. -/
inductive Reply where
  /-- It was done and there is nothing to tell. -/
  | done
  | refused (e : RequestError)
  | state (s : ServiceState)
  | submitted (i : TaskId)
  | services (ids : List ServiceId)
  | components (ids : List ComponentId)
  | flag (b : Bool)
  | referrers (rs : List Referrer)
  | branches (bs : List (List ServiceId))
  | inspected (s : Option Service)
  | property (v : Option PropertyValue)
  | query (s : Option Service)
  | description (text : Option String)
  | component (c : Option Component)
  | task (name : String) (status : TaskStatus)
  | counts (pending running : Nat) (isShutdown : Bool) (name : String) (configured : Nat)
  | configuration (awaitMilliseconds : Nat) (deactivate : Bool) (scheduler : String)
  | calls (counts : Option (Nat × Nat))
  | journal (entries : Option (List JournalEntry))
  | memory (s : Except StateError Snapshot)
  | change (published : Bool) (state : ServiceState)
  /-- There is no such request. -/
  | unreadable

/-- What a service accepts as a reply on the success of a request that returns nothing. -/
def Reply.ofUnit : Except RequestError Unit → Reply
  | .ok () => .done
  | .error e => .refused e

/-- The reply that carries the result of a request. -/
def Reply.ofResult {α : Type} (f : α → Reply) : Except RequestError α → Reply
  | .ok a => f a
  | .error e => .refused e

end ServiceLifecycle

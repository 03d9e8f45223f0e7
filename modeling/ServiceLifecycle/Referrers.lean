import ServiceLifecycle.Ident
import ServiceLifecycle.Table

/-!
# Who refers to a service

The edges of the dependency graph seen from their far end. They are kept apart
from the services, so there may be entries for names that no longer, or not yet,
name a service. A service without referrers has no entry.
-/

namespace ServiceLifecycle

/-- For each service that is referred to, its referrers in the order they came in. -/
structure Referrers where
  sets : Table ServiceId (OrderedSet Referrer)
  deriving Repr

namespace Referrers

/-- No reference at all. -/
def empty : Referrers := ⟨.empty⟩

instance : Inhabited Referrers := ⟨empty⟩

/-- The referrers of `target` as a set. -/
def setOf (r : Referrers) (target : ServiceId) : OrderedSet Referrer :=
  (r.sets.get? target).getD .empty

/-- Everything that refers to `target`. -/
def of (r : Referrers) (target : ServiceId) : List Referrer := (r.setOf target).toList

/-- The services that refer to `target`. -/
def services (r : Referrers) (target : ServiceId) : List ServiceId :=
  (r.of target).filterMap Referrer.service?

/-- The components that refer to `target`. -/
def components (r : Referrers) (target : ServiceId) : List ComponentId :=
  (r.of target).filterMap Referrer.component?

/-- Whether `referrer` is recorded as referring to `target`. -/
def has (r : Referrers) (target : ServiceId) (referrer : Referrer) : Bool :=
  (r.setOf target).contains referrer

/-- Records a reference. -/
def add (r : Referrers) (target : ServiceId) (referrer : Referrer) : Referrers :=
  ⟨r.sets.insert target ((r.setOf target).insert referrer)⟩

/-- Drops a reference, and with its last referrer the entry of the target. -/
def remove (r : Referrers) (target : ServiceId) (referrer : Referrer) : Referrers :=
  match r.sets.get? target with
  | none => r
  | some set =>
      let rest := set.erase referrer
      ⟨if rest.isEmpty then r.sets.erase target else r.sets.insert target rest⟩

/-- Drops every reference that `referrer` holds. -/
def removeEverywhere (r : Referrers) (referrer : Referrer) : Referrers :=
  ⟨r.sets.filterMapValues fun set =>
    let rest := set.erase referrer
    if rest.isEmpty then none else some rest⟩

end Referrers

end ServiceLifecycle

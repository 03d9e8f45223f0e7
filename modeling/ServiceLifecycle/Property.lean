import ServiceLifecycle.Ident
import ServiceLifecycle.Table
import ServiceLifecycle.Text.Blank

/-!
# Properties of a service

A service is configured by named values. A value is plain text or the identifier
of another service; the latter are the edges of the dependency graph. A store
keeps the values in the order in which they were first set, and beside them the
set of services they refer to. Every edit reports what it did to that set.
-/

namespace ServiceLifecycle

/-- What an implementation declares about one of its properties. -/
structure Descriptor where
  name : String
  required : Bool := false
  /-- Whether the value names another service. -/
  identifiesService : Bool := false
  deriving DecidableEq, Repr, Inhabited

/-- The value of a property. -/
inductive PropertyValue where
  | literal (text : String)
  | reference (id : ServiceId)
  deriving DecidableEq, Repr

namespace PropertyValue

/-- The service that a value refers to, if it refers to one. -/
def reference? : PropertyValue → Option ServiceId
  | .literal _ => none
  | .reference id => some id

end PropertyValue

/-- What an edit did to the set of referenced services. -/
structure ReferenceChange where
  /-- Services now referenced that were not, in their new order. -/
  added : List ServiceId
  /-- Services no longer referenced, in their old order. -/
  removed : List ServiceId
  deriving DecidableEq, Repr

/-- Whether the set of references stayed the same. -/
def ReferenceChange.isEmpty (c : ReferenceChange) : Bool :=
  c.added.isEmpty && c.removed.isEmpty

/-- The configured values of one service and the services they refer to. -/
structure PropertyStore where
  values : Table String PropertyValue
  references : OrderedSet ServiceId
  deriving Repr

namespace PropertyStore

/-- Nothing configured. -/
def empty : PropertyStore := ⟨.empty, .empty⟩

instance : Inhabited PropertyStore := ⟨empty⟩

/-- The value of a property. -/
def get? (s : PropertyStore) (name : String) : Option PropertyValue := s.values.get? name

/-- The reference values with the names of their properties, in property order. -/
def referenceEntries (s : PropertyStore) : List (String × ServiceId) :=
  s.values.entries.filterMap fun e => e.2.reference?.map (e.1, ·)

/-- Replaces the values and brings the references up to date with them. -/
def withValues (s : PropertyStore) (values : Table String PropertyValue) :
    PropertyStore × ReferenceChange :=
  let next := OrderedSet.ofList (values.values.filterMap PropertyValue.reference?)
  (⟨values, next⟩,
   { added := next.toList.filter fun id => !s.references.contains id
     removed := s.references.toList.filter fun id => !next.contains id })

/-- Clears a property. -/
def remove (s : PropertyStore) (name : String) : PropertyStore × ReferenceChange :=
  s.withValues (s.values.erase name)

/-- Sets a property. The value is a reference if the descriptor says so, and then
a blank value clears the property. -/
def set (s : PropertyStore) (descriptor : Option Descriptor) (name value : String) :
    PropertyStore × ReferenceChange :=
  if descriptor.any Descriptor.identifiesService then
    if Text.isBlank value then s.remove name
    else s.withValues (s.values.insert name (.reference ⟨value⟩))
  else s.withValues (s.values.insert name (.literal value))

/-- Two stores with the same values and the same references, in whatever order. -/
def sameAs (s t : PropertyStore) : Bool :=
  s.values.sameAs t.values
    && s.references.toList.all t.references.contains
    && t.references.toList.all s.references.contains

end PropertyStore

end ServiceLifecycle

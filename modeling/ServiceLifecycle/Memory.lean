import ServiceLifecycle.Table

/-!
# Persistent state of components

Each component may keep a few texts under names. Every write counts the version
up by one, and a write may be made conditional on the version its author has
seen. When a component is removed its state goes with it: whoever still holds a
handle finds it gone, and a later component of the same name starts afresh.
-/

namespace ServiceLifecycle

/-- What a component keeps. -/
abbrev Entries := Table String String

/-- The state of a component at one moment. Version 0 means that nothing has been written. The
version is as large as it has to be: where it is kept in 64 bits it would start over after 2⁶⁴
writes, which are out of reach. -/
structure Snapshot where
  version : Nat
  entries : Entries
  deriving Repr

/-- Nothing written yet. -/
def Snapshot.initial : Snapshot := ⟨0, .empty⟩

/-- Why the state of a component cannot be had. -/
inductive StateError where
  /-- The component was removed and its state with it. -/
  | removed (component : String)
  /-- The place where it is stored failed. -/
  | storage (message : String)
  deriving DecidableEq, Repr

/-- The wording of an error. -/
def StateError.message : StateError → String
  | .removed c => s!"state of component {c} is no longer available"
  | .storage m => s!"state storage error: {m}"

/-- The state of one component, from its first use to its removal. -/
structure Cell where
  component : String
  snapshot : Snapshot := .initial
  removed : Bool := false
  deriving Repr

/-- Gives access to one cell, also after it has been given up. -/
structure Handle where
  index : Nat
  deriving DecidableEq, Repr, Inhabited

/-- The state of all components. -/
structure Memory where
  /-- Every cell there has ever been. -/
  cells : Array Cell
  /-- The cell in use for each component that has one. -/
  current : Table String Handle
  deriving Repr

namespace Memory

/-- No component has state. -/
def empty : Memory := ⟨#[], .empty⟩

instance : Inhabited Memory := ⟨empty⟩

/-- Whether state is held for a component. -/
def contains (m : Memory) (component : String) : Bool := m.current.contains component

/-- How many components have state. -/
def size (m : Memory) : Nat := m.current.size

/-- The handle of a component; on first use a fresh cell is set up. -/
def acquire (m : Memory) (component : String) : Handle × Memory :=
  match m.current.get? component with
  | some h => (h, m)
  | none =>
      let h : Handle := ⟨m.cells.size⟩
      (h, { cells := m.cells.push { component }, current := m.current.insert component h })

/-- Gives up the state of a component, if it has any. -/
def drop (m : Memory) (component : String) : Memory :=
  match m.current.get? component with
  | none => m
  | some h =>
      { cells := m.cells.modify h.index fun c => { c with removed := true }
        current := m.current.erase component }

/-- What is stored behind a handle. -/
def get (m : Memory) (h : Handle) : Except StateError Snapshot :=
  match m.cells[h.index]? with
  | none => .error (.storage "no such cell")
  | some c => if c.removed then .error (.removed c.component) else .ok c.snapshot

/-- Puts new entries behind a handle and counts the version up. -/
def write (m : Memory) (h : Handle) (entries : Entries) : Memory :=
  { m with cells := m.cells.modify h.index fun c =>
      { c with snapshot := ⟨c.snapshot.version + 1, entries⟩ } }

/-- Replaces all entries. -/
def set (m : Memory) (h : Handle) (entries : Entries) : Except StateError Memory :=
  (m.get h).map fun _ => m.write h entries

/-- Removes all entries. -/
def clear (m : Memory) (h : Handle) : Except StateError Memory := m.set h .empty

/-- Replaces all entries if the version is still the expected one, and says whether it was. -/
def replace (m : Memory) (h : Handle) (expected : Nat) (entries : Entries) :
    Except StateError (Bool × Memory) :=
  (m.get h).map fun s =>
    if s.version = expected then (true, m.write h entries) else (false, m)

end Memory

end ServiceLifecycle

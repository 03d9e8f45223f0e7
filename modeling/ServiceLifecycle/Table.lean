/-!
# Insertion-ordered collections

A `Table` keeps its entries in the order in which their keys first came in, and
an `OrderedSet` its members likewise. That no key and no member occurs twice is
part of the type. The lemmas say what a look-up sees after each operation.
-/

namespace ServiceLifecycle

/-- A finite map that remembers the order of its keys. -/
structure Table (κ α : Type) where
  entries : List (κ × α)
  keys_nodup : (entries.map Prod.fst).Nodup
  deriving Repr

namespace Table

variable {κ α : Type}

/-- No entry at all. -/
def empty : Table κ α := ⟨[], List.nodup_nil⟩

instance : Inhabited (Table κ α) := ⟨empty⟩

/-- The keys, oldest first. -/
def keys (t : Table κ α) : List κ := t.entries.map Prod.fst

/-- The values, in the order of their keys. -/
def values (t : Table κ α) : List α := t.entries.map Prod.snd

/-- How many entries there are. -/
def size (t : Table κ α) : Nat := t.entries.length

variable [DecidableEq κ]

/-- The value stored under `k`. -/
def get? (t : Table κ α) (k : κ) : Option α :=
  (t.entries.find? fun e => e.1 = k).map Prod.snd

/-- Whether something is stored under `k`. -/
def contains (t : Table κ α) (k : κ) : Bool := (t.get? k).isSome

/-- Puts `a` under `k` in a bare list of entries: a known key keeps its place, a new one goes last. -/
def put (k : κ) (a : α) : List (κ × α) → List (κ × α)
  | [] => [(k, a)]
  | e :: rest => if e.1 = k then (k, a) :: rest else e :: put k a rest

theorem mem_keys_put {k x : κ} {a : α} {es : List (κ × α)} :
    x ∈ (put k a es).map Prod.fst ↔ x = k ∨ x ∈ es.map Prod.fst := by
  induction es with
  | nil => simp [put]
  | cons e rest ih =>
    by_cases h : e.1 = k
    · simp [put, h]
    · simp only [put, if_neg h, List.map_cons, List.mem_cons, ih]
      constructor <;> (rintro (h | h | h) <;> simp [h])

theorem keys_put_nodup {k : κ} {a : α} {es : List (κ × α)}
    (h : (es.map Prod.fst).Nodup) : ((put k a es).map Prod.fst).Nodup := by
  induction es with
  | nil => simp [put]
  | cons e rest ih =>
    rw [List.map_cons, List.nodup_cons] at h
    by_cases hk : e.1 = k
    · subst hk
      simpa [put] using h
    · rw [put, if_neg hk, List.map_cons, List.nodup_cons, mem_keys_put]
      exact ⟨by simp [hk, h.1], ih h.2⟩

/-- Stores `a` under `k`. A known key keeps its place, a new one goes last. -/
def insert (t : Table κ α) (k : κ) (a : α) : Table κ α :=
  ⟨put k a t.entries, keys_put_nodup t.keys_nodup⟩

/-- Drops the entry under `k`; the others keep their order. -/
def erase (t : Table κ α) (k : κ) : Table κ α where
  entries := t.entries.filter fun e => e.1 ≠ k
  keys_nodup := by
    exact (List.filter_sublist.map Prod.fst).nodup t.keys_nodup

/-- Stores the pairs one after the other. -/
def ofList (pairs : List (κ × α)) : Table κ α :=
  pairs.foldl (fun t e => t.insert e.1 e.2) empty

/-- Keeps the entries whose value passes `f`, as `f` gives them back. -/
def filterMapValues (f : α → Option α) (t : Table κ α) : Table κ α where
  entries := t.entries.filterMap fun e => (f e.2).map (e.1, ·)
  keys_nodup := by
    have sub : ∀ es : List (κ × α),
        ((es.filterMap fun e => (f e.2).map (e.1, ·)).map Prod.fst).Sublist
          (es.map Prod.fst) := by
      intro es
      induction es with
      | nil => simp
      | cons e rest ih =>
        cases h : f e.2 with
        | none => simpa [h] using ih.cons e.1
        | some b => simpa [h] using ih.cons_cons e.1
    exact (sub t.entries).nodup t.keys_nodup

/-- Two tables with the same entries, whatever their order. -/
def sameAs [DecidableEq α] (t u : Table κ α) : Bool :=
  t.size = u.size && t.entries.all fun e => u.get? e.1 = some e.2

/-! ## What a look-up sees -/

@[simp] theorem get?_empty (k : κ) : (empty : Table κ α).get? k = none := rfl

theorem find?_put (k x : κ) (a : α) (es : List (κ × α)) :
    ((put k a es).find? fun e => e.1 = x).map Prod.snd =
      if x = k then some a else (es.find? fun e => e.1 = x).map Prod.snd := by
  induction es with
  | nil => by_cases h : x = k <;> simp [put, h, eq_comm]
  | cons e rest ih =>
    by_cases hk : e.1 = k
    · by_cases hx : x = k
      · subst hx; simp [put, hk]
      · have : ¬ k = x := fun h => hx h.symm
        simp [put, hk, hx, this]
    · by_cases he : e.1 = x
      · have : ¬ x = k := fun h => hk (he.trans h)
        simp [put, he, this]
      · simp only [put, if_neg hk, List.find?_cons, he, decide_false]
        exact ih

/-- After an insertion the new key shows its value and every other key what it showed before. -/
theorem get?_insert (t : Table κ α) (k x : κ) (a : α) :
    (t.insert k a).get? x = if x = k then some a else t.get? x :=
  find?_put k x a t.entries

theorem find?_filter_ne (k x : κ) (es : List (κ × α)) :
    ((es.filter fun e => e.1 ≠ k).find? fun e => e.1 = x).map Prod.snd =
      if x = k then none else (es.find? fun e => e.1 = x).map Prod.snd := by
  induction es with
  | nil => simp
  | cons e rest ih =>
    by_cases hk : e.1 = k
    · rw [List.filter_cons_of_neg (by simpa using hk), ih]
      by_cases hx : x = k
      · simp [hx]
      · have : ¬ e.1 = x := fun h => hx (h.symm.trans hk)
        simp [hx, this]
    · rw [List.filter_cons_of_pos (by simpa using hk)]
      by_cases he : e.1 = x
      · have : ¬ x = k := fun h => hk (he.trans h)
        simp [he, this]
      · simp only [List.find?_cons, he, decide_false]
        exact ih

/-- After an erasure the key shows nothing and every other key what it showed before. -/
theorem get?_erase (t : Table κ α) (k x : κ) :
    (t.erase k).get? x = if x = k then none else t.get? x :=
  find?_filter_ne k x t.entries

theorem mem_keys_iff (t : Table κ α) (k : κ) : k ∈ t.keys ↔ (t.get? k).isSome := by
  unfold keys get?
  induction t.entries with
  | nil => simp
  | cons e rest ih =>
    by_cases h : e.1 = k
    · simp [h]
    · have : ¬ k = e.1 := fun h' => h h'.symm
      simp [h, this] at ih ⊢

end Table

/-- A finite set that remembers the order in which its members came in. -/
structure OrderedSet (α : Type) where
  toList : List α
  nodup : toList.Nodup
  deriving Repr

namespace OrderedSet

variable {α : Type}

/-- No member at all. -/
def empty : OrderedSet α := ⟨[], List.nodup_nil⟩

instance : Inhabited (OrderedSet α) := ⟨empty⟩

/-- Whether there is no member. -/
def isEmpty (s : OrderedSet α) : Bool := s.toList.isEmpty

variable [DecidableEq α]

/-- Whether `a` is a member. -/
def contains (s : OrderedSet α) (a : α) : Bool := s.toList.contains a

/-- Adds `a` at the end, unless it is there already. -/
def insert (s : OrderedSet α) (a : α) : OrderedSet α :=
  if h : a ∈ s.toList then s
  else ⟨s.toList ++ [a], by
    rw [List.nodup_append]
    exact ⟨s.nodup, by simp, by intro x hx y hy; simp at hy; subst hy; rintro rfl; exact h hx⟩⟩

/-- Drops `a`; the others keep their order. -/
def erase (s : OrderedSet α) (a : α) : OrderedSet α :=
  ⟨s.toList.filter fun x => x ≠ a, List.filter_sublist.nodup s.nodup⟩

/-- The elements of a list, later repetitions dropped. -/
def ofList (xs : List α) : OrderedSet α := xs.foldl insert empty

@[simp] theorem mem_insert (s : OrderedSet α) (a x : α) :
    x ∈ (s.insert a).toList ↔ x ∈ s.toList ∨ x = a := by
  unfold insert
  split
  · rename_i h
    constructor
    · exact Or.inl
    · rintro (hx | rfl) <;> assumption
  · simp

@[simp] theorem mem_erase (s : OrderedSet α) (a x : α) :
    x ∈ (s.erase a).toList ↔ x ∈ s.toList ∧ x ≠ a := by
  simp [erase]

theorem mem_ofList (xs : List α) (x : α) : x ∈ (ofList xs).toList ↔ x ∈ xs := by
  have gen : ∀ (ys : List α) (s : OrderedSet α),
      x ∈ (ys.foldl insert s).toList ↔ x ∈ s.toList ∨ x ∈ ys := by
    intro ys
    induction ys with
    | nil => simp
    | cons y rest ih => intro s; simp [ih, or_assoc]
  rw [ofList, gen xs empty]
  simp [empty]

end OrderedSet

end ServiceLifecycle

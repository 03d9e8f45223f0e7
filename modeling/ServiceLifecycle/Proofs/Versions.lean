import ServiceLifecycle.Memory

/-!
# No update of a component's state is lost

Any number of clients open handles on the state of components, read it, write it, and write it on
the condition that its version is still the one they have seen. Whatever the order, from the
moment when the state of a component is set up until it is given up there is one state that all
its handles lead to. Its version counts the writes, so that a conditional write succeeds if and
only if nobody has written since, and then replaces what its author has seen.

* **accesses** — what clients may do and what it comes to (`Memory.after`), each access by what it
  does (`Memory.does_step`);
* **soundness** — a component has at most one state that has not been given up, and this is the
  one on record (`Memory.Sound`);
* **frames** — an access concerns one component and keeps the state of every other
  (`Memory.Does.frame`);
* **versions** — what a step and a run make of the state of a component (`Memory.Does.held`,
  `Memory.Sound.held_after`), and what follows for its clients (`Memory.no_lost_update`).
-/

namespace ServiceLifecycle

/-- What a client may do to the state of components. -/
inductive Access where
  | acquire (component : String)
  | get (h : Handle)
  | set (h : Handle) (entries : Entries)
  | clear (h : Handle)
  | replace (h : Handle) (expected : Nat) (entries : Entries)
  /-- The component is removed. -/
  | drop (component : String)
  deriving Repr

namespace Memory

variable {m m' : Memory} {a : Access} {c : String} {h k : Handle} {s first : Snapshot}
  {entries : Entries}

/-! ## Accesses -/

/-- What an access comes to. -/
def step (m : Memory) : Access → Memory
  | .acquire c => (m.acquire c).2
  | .get _ => m
  | .set h entries => (m.set h entries).toOption.getD m
  | .clear h => (m.clear h).toOption.getD m
  | .replace h expected entries => ((m.replace h expected entries).toOption.map Prod.snd).getD m
  | .drop c => m.drop c

/-- What several accesses come to, one after the other. -/
def after (m : Memory) (accesses : List Access) : Memory := accesses.foldl step m

theorem after_append (m : Memory) (seen since : List Access) :
    m.after (seen ++ since) = (m.after seen).after since := List.foldl_append

/-- The component that a handle belongs to. -/
def component? (m : Memory) (h : Handle) : Option String := m.cells[h.index]?.map Cell.component

/-- The component that an access concerns. -/
def subject? (m : Memory) : Access → Option String
  | .acquire c | .drop c => some c
  | .get h | .set h _ | .clear h | .replace h _ _ => m.component? h

/-- Whether the answer to an access tells of a successful write. -/
def succeeds (m : Memory) : Access → Bool
  | .set h entries => (m.set h entries).isOk
  | .clear h => (m.clear h).isOk
  | .replace h expected entries => (m.replace h expected entries).toOption.any Prod.fst
  | .acquire _ | .get _ | .drop _ => false

/-- Whether an access is a successful write to the state of a component. -/
def writesTo (m : Memory) (c : String) (a : Access) : Bool :=
  m.succeeds a && m.subject? a = some c

/-- How many of several accesses are successful writes to the state of a component. -/
def writeCount (m : Memory) (c : String) : List Access → Nat
  | [] => 0
  | a :: rest => (m.writesTo c a).toNat + (m.step a).writeCount c rest

/-- A fresh state for a component. -/
def setUp (m : Memory) (c : String) : Memory :=
  ⟨m.cells.push { component := c }, m.current.insert c ⟨m.cells.size⟩⟩

/-- The state of a component is given up. -/
def giveUp (m : Memory) (c : String) (h : Handle) : Memory :=
  ⟨m.cells.modify h.index fun cell => { cell with removed := true }, m.current.erase c⟩

/-- The four things that an access may do. -/
inductive Does (m : Memory) : Access → Memory → Prop
  | rests {a : Access} : m.succeeds a = false → Does m a m
  | opens {c : String} : m.current.get? c = none → Does m (.acquire c) (m.setUp c)
  | writes {a : Access} {h : Handle} {s : Snapshot} (entries : Entries) : m.succeeds a = true →
      m.subject? a = m.component? h → m.get h = .ok s → Does m a (m.write h entries)
  | closes {c : String} {h : Handle} : m.current.get? c = some h → Does m (.drop c) (m.giveUp c h)

theorem acquire_of_some (hcurrent : m.current.get? c = some h) : m.acquire c = (h, m) := by
  simp only [acquire, hcurrent]

theorem acquire_of_none (hcurrent : m.current.get? c = none) :
    m.acquire c = (⟨m.cells.size⟩, m.setUp c) := by
  simp only [acquire, hcurrent, setUp]

theorem set_of_ok (hget : m.get h = .ok s) (entries : Entries) :
    m.set h entries = .ok (m.write h entries) := by
  rw [set, hget]
  rfl

theorem set_of_error {e : StateError} (hget : m.get h = .error e) (entries : Entries) :
    m.set h entries = .error e := by
  rw [set, hget]
  rfl

theorem replace_of_ok (hget : m.get h = .ok s) (expected : Nat) (entries : Entries) :
    m.replace h expected entries =
      .ok (if s.version = expected then (true, m.write h entries) else (false, m)) := by
  rw [replace, hget]
  rfl

theorem replace_of_error {e : StateError} (hget : m.get h = .error e) (expected : Nat)
    (entries : Entries) : m.replace h expected entries = .error e := by
  rw [replace, hget]
  rfl

/-- Each access does one of these things. -/
theorem does_step (m : Memory) (a : Access) : m.Does a (m.step a) := by
  have hset : ∀ {a : Access} {h : Handle} {entries : Entries},
      m.succeeds a = (m.set h entries).isOk → m.subject? a = m.component? h →
      m.step a = (m.set h entries).toOption.getD m → m.Does a (m.step a) := by
    intro a h entries hsucceeds hsubject hstep
    rw [hstep]
    cases hget : m.get h with
    | error e =>
      rw [set_of_error hget] at hsucceeds ⊢
      exact .rests hsucceeds
    | ok s =>
      rw [set_of_ok hget] at hsucceeds ⊢
      exact .writes entries hsucceeds hsubject hget
  cases a with
  | acquire c =>
    show m.Does _ (m.acquire c).2
    cases hcurrent : m.current.get? c with
    | some h =>
      rw [acquire_of_some hcurrent]
      exact .rests rfl
    | none =>
      rw [acquire_of_none hcurrent]
      exact .opens hcurrent
  | get h => exact .rests rfl
  | set h entries => exact hset rfl rfl rfl
  | clear h => exact hset rfl rfl rfl
  | replace h expected entries =>
    show m.Does _ (((m.replace h expected entries).toOption.map Prod.snd).getD m)
    have hsucceeds : m.succeeds (.replace h expected entries) =
        (m.replace h expected entries).toOption.any Prod.fst := rfl
    cases hget : m.get h with
    | error e =>
      rw [replace_of_error hget] at hsucceeds ⊢
      exact .rests hsucceeds
    | ok s =>
      rw [replace_of_ok hget] at hsucceeds ⊢
      by_cases hversion : s.version = expected
      · rw [if_pos hversion] at hsucceeds ⊢
        exact .writes entries hsucceeds rfl hget
      · rw [if_neg hversion] at hsucceeds ⊢
        exact .rests hsucceeds
  | drop c =>
    show m.Does _ (m.drop c)
    unfold drop
    split
    · exact .rests rfl
    · next h hcurrent => exact .closes hcurrent

/-! ## What is behind a handle -/

theorem get_eq_ok_iff : m.get h = .ok s ↔
    ∃ cell, m.cells[h.index]? = some cell ∧ cell.removed = false ∧ cell.snapshot = s := by
  unfold get
  cases m.cells[h.index]? with
  | none => simp
  | some cell => cases hremoved : cell.removed <;> simp [hremoved]

/-- Nobody reads anything else where the cells are the same. -/
theorem get_congr (hcell : m'.cells[h.index]? = m.cells[h.index]?) : m'.get h = m.get h := by
  unfold get
  rw [hcell]

theorem cells_write (m : Memory) (h : Handle) (entries : Entries) (i : Nat) :
    (m.write h entries).cells[i]? = if h.index = i then
      m.cells[i]?.map fun cell => { cell with snapshot := ⟨cell.snapshot.version + 1, entries⟩ }
      else m.cells[i]? :=
  Array.getElem?_modify ..

theorem cells_giveUp (m : Memory) (c : String) (h : Handle) (i : Nat) :
    (m.giveUp c h).cells[i]? = if h.index = i then
      m.cells[i]?.map fun cell => { cell with removed := true } else m.cells[i]? :=
  Array.getElem?_modify ..

theorem cells_setUp (m : Memory) (c : String) (i : Nat) :
    (m.setUp c).cells[i]? =
      if i = m.cells.size then some { component := c } else m.cells[i]? :=
  Array.getElem?_push ..

theorem get_write_self (hget : m.get h = .ok s) (entries : Entries) :
    (m.write h entries).get h = .ok ⟨s.version + 1, entries⟩ := by
  obtain ⟨cell, hcell, hremoved, rfl⟩ := get_eq_ok_iff.mp hget
  refine get_eq_ok_iff.mpr
    ⟨{ cell with snapshot := ⟨cell.snapshot.version + 1, entries⟩ }, ?_, hremoved, rfl⟩
  rw [cells_write, if_pos rfl, hcell]
  rfl

theorem get_setUp (m : Memory) (c : String) :
    (m.setUp c).get ⟨m.cells.size⟩ = .ok .initial :=
  get_eq_ok_iff.mpr ⟨{ component := c }, (cells_setUp m c _).trans (if_pos rfl), rfl, rfl⟩

theorem current_setUp (m : Memory) (c : String) :
    (m.setUp c).current.get? c = some ⟨m.cells.size⟩ :=
  (Table.get?_insert ..).trans (if_pos rfl)

/-- The handle that a client opens is the one on record from then on. -/
theorem current_acquire (m : Memory) (c : String) :
    (m.acquire c).2.current.get? c = some (m.acquire c).1 := by
  cases hcurrent : m.current.get? c with
  | some h => rw [acquire_of_some hcurrent, hcurrent]
  | none => rw [acquire_of_none hcurrent, current_setUp]

/-! ## Soundness -/

/-- The state on record for a component is one of its own that has not been given up, and the
only one. -/
structure Sound (m : Memory) : Prop where
  on_record : ∀ c h, m.current.get? c = some h →
    ∃ cell, m.cells[h.index]? = some cell ∧ cell.component = c ∧ cell.removed = false
  alone : ∀ i cell, m.cells[i]? = some cell → cell.removed = false →
    m.current.get? cell.component = some ⟨i⟩

theorem sound_empty : (empty : Memory).Sound :=
  ⟨fun _ _ h => (by cases h), fun i cell h => by simp [empty] at h⟩

/-- A handle that can be read is the one on record for its component. -/
theorem Sound.current_of_get (hsound : m.Sound) (hcomponent : m.component? h = some c)
    (hget : m.get h = .ok s) : m.current.get? c = some h := by
  obtain ⟨cell, hcell, hremoved, -⟩ := get_eq_ok_iff.mp hget
  rw [component?, hcell] at hcomponent
  obtain rfl := Option.some.inj hcomponent
  exact hsound.alone h.index cell hcell hremoved

/-- Handles of a component that have not been given up are the same. -/
theorem Sound.eq_of_component (hsound : m.Sound) (hcurrent : m.current.get? c = some k)
    (hcomponent : m.component? h = some c) (hget : m.get h = .ok s) : h = k := by
  rw [hsound.current_of_get hcomponent hget] at hcurrent
  exact Option.some.inj hcurrent

theorem Sound.setUp (hsound : m.Sound) (hcurrent : m.current.get? c = none) :
    (m.setUp c).Sound := by
  have hbound : ∀ {c' h}, m.current.get? c' = some h → h.index ≠ m.cells.size := by
    intro c' h hc' heq
    obtain ⟨cell, hcell, -⟩ := hsound.on_record c' h hc'
    rw [heq, Array.getElem?_eq_none (Nat.le_refl _)] at hcell
    cases hcell
  refine ⟨fun c' h hc' => ?_, fun i cell hcell hremoved => ?_⟩
  · rw [Memory.setUp, Table.get?_insert] at hc'
    split at hc'
    · next heq =>
      obtain rfl := Option.some.inj hc'
      exact ⟨{ component := c }, (cells_setUp m c _).trans (if_pos rfl), heq.symm, rfl⟩
    · rw [cells_setUp, if_neg (hbound hc')]
      exact hsound.on_record c' h hc'
  · rw [Memory.setUp, Table.get?_insert]
    rw [cells_setUp] at hcell
    split at hcell
    · next heq =>
      obtain rfl := Option.some.inj hcell
      rw [if_pos rfl, heq]
    · have halone := hsound.alone i cell hcell hremoved
      rw [if_neg, halone]
      rintro rfl
      rw [hcurrent] at halone
      cases halone

theorem Sound.write (hsound : m.Sound) (h : Handle) (entries : Entries) :
    (m.write h entries).Sound := by
  refine ⟨fun c k hc => ?_, fun i cell hcell hremoved => ?_⟩
  · obtain ⟨cell, hcell, hcomponent, hremoved⟩ := hsound.on_record c k hc
    rw [cells_write]
    split
    · exact ⟨_, congrArg _ hcell, hcomponent, hremoved⟩
    · exact ⟨cell, hcell, hcomponent, hremoved⟩
  · rw [cells_write] at hcell
    split at hcell
    · obtain ⟨cell', hcell', rfl⟩ := Option.map_eq_some_iff.mp hcell
      exact hsound.alone i cell' hcell' hremoved
    · exact hsound.alone i cell hcell hremoved

theorem Sound.giveUp (hsound : m.Sound) (hcurrent : m.current.get? c = some h) :
    (m.giveUp c h).Sound := by
  obtain ⟨own, hown, hcomponent, -⟩ := hsound.on_record c h hcurrent
  refine ⟨fun c' k hc' => ?_, fun i cell hcell hremoved => ?_⟩
  · rw [Memory.giveUp, Table.get?_erase] at hc'
    split at hc'
    · cases hc'
    · next hne =>
      obtain ⟨cell, hcell, hcomponent', hremoved⟩ := hsound.on_record c' k hc'
      refine ⟨cell, ?_, hcomponent', hremoved⟩
      rw [cells_giveUp, if_neg, hcell]
      intro heq
      rw [heq, hcell] at hown
      exact hne (hcomponent'.symm.trans (Option.some.inj hown ▸ hcomponent))
  · rw [cells_giveUp] at hcell
    split at hcell
    · obtain ⟨cell', -, rfl⟩ := Option.map_eq_some_iff.mp hcell
      cases hremoved
    · next hne =>
      have halone := hsound.alone i cell hcell hremoved
      rw [Memory.giveUp, Table.get?_erase, if_neg, halone]
      rintro rfl
      rw [hcurrent] at halone
      exact hne (congrArg Handle.index (Option.some.inj halone))

theorem Sound.step (hsound : m.Sound) (hdoes : m.Does a m') : m'.Sound := by
  cases hdoes with
  | rests => exact hsound
  | opens hcurrent => exact hsound.setUp hcurrent
  | writes entries => exact hsound.write _ entries
  | closes hcurrent => exact hsound.giveUp hcurrent

/-- Whatever clients do, there is one state for a component. -/
theorem Sound.after (hsound : m.Sound) (accesses : List Access) : (m.after accesses).Sound :=
  List.foldlRecOn (motive := Sound) accesses Memory.step hsound fun m h a _ => h.step (m.does_step a)

/-! ## Frames -/

/-- The state of a component is the same in both memories, and so is every one that it had
before. -/
structure SameFor (c : String) (m m' : Memory) : Prop where
  current : m'.current.get? c = m.current.get? c
  cells : ∀ (i : Nat) (cell : Cell), cell.component = c → (m'.cells[i]? = some cell ↔ m.cells[i]? = some cell)

theorem SameFor.refl (c : String) (m : Memory) : SameFor c m m := ⟨rfl, fun _ _ _ => Iff.rfl⟩

theorem SameFor.trans {m'' : Memory} (h : SameFor c m m') (h' : SameFor c m' m'') :
    SameFor c m m'' :=
  ⟨h'.current.trans h.current, fun i cell hc => (h'.cells i cell hc).trans (h.cells i cell hc)⟩

/-- Cells of other components are put at one place. -/
theorem same_cells {i j : Nat} {f : Cell → Cell}
    (hcells : m'.cells[i]? = if j = i then m.cells[i]?.map f else m.cells[i]?)
    (hf : ∀ cell, (f cell).component = cell.component)
    (hother : ∀ own, m.cells[j]? = some own → own.component ≠ c) (cell : Cell)
    (hc : cell.component = c) : m'.cells[i]? = some cell ↔ m.cells[i]? = some cell := by
  rw [hcells]
  split
  · next heq =>
    subst heq
    constructor
    · intro hcell
      obtain ⟨own, hown, rfl⟩ := Option.map_eq_some_iff.mp hcell
      exact absurd ((hf own).symm.trans hc) (hother own hown)
    · intro hcell
      exact absurd hc (hother cell hcell)
  · exact Iff.rfl

/-- An access keeps the state of every component but the one that it concerns. -/
theorem Does.frame (hdoes : m.Does a m') (hsound : m.Sound) (hsubject : m.subject? a ≠ some c) :
    SameFor c m m' := by
  cases hdoes with
  | rests => exact .refl c m
  | @opens c' hcurrent =>
    have hne : c' ≠ c := fun heq => hsubject (congrArg some heq)
    refine ⟨(Table.get?_insert ..).trans (if_neg hne.symm), fun i cell hc => ?_⟩
    rw [cells_setUp]
    split
    · next heq =>
      have hnone : m.cells[i]? = none := Array.getElem?_eq_none (Nat.le_of_eq heq.symm)
      rw [hnone]
      refine ⟨fun hcell => ?_, fun hcell => by cases hcell⟩
      obtain rfl := Option.some.inj hcell
      exact absurd hc hne
    · exact Iff.rfl
  | @writes a h s entries _ hsame =>
    refine ⟨rfl, fun i => same_cells (cells_write m h entries i) (fun _ => rfl)
      fun own hown heq => ?_⟩
    rw [hsame, component?, hown, Option.map_some, heq] at hsubject
    exact hsubject rfl
  | @closes c' h hcurrent =>
    have hne : c' ≠ c := fun heq => hsubject (congrArg some heq)
    refine ⟨(Table.get?_erase ..).trans (if_neg hne.symm), fun i =>
      same_cells (cells_giveUp m c' h i) (fun _ => rfl) fun own hown heq => ?_⟩
    obtain ⟨cell, hcell, hcomponent, -⟩ := hsound.on_record c' h hcurrent
    obtain rfl := Option.some.inj (hown.symm.trans hcell)
    exact hne (hcomponent.symm.trans heq)

/-! ## Versions -/

/-- A step leaves a component with its state, unless it gives it up. It counts the version up with
a write and else keeps what is there. -/
theorem Does.held (hdoes : m.Does a m') (hsound : m.Sound) (hcurrent : m.current.get? c = some k)
    (hget : m.get k = .ok s) (hkeep : a ≠ .drop c) :
    m'.current.get? c = some k ∧ ∃ s', m'.get k = .ok s' ∧
      s'.version = s.version + (m.writesTo c a).toNat ∧ (m.writesTo c a = false → s' = s) := by
  obtain ⟨own, hown, hcomponent, -⟩ := hsound.on_record c k hcurrent
  by_cases hsubject : m.subject? a = some c
  · cases hdoes with
    | rests hfails =>
      have hnot : m.writesTo c a = false := by simp [writesTo, hfails]
      exact ⟨hcurrent, s, hget, by simp [hnot], fun _ => rfl⟩
    | opens hnone =>
      obtain rfl := Option.some.inj hsubject
      rw [hcurrent] at hnone
      cases hnone
    | @writes a h s' entries hsucceeds hsame hget' =>
      have hwrites : m.writesTo c a = true := by simp [writesTo, hsucceeds, hsubject]
      obtain rfl := hsound.eq_of_component hcurrent (hsame.symm.trans hsubject) hget'
      refine ⟨hcurrent, _, get_write_self hget entries, by simp [hwrites], fun hnot => ?_⟩
      rw [hwrites] at hnot
      cases hnot
    | closes =>
      obtain rfl := Option.some.inj hsubject
      exact absurd rfl hkeep
  · -- the access concerns another component
    have hsame := hdoes.frame hsound hsubject
    have hnot : m.writesTo c a = false := by simp [writesTo, hsubject]
    have hcell : m'.cells[k.index]? = m.cells[k.index]? :=
      ((hsame.cells k.index own hcomponent).mpr hown).trans hown.symm
    exact ⟨hsame.current.trans hcurrent, s, (get_congr hcell).trans hget, by simp [hnot],
      fun _ => rfl⟩

/-- What a run makes of the state of a component, as long as it is not given up. -/
theorem Sound.held_after (hsound : m.Sound) (hcurrent : m.current.get? c = some k)
    (hget : m.get k = .ok s) (accesses : List Access) (hkeep : ∀ a ∈ accesses, a ≠ .drop c) :
    (m.after accesses).current.get? c = some k ∧ ∃ s', (m.after accesses).get k = .ok s' ∧
      s'.version = s.version + m.writeCount c accesses ∧
      (m.writeCount c accesses = 0 → s' = s) := by
  induction accesses generalizing m s with
  | nil => exact ⟨hcurrent, s, hget, rfl, fun _ => rfl⟩
  | cons a rest ih =>
    have hdoes := m.does_step a
    obtain ⟨hcurrent', s', hget', hversion, hsame⟩ :=
      hdoes.held hsound hcurrent hget (hkeep a List.mem_cons_self)
    obtain ⟨hcurrent'', s'', hget'', hversion', hsame'⟩ := ih (hsound.step hdoes) hcurrent' hget'
      fun b hb => hkeep b (List.mem_cons_of_mem _ hb)
    refine ⟨hcurrent'', s'', hget'', ?_, fun hnone => ?_⟩
    · rw [hversion', hversion, writeCount, Nat.add_assoc]
    · obtain ⟨hfirst, hrest⟩ := Nat.add_eq_zero_iff.mp hnone
      rw [hsame' hrest, hsame (by simpa using hfirst)]

/-- What clients can rely on after several accesses, `m` being the memory right after the state of
component `c` was set up behind handle `h`. -/
structure Serves (m : Memory) (c : String) (h : Handle) (accesses : List Access) : Prop where
  /-- Whoever opens a handle of the component opens this one. -/
  shared : (m.after accesses).acquire c = (h, m.after accesses)
  /-- The version counts the successful writes. -/
  counts : ∃ s, (m.after accesses).get h = .ok s ∧ s.version = m.writeCount c accesses
  /-- A conditional write succeeds if and only if nothing has been written since the snapshot. -/
  compares : ∀ seen since s entries, accesses = seen ++ since → (m.after seen).get h = .ok s →
    (m.after accesses).replace h s.version entries =
      .ok (if (m.after seen).writeCount c since = 0 then (true, (m.after accesses).write h entries)
        else (false, m.after accesses))
  /-- If it succeeds then it is what the snapshot showed that it replaces. -/
  overwrites : ∀ seen since s entries m', accesses = seen ++ since →
    (m.after seen).get h = .ok s →
    (m.after accesses).replace h s.version entries = .ok (true, m') →
    (m.after accesses).get h = .ok s ∧ m'.get h = .ok ⟨s.version + 1, entries⟩
  /-- A conditional write that is refused changes nothing. -/
  refuses : ∀ k expected entries m',
    (m.after accesses).replace k expected entries = .ok (false, m') → m' = m.after accesses
  /-- What concerns one component keeps the state of every other. -/
  isolates : ∀ a c', (m.after accesses).subject? a ≠ some c' →
    SameFor c' (m.after accesses) ((m.after accesses).step a)

/-- What has become of a snapshot that was taken on the way. -/
theorem Sound.held_since (hsound : m.Sound) (hcurrent : m.current.get? c = some k)
    (hget : m.get k = .ok first) {seen since : List Access}
    (hkeep : ∀ a ∈ seen ++ since, a ≠ .drop c) (hseen : (m.after seen).get k = .ok s) :
    ∃ s', (m.after (seen ++ since)).get k = .ok s' ∧
      s'.version = s.version + (m.after seen).writeCount c since ∧
      ((m.after seen).writeCount c since = 0 → s' = s) := by
  rw [List.forall_mem_append] at hkeep
  obtain ⟨hcurrent', -⟩ := hsound.held_after hcurrent hget seen hkeep.1
  rw [after_append]
  exact ((hsound.after seen).held_after hcurrent' hseen since hkeep.2).2

theorem eq_of_replace_false {expected : Nat} {entries : Entries}
    (hreplace : m.replace h expected entries = .ok (false, m')) : m' = m := by
  cases hget : m.get h with
  | error e =>
    rw [replace_of_error hget] at hreplace
    cases hreplace
  | ok s =>
    rw [replace_of_ok hget] at hreplace
    split at hreplace <;> cases hreplace
    rfl

/-- A state that has just been set up serves its clients as long as it is not given up. -/
theorem Sound.serves (hsound : m.Sound) (hcurrent : m.current.get? c = some h)
    (hget : m.get h = .ok .initial) {accesses : List Access}
    (hkeep : ∀ a ∈ accesses, a ≠ .drop c) : m.Serves c h accesses := by
  obtain ⟨hcurrent', s', hget', hversion', -⟩ := hsound.held_after hcurrent hget accesses hkeep
  exact {
    shared := acquire_of_some hcurrent'
    counts := by
      refine ⟨s', hget', ?_⟩
      rw [hversion']
      exact Nat.zero_add _
    compares seen since s entries hsplit hseen := by
      subst hsplit
      obtain ⟨s', hget', hversion, -⟩ := hsound.held_since hcurrent hget hkeep hseen
      rw [replace_of_ok hget', hversion]
      simp
    overwrites seen since s entries m' hsplit hseen hreplace := by
      subst hsplit
      obtain ⟨s', hget', hversion, hsame⟩ := hsound.held_since hcurrent hget hkeep hseen
      rw [replace_of_ok hget', hversion] at hreplace
      split at hreplace
      · next hnone =>
        obtain rfl := hsame (by omega)
        cases hreplace
        exact ⟨hget', get_write_self hget' entries⟩
      · cases hreplace
    refuses _ _ _ _ := eq_of_replace_false
    isolates a c' hsubject := (does_step _ a).frame (hsound.after accesses) hsubject }

/-- From the moment when the state of a component is set up until it is given up, no update of it
is lost, whatever clients do to it and to other components. -/
theorem no_lost_update (before during : List Access) (c : String)
    (hfresh : (empty.after before).contains c = false) (hkeep : ∀ a ∈ during, a ≠ .drop c) :
    ((empty.after before).acquire c).2.Serves c ((empty.after before).acquire c).1 during := by
  have hnone : (empty.after before).current.get? c = none := by
    simpa [contains, Table.contains] using hfresh
  have hsound := sound_empty.after before
  rw [acquire_of_none hnone]
  generalize empty.after before = m at *
  have hcurrent : (m.setUp c).current.get? c = some ⟨m.cells.size⟩ :=
    (Table.get?_insert ..).trans (if_pos rfl)
  have hget : (m.setUp c).get ⟨m.cells.size⟩ = .ok .initial :=
    get_eq_ok_iff.mpr ⟨{ component := c }, (cells_setUp m c _).trans (if_pos rfl), rfl, rfl⟩
  exact (hsound.setUp hnone).serves hcurrent hget hkeep

/-- Two clients of one component, and one of another. -/
def sharedRun : List Access :=
  [.acquire "a", .acquire "b", .get ⟨2⟩, .set ⟨1⟩ (.ofList [("x", "1")]),
    .replace ⟨2⟩ 0 (.ofList [("cursor", "1")]), .replace ⟨2⟩ 0 (.ofList [("cursor", "2")])]

/-- The state of a component is set up again after it was given up. -/
theorem no_lost_update_shared :
    let before := [Access.acquire "a", .set ⟨0⟩ .empty, .drop "a", .acquire "b"]
    let (h, m) := (empty.after before).acquire "a"
    (empty.after before).contains "a" = false ∧ h = ⟨2⟩ ∧ m.writeCount "a" sharedRun = 1 ∧
      m.Serves "a" h sharedRun :=
  ⟨by decide, by decide, by decide, no_lost_update [.acquire "a", .set ⟨0⟩ .empty, .drop "a",
    .acquire "b"] sharedRun "a" (by decide) (by simp [sharedRun])⟩

end Memory

end ServiceLifecycle

import ServiceLifecycle.Proofs.Versions

/-!
# Handles

A handle belongs to one component for good. It gives access to the state that the component had
when the handle was opened, and when the component is removed it gives access to nothing any more,
whatever is done afterwards.

* **belonging** — a handle and its component (`Memory.component?_after`);
* **use** — what may become of the memory while one component's is used (`Memory.Uses`);
* **first use** — the state of a component that nobody has written to (`Memory.IsFresh`);
* **removal** — what is left of a handle when its component is removed (`Memory.IsGone`,
  `Memory.Sound.isGone_after`).
-/

namespace ServiceLifecycle

namespace Memory

variable {m m' : Memory} {a : Access} {c c' : String} {h : Handle} {entries : Entries}

/-! ## Belonging -/

/-- The handle of a component belongs to it. -/
theorem Sound.component?_acquire (hsound : m.Sound) (c : String) :
    (m.acquire c).2.component? (m.acquire c).1 = some c := by
  have hsound' : (m.acquire c).2.Sound := hsound.step (does_step m (.acquire c))
  obtain ⟨cell, hcell, rfl, -⟩ := hsound'.on_record c _ (m.current_acquire c)
  rw [Memory.component?, hcell]
  rfl

/-- A handle goes on belonging to its component. -/
theorem Does.component? (hdoes : m.Does a m') (hc : m.component? h = some c) :
    m'.component? h = some c := by
  obtain ⟨cell, hcell, rfl⟩ := Option.map_eq_some_iff.mp hc
  -- cells are changed in place, and not in what they belong to
  have hput : ∀ {j : Nat} {f : Cell → Cell},
      m'.cells[h.index]? = (if j = h.index then m.cells[h.index]?.map f else m.cells[h.index]?) →
      (∀ cell, (f cell).component = cell.component) → m'.component? h = some cell.component := by
    intro j f hcells hf
    rw [Memory.component?, hcells, hcell]
    split
    · exact congrArg some (hf cell)
    · rfl
  cases hdoes with
  | rests => exact hc
  | opens =>
    have hlt : h.index < m.cells.size := (Array.getElem?_eq_some_iff.mp hcell).1
    rw [Memory.component?, cells_setUp, if_neg (Nat.ne_of_lt hlt), hcell]
    rfl
  | @writes _ k _ entries => exact hput (cells_write m k entries h.index) fun _ => rfl
  | @closes c' k => exact hput (cells_giveUp m c' k h.index) fun _ => rfl

theorem component?_after (hc : m.component? h = some c) (accesses : List Access) :
    (m.after accesses).component? h = some c :=
  List.foldlRecOn (motive := fun m : Memory => m.component? h = some c) accesses step hc
    fun m hm a _ => (m.does_step a).component? hm

/-! ## Use -/

/-- The state of a component is used and not given up. -/
inductive Uses (c : String) (m : Memory) : Memory → Prop
  | refl : Uses c m m
  | tail {m' : Memory} {a : Access} : Uses c m m' → m'.subject? a = some c → a ≠ .drop c →
      Uses c m (m'.step a)

theorem Uses.trans {m'' : Memory} (h : Uses c m m') (h' : Uses c m' m'') : Uses c m m'' := by
  induction h' with
  | refl => exact h
  | tail _ hsubject hkeep ih => exact ih.tail hsubject hkeep

theorem Uses.after (h : Uses c m m') : ∃ accesses, m' = m.after accesses := by
  induction h with
  | refl => exact ⟨[], rfl⟩
  | @tail _ a _ _ _ ih =>
    obtain ⟨accesses, rfl⟩ := ih
    exact ⟨accesses ++ [a], (after_append m accesses [a]).symm⟩

theorem Uses.sound (h : Uses c m m') (hsound : m.Sound) : m'.Sound := by
  obtain ⟨accesses, rfl⟩ := h.after
  exact hsound.after accesses

theorem Uses.component? (h : Uses c m m') {k : Handle} (hc : m.component? k = some c') :
    m'.component? k = some c' := by
  obtain ⟨accesses, rfl⟩ := h.after
  exact component?_after hc accesses

/-- The use of one component's state keeps that of every other. -/
theorem Uses.frame (h : Uses c m m') (hsound : m.Sound) (hne : c' ≠ c) : SameFor c' m m' := by
  induction h with
  | refl => exact .refl c' m
  | @tail m' a huses hsubject _ ih =>
    refine ih.trans ((does_step m' a).frame (huses.sound hsound) ?_)
    rw [hsubject]
    exact fun heq => hne (Option.some.inj heq).symm

theorem uses_acquire (m : Memory) (c : String) : Uses c m (m.acquire c).2 :=
  Uses.refl.tail (a := .acquire c) rfl (by simp)

theorem uses_set (hc : m.component? h = some c) (hset : m.set h entries = .ok m') :
    Uses c m m' := by
  have huses := Uses.refl.tail (a := .set h entries) hc (by simp)
  rwa [show m.step (.set h entries) = m' by rw [step, hset]; rfl] at huses

/-! ## First use -/

/-- Nobody has written to the state of a component, if it has any. -/
def IsFresh (m : Memory) (c : String) : Prop :=
  ∀ h, m.current.get? c = some h → m.get h = .ok .initial

/-- Whoever opens the state of a component finds nothing written. -/
theorem IsFresh.first (hfresh : m.IsFresh c) : (m.acquire c).2.get (m.acquire c).1 = .ok .initial := by
  cases hcurrent : m.current.get? c with
  | some h =>
    rw [acquire_of_some hcurrent]
    exact hfresh h hcurrent
  | none =>
    rw [acquire_of_none hcurrent]
    exact get_setUp m c

theorem IsFresh.same (hfresh : m.IsFresh c) (hsound : m.Sound) (hsame : SameFor c m m') :
    m'.IsFresh c := by
  intro h hcurrent
  rw [hsame.current] at hcurrent
  obtain ⟨cell, hcell, hcomponent, -⟩ := hsound.on_record c h hcurrent
  have hcells : m'.cells[h.index]? = m.cells[h.index]? :=
    ((hsame.cells h.index cell hcomponent).mpr hcell).trans hcell.symm
  exact (get_congr hcells).trans (hfresh h hcurrent)

theorem IsFresh.acquire (hfresh : m.IsFresh c) (hsound : m.Sound) (c' : String) :
    (m.acquire c').2.IsFresh c := by
  by_cases heq : c' = c
  · subst heq
    intro h hcurrent
    rw [current_acquire] at hcurrent
    exact Option.some.inj hcurrent ▸ hfresh.first
  · exact hfresh.same hsound ((does_step m (.acquire c')).frame hsound fun h =>
      heq (Option.some.inj h))

theorem IsFresh.acquires (hfresh : m.IsFresh c) (hsound : m.Sound) (components : List String) :
    (m.after (components.map .acquire)).IsFresh c := by
  induction components generalizing m with
  | nil => exact hfresh
  | cons c' rest ih =>
    exact ih (hfresh.acquire hsound c') (hsound.step (does_step m (.acquire c')))

/-! ## Removal -/

theorem current_drop (m : Memory) (c : String) : (m.drop c).current.get? c = none := by
  unfold drop
  split
  · next hnone => exact hnone
  · exact (Table.get?_erase ..).trans (if_pos rfl)

/-- What has been given up stays as it is. -/
theorem Does.closed (hdoes : m.Does a m') {i : Nat} {cell : Cell} (hcell : m.cells[i]? = some cell)
    (hremoved : cell.removed = true) : m'.cells[i]? = some cell := by
  cases hdoes with
  | rests => exact hcell
  | opens =>
    rw [cells_setUp, if_neg (Nat.ne_of_lt (Array.getElem?_eq_some_iff.mp hcell).1), hcell]
  | @writes a k s entries _ _ hget =>
    rw [cells_write]
    split
    · next heq =>
      obtain ⟨own, hown, hopen, -⟩ := get_eq_ok_iff.mp hget
      rw [heq, hcell] at hown
      rw [Option.some.inj hown, hopen] at hremoved
      cases hremoved
    · exact hcell
  | @closes c k =>
    rw [cells_giveUp, hcell]
    split
    · rw [Option.map_some, ← hremoved]
    · rfl

theorem closed_after {i : Nat} {cell : Cell} (hcell : m.cells[i]? = some cell)
    (hremoved : cell.removed = true) (accesses : List Access) :
    (m.after accesses).cells[i]? = some cell :=
  List.foldlRecOn (motive := fun m : Memory => m.cells[i]? = some cell) accesses step hcell
    fun m hm a _ => (m.does_step a).closed hm hremoved

variable {cell : Cell}

/-- Whoever tries anything with a handle is told that the state is gone, and nothing is done. -/
structure IsGone (m : Memory) (c : String) (h : Handle) : Prop where
  get : m.get h = .error (.removed c)
  set : ∀ entries, m.set h entries = .error (.removed c)
  clear : m.clear h = .error (.removed c)
  replace : ∀ expected entries, m.replace h expected entries = .error (.removed c)
  idle : ∀ expected entries,
    ∀ a ∈ [Access.get h, .set h entries, .clear h, .replace h expected entries], m.step a = m

theorem isGone_of_cell (hcell : m.cells[h.index]? = some cell) (hremoved : cell.removed = true) :
    m.IsGone cell.component h := by
  have hget : m.get h = .error (.removed cell.component) := by
    unfold get
    rw [hcell]
    exact if_pos hremoved
  refine ⟨hget, set_of_error hget, set_of_error hget .empty, replace_of_error hget, ?_⟩
  intro expected entries a ha
  simp only [List.mem_cons, List.not_mem_nil, or_false] at ha
  rcases ha with rfl | rfl | rfl | rfl
  · rfl
  · rw [step, set_of_error hget]
    rfl
  · rw [step, clear, set_of_error hget]
    rfl
  · rw [step, replace_of_error hget]
    rfl

/-- With the state of a component everything goes that any handle of it gave access to. -/
theorem Sound.closed_drop (hsound : m.Sound) (hc : m.component? h = some c) :
    ∃ cell, (m.drop c).cells[h.index]? = some cell ∧ cell.component = c ∧ cell.removed = true := by
  obtain ⟨cell, hcell, rfl⟩ := Option.map_eq_some_iff.mp hc
  by_cases hremoved : cell.removed = true
  · exact ⟨cell, (does_step m (.drop cell.component)).closed hcell hremoved, rfl, hremoved⟩
  · have hcurrent := hsound.alone h.index cell hcell (Bool.eq_false_iff.mpr hremoved)
    refine ⟨{ cell with removed := true }, ?_, rfl, rfl⟩
    have hdrop : m.drop cell.component = m.giveUp cell.component ⟨h.index⟩ := by
      simp only [drop, hcurrent, Memory.giveUp]
    rw [hdrop, cells_giveUp, if_pos rfl, hcell]
    rfl

/-- Once the component is removed there is nothing behind any handle of it. -/
theorem Sound.isGone_after (hsound : m.Sound) (hc : m.component? h = some c)
    {accesses : List Access} (hdrop : .drop c ∈ accesses) : (m.after accesses).IsGone c h := by
  obtain ⟨seen, since, rfl⟩ := List.append_of_mem hdrop
  obtain ⟨cell, hcell, rfl, hremoved⟩ :=
    (hsound.after seen).closed_drop (component?_after hc seen)
  rw [after_append]
  exact isGone_of_cell (closed_after hcell hremoved since) hremoved

end Memory

end ServiceLifecycle

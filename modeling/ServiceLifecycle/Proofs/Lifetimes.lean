import ServiceLifecycle.Proofs.Handles

/-!
# Snapshots from before a removal

When a component is removed its state goes with it, and whoever opens the state of a component of
that name afterwards finds nothing written. The version counts the writes from then on, so that it
tells nothing of the lives before. A snapshot that a client has kept from an earlier life is good
for no write to a later one, unless the numbers meet.

* **count** — how many writes have succeeded since a component was last removed
  (`Memory.lifeCount`), and what a client finds that opens its state (`Memory.present`);
* **versions** — the version that a client finds is this count: what one access does to it
  (`Memory.Sound.version_step`), and what a run does (`Memory.Sound.version_after`);
* **handles** — what is behind a handle of a component as long as the component is not removed
  (`Memory.Sound.opened_after`), and what a conditional write through it comes to
  (`Memory.replace_opened`);
* **snapshots** — what becomes of a write with a snapshot from an earlier life
  (`Memory.outdated_refused`), and that the numbers may meet (`Memory.outdated_accepted`).
-/

namespace ServiceLifecycle

/-- Whether an access gives up the state of a component. -/
def Access.drops (c : String) : Access → Bool
  | .drop c' => c' = c
  | _ => false

theorem Access.drops_iff {a : Access} {c : String} : a.drops c ↔ a = .drop c := by
  cases a <;> simp [drops]

namespace Memory

variable {m : Memory} {c : String} {h : Handle} {s : Snapshot}

/-! ## Count -/

/-- How many writes to the state of a component have succeeded since it was last given up, after
several accesses that follow on `n` such writes. -/
def lifeCount (m : Memory) (c : String) (n : Nat) : List Access → Nat
  | [] => n
  | a :: rest =>
      (m.step a).lifeCount c (if a.drops c then 0 else n + (m.writesTo c a).toNat) rest

/-- What whoever opens the state of a component finds. -/
def present (m : Memory) (c : String) : Snapshot :=
  ((m.current.get? c).bind fun h => (m.get h).toOption).getD .initial

theorem present_of_current (hcurrent : m.current.get? c = some h) (hget : m.get h = .ok s) :
    m.present c = s := by
  rw [present, hcurrent, Option.bind_some, hget]
  rfl

theorem present_of_none (hcurrent : m.current.get? c = none) : m.present c = .initial := by
  rw [present, hcurrent]
  rfl

/-- The handle on record gives access to what whoever opens the state finds. -/
theorem Sound.get_current (hsound : m.Sound) (hcurrent : m.current.get? c = some h) :
    m.get h = .ok (m.present c) := by
  obtain ⟨cell, hcell, -, hremoved⟩ := hsound.on_record c h hcurrent
  have hget : m.get h = .ok cell.snapshot := get_eq_ok_iff.mpr ⟨cell, hcell, hremoved, rfl⟩
  rw [hget, present_of_current hcurrent hget]

/-! ## Versions -/

/-- Where a component has no state there is nothing to find after one more access either, and
nothing was written. -/
theorem Sound.version_step_of_none (hsound : m.Sound) (hnone : m.current.get? c = none)
    (a : Access) : ((m.step a).present c).version = 0 ∧ m.writesTo c a = false := by
  by_cases hsubject : m.subject? a = some c
  · have hdoes := m.does_step a
    generalize m.step a = m' at hdoes ⊢
    cases hdoes with
    | rests hfails =>
      rw [present_of_none hnone]
      exact ⟨rfl, by simp [writesTo, hfails]⟩
    | opens =>
      obtain rfl := Option.some.inj hsubject
      rw [present_of_current (current_setUp m _) (get_setUp m _)]
      exact ⟨rfl, rfl⟩
    | writes entries _ hsame hget =>
      -- whatever can be written to is on record
      rw [hsound.current_of_get (hsame.symm.trans hsubject) hget] at hnone
      cases hnone
    | closes hcurrent =>
      obtain rfl := Option.some.inj hsubject
      rw [hnone] at hcurrent
      cases hcurrent
  · have hsame := (m.does_step a).frame hsound hsubject
    rw [present_of_none (hsame.current.trans hnone)]
    exact ⟨rfl, by simp [writesTo, hsubject]⟩

/-- One access counts the version up if it is a write, and starts over if the component is
removed. -/
theorem Sound.version_step (hsound : m.Sound) (c : String) (a : Access) :
    ((m.step a).present c).version =
      if a.drops c then 0 else (m.present c).version + (m.writesTo c a).toNat := by
  split
  · next hdrops =>
    obtain rfl := Access.drops_iff.mp hdrops
    show ((m.drop c).present c).version = 0
    rw [present_of_none (current_drop m c)]
    rfl
  · next hkeep =>
    cases hcurrent : m.current.get? c with
    | none =>
      obtain ⟨hversion, hnot⟩ := hsound.version_step_of_none hcurrent a
      rw [hversion, hnot, present_of_none hcurrent]
      rfl
    | some k =>
      obtain ⟨hcurrent', s', hget', hversion, -⟩ := (m.does_step a).held hsound hcurrent
        (hsound.get_current hcurrent) fun heq => hkeep (Access.drops_iff.mpr heq)
      rw [present_of_current hcurrent' hget', hversion]

/-- **Versions.** Whatever clients do, the version of a component's state is the number of writes
since the component was last removed. -/
theorem Sound.version_after (hsound : m.Sound) (c : String) (accesses : List Access) :
    ((m.after accesses).present c).version = m.lifeCount c (m.present c).version accesses := by
  induction accesses generalizing m with
  | nil => rfl
  | cons a rest ih =>
    show (((m.step a).after rest).present c).version = _
    rw [ih (hsound.step (m.does_step a)), hsound.version_step c a]
    rfl

/-! ## Handles -/

theorem after_acquire (m : Memory) (c : String) (before since : List Access) :
    m.after (before ++ .acquire c :: since) = ((m.after before).acquire c).2.after since :=
  after_append m before (.acquire c :: since)

/-- As long as the component is not removed a handle gives access to what whoever opens the state
finds. -/
theorem Sound.opened_after (hsound : m.Sound) {accesses : List Access}
    (hkeep : .drop c ∉ accesses) :
    ((m.acquire c).2.after accesses).get (m.acquire c).1 =
      .ok (((m.acquire c).2.after accesses).present c) := by
  have hsound' : (m.acquire c).2.Sound := hsound.step (m.does_step (.acquire c))
  have hcurrent := m.current_acquire c
  obtain ⟨hcurrent', -⟩ := hsound'.held_after hcurrent (hsound'.get_current hcurrent) accesses
    fun a ha heq => hkeep (heq ▸ ha)
  exact (hsound'.after accesses).get_current hcurrent'

/-- Through a handle of a component that has not been removed since, a conditional write looks at
nothing but the number of writes since the last removal. -/
theorem replace_opened (before since : List Access) (c : String) (hkeep : .drop c ∉ since)
    (expected : Nat) (entries : Entries) :
    let h := ((empty.after before).acquire c).1
    let m := empty.after (before ++ .acquire c :: since)
    m.replace h expected entries =
      .ok (if empty.lifeCount c 0 (before ++ .acquire c :: since) = expected
        then (true, m.write h entries) else (false, m)) := by
  intro h m
  have hopened : m.get h = .ok (m.present c) := by
    have hafter : m = ((empty.after before).acquire c).2.after since := after_acquire ..
    rw [hafter]
    exact (sound_empty.after before).opened_after hkeep
  have hversion : (m.present c).version = empty.lifeCount c 0 (before ++ .acquire c :: since) :=
    sound_empty.version_after c _
  rw [replace_of_ok hopened, hversion]

/-! ## Snapshots -/

/-- A snapshot shows as many writes as had succeeded in the life that it was taken in. -/
theorem version_of_snapshot {seen : List Access} (hc : (empty.after seen).component? h = some c)
    (hget : (empty.after seen).get h = .ok s) : s.version = empty.lifeCount c 0 seen := by
  have hcurrent := (sound_empty.after seen).current_of_get hc hget
  rw [← present_of_current hcurrent hget]
  exact sound_empty.version_after c seen

/-- Whatever is to be written on the condition that the version is still that of a snapshot, the
answer is this one, and nothing is changed. -/
def Refuses (m : Memory) (h : Handle) (s : Snapshot) (answer : Except StateError Bool) : Prop :=
  ∀ entries, (m.replace h s.version entries).map Prod.fst = answer ∧
    m.step (.replace h s.version entries) = m

theorem IsGone.refuses (hgone : m.IsGone c h) (s : Snapshot) :
    m.Refuses h s (.error (.removed c)) := by
  intro entries
  refine ⟨?_, hgone.idle s.version entries _ (by simp)⟩
  rw [hgone.replace]
  rfl

theorem refuses_of_replace
    (hreplace : ∀ entries, m.replace h s.version entries = .ok (false, m)) :
    m.Refuses h s (.ok false) := by
  intro entries
  rw [step, hreplace]
  exact ⟨rfl, rfl⟩

/-- **Snapshots from before a removal.** A client keeps a snapshot of a component's state, taken
when something had been written. The component is removed, and whatever else happens before and
after that, the client opens the state again. A write with the old snapshot is refused then: with
an error if the component was removed once more in the meantime, and else unless exactly as many
writes have succeeded since its last removal as the snapshot shows, so in any case as long as there
was none. -/
theorem outdated_refused (seen meanwhile reopened since : List Access) (c : String) (k : Handle)
    (s : Snapshot) (hc : (empty.after seen).component? k = some c)
    (hget : (empty.after seen).get k = .ok s) (hversion : 1 ≤ s.version) :
    let before := seen ++ meanwhile ++ .drop c :: reopened
    let h := ((empty.after before).acquire c).1
    let run := before ++ .acquire c :: since
    s.version = empty.lifeCount c 0 seen ∧
    (.drop c ∈ since → (empty.after run).Refuses h s (.error (.removed c))) ∧
    (.drop c ∉ since → empty.lifeCount c 0 run ≠ s.version →
      (empty.after run).Refuses h s (.ok false)) ∧
    (.drop c ∉ since → empty.lifeCount c 0 run = 0 →
      (empty.after run).Refuses h s (.ok false)) := by
  intro before h run
  have hunmet : .drop c ∉ since → empty.lifeCount c 0 run ≠ s.version →
      (empty.after run).Refuses h s (.ok false) := by
    refine fun hkeep hne => refuses_of_replace fun entries => ?_
    exact (replace_opened before since c hkeep s.version entries).trans
      (congrArg Except.ok (if_neg hne))
  refine ⟨version_of_snapshot hc hget, fun hdrop => ?_, hunmet, fun hkeep hnone => ?_⟩
  · have hsound : (empty.after before).Sound := sound_empty.after before
    have hsound' := hsound.step ((empty.after before).does_step (.acquire c))
    have hrun : empty.after run = ((empty.after before).acquire c).2.after since := after_acquire ..
    rw [hrun]
    exact (hsound'.isGone_after (hsound.component?_acquire c) hdrop).refuses s
  · exact hunmet hkeep (by omega)

/-- Component `a` is written to twice before it is removed. -/
def keptRun : List Access :=
  [.acquire "a", .set ⟨0⟩ (.ofList [("cursor", "1")]), .set ⟨0⟩ (.ofList [("cursor", "2")])]

/-- One write has succeeded since, and later the component is removed once more. -/
theorem outdated_refused_kept :
    let s : Snapshot := ⟨2, .ofList [("cursor", "2")]⟩
    let since : List Access := [.set ⟨1⟩ (.ofList [("cursor", "3")])]
    let run := keptRun ++ [.drop "a", .acquire "a"] ++ since
    (empty.after keptRun).component? ⟨0⟩ = some "a" ∧ (empty.after keptRun).get ⟨0⟩ = .ok s ∧
      empty.lifeCount "a" 0 run = 1 ∧ (empty.after run).Refuses ⟨1⟩ s (.ok false) ∧
      (empty.after (run ++ [.drop "a"])).Refuses ⟨1⟩ s (.error (.removed "a")) := by
  intro s since run
  have hrefused := fun later => outdated_refused keptRun [] [] (since ++ later) "a" ⟨0⟩ s rfl rfl
    (by decide)
  exact ⟨rfl, rfl, by decide, (hrefused []).2.2.1 (by simp [since]) (by decide),
    (hrefused [.drop "a"]).2.1 (by simp)⟩

/-- The numbers may meet: the component was written to once before it was removed and once since,
and a write with the old snapshot replaces what that never showed. Once the component is removed
again the answer is an error. -/
theorem outdated_accepted :
    let seen : List Access := [.acquire "a", .set ⟨0⟩ (.ofList [("cursor", "1")])]
    let before := empty.after (seen ++ [.drop "a"])
    let h := (before.acquire "a").1
    let m := (before.acquire "a").2.step (.set h (.ofList [("cursor", "2")]))
    let s : Snapshot := ⟨1, .ofList [("cursor", "1")]⟩
    (empty.after seen).component? ⟨0⟩ = some "a" ∧ (empty.after seen).get ⟨0⟩ = .ok s ∧
      m.get h = .ok ⟨1, .ofList [("cursor", "2")]⟩ ∧
      m.replace h s.version (.ofList [("cursor", "3")]) =
        .ok (true, m.write h (.ofList [("cursor", "3")])) ∧
      (m.write h (.ofList [("cursor", "3")])).get h = .ok ⟨2, .ofList [("cursor", "3")]⟩ ∧
      (m.drop "a").replace h s.version (.ofList [("cursor", "3")]) = .error (.removed "a") :=
  ⟨rfl, rfl, rfl, rfl, rfl, rfl⟩

end Memory

end ServiceLifecycle

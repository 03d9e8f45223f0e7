import ServiceLifecycle.Proofs.Enabling

/-!
# Chains of tasks

To enable a service is to submit a chain of tasks, one for each element of its branch,
and chains share services: where one finds a service on its way up, a task of its own
waits for the task of the other. As long as no hook fails and no reference runs in a
circle, nothing that a chain waits for goes wrong.

* **awaiting** — which tasks the activation of a service waits for (`Scene.Awaits`);
* **invariant** — whatever is awaited is live or has completed, and a task that has to
  confirm a service finds it up (`Scene.Convergent`);
* **changes** — moves of tasks, edits, claims and joins keep the invariant, each
  under the conditions that its requests see to.
-/

namespace ServiceLifecycle

open Relation

/-- A hook that neither fails nor cleans up after a failure sleeps, panics, or leads its
transition to the goal. -/
theorem Hooked.smooth {cleansUp : Bool} {n : Incarnation} {purpose : Purpose} {entries : List JournalEntry}
    {turn : Turn HookRun} {result : Option (ServiceState × Option Fault)}
    (h : Hooked cleansUp n purpose entries turn result) (hpurpose : ∀ failure, purpose ≠ .cleanup failure)
    (hreturned : ∀ hook error, JournalEntry.returned hook (some error) ∉ entries) :
    (∃ time run, turn = .sleeps time run ∧ result = none ∧ run.purpose = purpose) ∨
      (∃ payload, turn = .panics payload ∧ result = none) ∨
      turn = .returns ∧ result = some (purpose.direction.goal, none) := by
  cases h with
  | sleeps => exact .inl ⟨_, _, rfl, rfl, rfl⟩
  | panics => exact .inr (.inl ⟨_, rfl, rfl⟩)
  | activated => exact .inr (.inr ⟨rfl, rfl⟩)
  | failed failure => exact absurd List.mem_cons_self (hreturned .activate failure)
  | @cleans failure => exact absurd (by simp) (hreturned .activate failure)
  | cleaned failure => exact absurd rfl (hpurpose failure)
  | deactivated error =>
    cases error with
    | none => exact .inr (.inr ⟨rfl, rfl⟩)
    | some message => exact absurd List.mem_cons_self (hreturned .deactivate message)

namespace Scene

variable {S S' T : Scene} {cause : Cause} {i j c : TaskId} {t : Task Job HookRun}
  {n m : Incarnation}

/-! ## Gates of new tasks -/

theorem gate_push {name : String} {gates : List TaskId} {job : Job} {g : TaskId} :
    (S.push name gates job).Gate i g ↔ if i = S.submitted then g ∈ gates else S.Gate i g := by
  unfold Gate
  rw [task?_push]
  split
  · simp [newcomer]
  · rfl

/-- What a task waits behind does not change when others are taken in. -/
theorem Gated.reach_push (h : Gated S) (hi : i < S.submitted) (name : String)
    (gates : List TaskId) (job : Job) :
    ReflTransGen (S.push name gates job).Gate i j ↔ ReflTransGen S.Gate i j := by
  constructor
  · intro hreach
    induction hreach using ReflTransGen.head_induction_on with
    | refl => exact .refl
    | @head i g hgate _ ih =>
      rw [gate_push, if_neg (Nat.ne_of_lt hi)] at hgate
      obtain ⟨t, ht, hg⟩ := hgate
      exact .head ⟨t, ht, hg⟩ (ih (Nat.lt_trans (h.gates i t ht g hg).1 hi))
  · refine fun hreach => ReflTransGen.mono (fun a g hgate => ?_) _ _ hreach
    obtain ⟨t, ht, hg⟩ := hgate
    rw [gate_push, if_neg (Nat.ne_of_lt (h.known a t ht))]
    exact ⟨t, ht, hg⟩

theorem Gated.behind_push (h : Gated S) (hi : i < S.submitted) (name : String)
    (gates : List TaskId) (job : Job) :
    (S.push name gates job).Behind i j ↔ S.Behind i j := by
  unfold Behind
  rw [TransGen.head'_iff, TransGen.head'_iff]
  refine exists_congr fun g => ?_
  rw [gate_push, if_neg (Nat.ne_of_lt hi)]
  refine and_congr_right fun hgate => ?_
  obtain ⟨t, ht, hg⟩ := hgate
  exact h.reach_push (Nat.lt_trans (h.gates i t ht g hg).1 hi) name gates job

/-- A new task waits behind its gates and all that these wait behind. -/
theorem Gated.behind_new (h : Gated S) {name : String} {gates : List TaskId} {job : Job}
    (hgates : ∀ g ∈ gates, g < S.submitted) :
    (S.push name gates job).Behind S.submitted j ↔ S.Covers gates j := by
  unfold Behind Covers
  rw [TransGen.head'_iff]
  refine exists_congr fun g => ?_
  rw [gate_push, if_pos rfl]
  exact and_congr_right fun hg => h.reach_push (hgates g hg) name gates job

/-! ## The invariant -/

/-- The task has not ended or has completed. -/
def Sound (S : Scene) (i : TaskId) : Prop :=
  ∃ t, S.task? i = some t ∧ (t.stage.isLive = true ∨ t.stage = .ended .completed)

/-- A service that is about to be claimed, and the gate of the task to come. -/
abbrev Promise := Option (Incarnation × TaskId)

/-- The activation of a service, under way or promised, waits behind a task. -/
def Awaits (S : Scene) (promise : Promise) (n : Incarnation) (c : TaskId) : Prop :=
  (∃ i t, S.task? i = some t ∧ t.job = some (Direction.up.job n) ∧ t.stage.isLive = true ∧
    S.Behind i c) ∨
  ∃ l, promise = some (n, l) ∧ ReflTransGen S.Gate l c

/-- The service is active, the task waits for the end of its activation, and it stays active,
since a service whose activation waits behind the task needs it. -/
structure Sheltered (S : Scene) (promise : Promise) (c : TaskId) (m : Incarnation) : Prop where
  needed : ∃ n, S.Awaits promise n c ∧ ReflTransGen S.Refers n m
  active : (S.service m).state.isActive = true
  behind : (S.service m).state = .enabling →
    ∃ j, (S.service m).transition = some j ∧ S.Behind c j

/-- Chains run to their end. -/
structure Convergent (S : Scene) (promise : Promise) : Prop where
  isAlive : S.isAlive = true
  isOpen : S.isShutdown = false
  /-- A task looks at its own gates. -/
  tidy : ∀ i t, S.task? i = some t → ∀ g ∈ t.stage.unpassed t.gates, g ∈ t.gates
  /-- No hook is cleaning up. -/
  unfailed : ∀ i t wake run, S.task? i = some t → t.stage = .running wake run →
    ∀ failure, run.purpose ≠ .cleanup failure
  /-- What an active service refers to is active. -/
  closed : ∀ n, (S.service n).state.isActive = true → ∀ y ∈ (S.service n).references,
    ∃ m, S.find? y = some m ∧ (S.service m).state.isActive = true
  /-- An activation waits for those that the service depends on. -/
  led : ∀ i t n m, S.task? i = some t → t.job = some (Direction.up.job n) →
    t.stage.isLive = true → S.Refers n m → (S.service m).state = .enabling →
    ∃ j, (S.service m).transition = some j ∧ S.Behind i j
  /-- What has to be confirmed for an activation will be up. -/
  sheltered : ∀ c t m, S.task? c = some t → t.job = some (.confirm m) →
    t.stage.isLive = true → ∀ n, S.Awaits promise n c → S.Sheltered promise c m
  /-- Nothing that an activation waits for has gone wrong. -/
  intact : ∀ n c, S.Awaits promise n c → S.Sound c
  /-- What goes down waits only for what goes down. -/
  lowered : ∀ i, S.Lowers i → ∀ g, S.Gate i g → S.Lowers g
  /-- No transition has gone wrong. -/
  settled : ∀ i t (d : Direction) n, S.task? i = some t → t.job = some (d.job n) → S.Sound i

/-- No references run in a circle, and no hook has failed or panicked. -/
structure Peaceful (S : Scene) : Prop where
  acyclic : ∀ n, ¬ TransGen S.Refers n n
  returned : ∀ n hook error, JournalEntry.returned hook (some error) ∉ (S.service n).journal
  unpanicked : ∀ i t payload, S.task? i = some t → t.stage ≠ .ended (.panicked payload)

theorem Peaceful.not_returned (h : Peaceful S) {entries rest : List JournalEntry}
    (hjournal : (S.service n).journal = entries ++ rest) (hook : Hook) (error : String) :
    JournalEntry.returned hook (some error) ∉ entries :=
  fun hin => h.returned n hook error (hjournal ▸ List.mem_append_left _ hin)

theorem SameGraph.refers (h : SameGraph S S') : S'.Refers = S.Refers := by
  funext n m
  unfold Refers
  rw [h.references, h.find?]

theorem isActive_of_enabling {s : ServiceState} (h : s = .enabling) : s.isActive = true := h ▸ rfl

/-- Whatever a task waits behind has completed once the task is past its gates. -/
theorem Gated.completed_behind (h : Gated S) (ht : S.task? i = some t)
    (hfree : t.stage.isFree = true) (hbehind : S.Behind i j) : S.Completed j :=
  h.completed_of_behind hbehind fun t' ht' => by
    obtain rfl : t = t' := Option.some.inj (ht.symm.trans ht')
    exact Stage.unpassed_of_isFree _ hfree

/-- An active service is up as soon as the task of its activation has completed. -/
theorem Orderly.enabled_of_behind (h : Orderly S) (ht : S.task? i = some t)
    (hfree : t.stage.isFree = true) (hactive : (S.service m).state.isActive = true)
    (hbehind : (S.service m).state = .enabling →
      ∃ j, (S.service m).transition = some j ∧ S.Behind i j) :
    (S.service m).state = .enabled := by
  cases hstate : (S.service m).state with
  | enabled => rfl
  | disabled | disabling =>
    rw [hstate] at hactive
    cases hactive
  | enabling =>
    obtain ⟨j, hj, hbehind⟩ := hbehind hstate
    exact absurd (h.gated.completed_behind ht hfree hbehind)
      (h.owned.not_completed (d := .up) hstate hj)

/-! ## Moves -/

/-- A hook called by a task that is not cleaning up is not called to clean up. -/
theorem Called.purpose {purpose : Purpose} {before : List JournalEntry}
    (h : S.Called t n purpose before)
    (hunfailed : ∀ wake run, t.stage = .running wake run →
      ∀ failure, run.purpose ≠ .cleanup failure) (failure : String) :
    purpose ≠ .cleanup failure := by
  cases h with
  | activation | deactivation => simp
  | again hstage => exact hunfailed _ _ hstage failure

/-- A task past its gates finds everything up that its service refers to. -/
theorem Convergent.ready {promise : Promise} (h : Convergent S promise) (horderly : Orderly S)
    (ht : S.task? i = some t) (hjob : t.job = some (Direction.up.job n))
    (hfree : t.stage.isFree = true) : S.Ready n := by
  have hlive := Stage.isLive_of_isFree hfree
  have hstate := (horderly.owned.held i t .up n ht hjob hlive).1
  intro y hy
  obtain ⟨m, hm, hactive⟩ := h.closed n (isActive_of_enabling hstate) y hy
  have henabled := horderly.enabled_of_behind ht hfree hactive
    (h.led i t n m ht hjob hlive ⟨y, hy, hm⟩)
  rw [Outline.stateOf?, hm, Option.map_some, henabled]

/-- A task none of whose gates has gone wrong can go on. -/
theorem Convergent.unhindered {promise : Promise} (h : Convergent S promise)
    (ht : S.task? i = some t) (hgates : ∀ g, S.Gate i g → S.Sound g) : ¬ S.Hindered t := by
  rintro (⟨hstage, hgate, hended, hne⟩ | hshut | htorn)
  · have hg := h.tidy i t ht _ (by rw [hstage]; exact List.mem_cons_self)
    obtain ⟨u, hu, hsound⟩ := hgates _ ⟨t, ht, hg⟩
    obtain rfl := Option.some.inj (hu.symm.trans hgate)
    rcases hsound with hlive | hcompleted
    · rw [hended] at hlive
      cases hlive
    · exact hne hcompleted
  · rw [h.isOpen] at hshut
    cases hshut
  · rw [h.isAlive] at htorn
    cases htorn

theorem Convergent.sound_gate {promise : Promise} (h : Convergent S promise) {d : Direction}
    (ht : S.task? i = some t) (hjob : t.job = some (d.job n)) (hlive : t.stage.isLive = true)
    {g : TaskId} (hg : S.Gate i g) : S.Sound g := by
  cases d with
  | up => exact h.intact n g (.inl ⟨i, t, ht, hjob, hlive, .single hg⟩)
  | down =>
    obtain ⟨u, hu, k, hk⟩ := h.lowered i ⟨t, ht, n, hjob⟩ g hg
    exact h.settled g u .down k hu hk

/-- A confirmation that is awaited finds its service up. -/
theorem Convergent.confirmed {promise : Promise} (h : Convergent S promise)
    (horderly : Orderly S) (ht : S.task? i = some t) (hjob : t.job = some (.confirm m))
    (hlive : t.stage.isLive = true) (hawaits : S.Awaits promise n i) :
    ¬ (t.stage = .waiting ∧ (S.service m).state ≠ .enabled ∨ S.Hindered t) := by
  rintro (⟨hstage, hstate⟩ | hhindered)
  · have hshelter := h.sheltered i t m ht hjob hlive n hawaits
    exact hstate (horderly.enabled_of_behind ht (by rw [hstage]; rfl) hshelter.active
      hshelter.behind)
  · refine h.unhindered ht (fun g hg => h.intact n g ?_) hhindered
    rcases hawaits with ⟨k, u, hu, hk, hulive, hbehind⟩ | ⟨l, hl, hreach⟩
    · exact .inl ⟨k, u, hu, hk, hulive, hbehind.tail hg⟩
    · exact .inr ⟨l, hl, hreach.tail hg⟩

/-- The task of a transition none of whose hooks fails completes. -/
theorem Convergent.completes {promise : Promise} (h : Convergent S promise)
    (horderly : Orderly S) (ht : S.task? i = some t) {entries rest : List JournalEntry}
    {state : ServiceState} {fault : Option Fault} {ending : Ending}
    (hconcludes : S.Concludes t n entries state fault ending) (hpeaceful : Peaceful S')
    (hjournal : (S'.service n).journal = entries ++ rest)
    (ht' : S'.task? i = some { t with stage := .ended ending }) :
    ∃ d : Direction, t.job = some (d.job n) ∧ t.stage.isFree = true ∧ ending = .completed ∧
      state = d.goal ∧ fault = none := by
  cases hconcludes with
  | @ends purpose before after turn _ _ _ hcalled hooked hturn =>
    have hafter := hpeaceful.not_returned (hjournal.trans (List.append_assoc _ _ _))
    rcases hooked.smooth (hcalled.purpose (h.unfailed i t · · ht)) hafter with
      ⟨_, _, -, hnone, -⟩ | ⟨_, -, hnone⟩ | ⟨rfl, hresult⟩
    · cases hnone
    · cases hnone
    · obtain ⟨rfl, rfl⟩ := Prod.mk.inj (Option.some.inj hresult)
      exact ⟨_, hcalled.job, hcalled.isFree, (Option.some.inj hturn).symm, rfl, rfl⟩
  | panics => exact absurd rfl (hpeaceful.unpanicked i _ _ ht')
  | blocked reason hstage hjob hready =>
    exact absurd (h.ready horderly ht hjob (by rw [hstage]; rfl)) hready
  | aborts d reason hlive hjob hhindered =>
    exact absurd hhindered (h.unhindered ht fun g hg => h.sound_gate ht hjob hlive hg)

/-- As long as nothing is promised, whatever is awaited is awaited by an activation under way. -/
theorem awaits_none : S.Awaits none n c ↔ ∃ i t, S.task? i = some t ∧
    t.job = some (Direction.up.job n) ∧ t.stage.isLive = true ∧ S.Behind i c := by
  simp [Awaits]

/-- A live task is put at a stage, and services keep their names and references. -/
structure Moved (S : Scene) (i : TaskId) (t : Task Job HookRun) (stage : Stage HookRun)
    (S' : Scene) : Prop where
  graph : SameGraph S S'
  isAlive : S'.isAlive = S.isAlive
  isShutdown : S'.isShutdown = S.isShutdown
  found : S.task? i = some t
  isLive : t.stage.isLive = true
  task? : ∀ j, S'.task? j = if j = i then some { t with stage } else S.task? j

/-- The task goes on, completes past its gates, or fails to confirm what nobody waits for. -/
def Harmless (S : Scene) (i : TaskId) (t : Task Job HookRun) (stage : Stage HookRun) : Prop :=
  stage.isLive = true ∨ stage = .ended .completed ∧ t.stage.isFree = true ∨
    (∃ m, t.job = some (.confirm m)) ∧ ∀ n, ¬ S.Awaits none n i

namespace Moved

variable {stage : Stage HookRun}

theorem self (h : Moved S i t stage S') : S'.task? i = some { t with stage } := by
  rw [h.task?, if_pos rfl]

theorem other (h : Moved S i t stage S') (hj : j ≠ i) : S'.task? j = S.task? j := by
  rw [h.task?, if_neg hj]

/-- Whatever is there after the move was there before, and was live if it is. -/
theorem back (h : Moved S i t stage S') {u : Task Job HookRun} (hu : S'.task? j = some u) :
    ∃ u₀, S.task? j = some u₀ ∧ u.job = u₀.job ∧ u.gates = u₀.gates ∧
      (u.stage.isLive = true → u₀.stage.isLive = true) := by
  by_cases hj : j = i
  · subst hj
    obtain rfl := Option.some.inj (h.self.symm.trans hu)
    exact ⟨t, h.found, rfl, rfl, fun _ => h.isLive⟩
  · exact ⟨u, h.other hj ▸ hu, rfl, rfl, id⟩

theorem forth (h : Moved S i t stage S') {u : Task Job HookRun} (hu : S.task? j = some u) :
    ∃ u', S'.task? j = some u' ∧ u'.job = u.job ∧ u'.gates = u.gates := by
  by_cases hj : j = i
  · subst hj
    obtain rfl : t = u := Option.some.inj (h.found.symm.trans hu)
    exact ⟨_, h.self, rfl, rfl⟩
  · exact ⟨u, (h.other hj).trans hu, rfl, rfl⟩

/-- Which task waits behind which does not depend on how far the tasks are. -/
theorem gate (h : Moved S i t stage S') : S'.Gate = S.Gate := by
  funext j g
  refine propext ⟨?_, ?_⟩
  · rintro ⟨u, hu, hg⟩
    obtain ⟨u₀, hu₀, -, hgates, -⟩ := h.back hu
    exact ⟨u₀, hu₀, hgates ▸ hg⟩
  · rintro ⟨u, hu, hg⟩
    obtain ⟨u', hu', -, hgates⟩ := h.forth hu
    exact ⟨u', hu', hgates ▸ hg⟩

theorem behind (h : Moved S i t stage S') : S'.Behind = S.Behind := congrArg TransGen h.gate

theorem awaits (h : Moved S i t stage S') (hc : S'.Awaits none n c) : S.Awaits none n c := by
  obtain ⟨j, u, hu, hjob, hlive, hbehind⟩ := awaits_none.mp hc
  obtain ⟨u₀, hu₀, hjob₀, -, hlive₀⟩ := h.back hu
  rw [h.behind] at hbehind
  exact awaits_none.mpr ⟨j, u₀, hu₀, hjob₀ ▸ hjob, hlive₀ hlive, hbehind⟩

/-- An activation goes on as long as something that it waits for is live. -/
theorem awaits_of_live (h : Moved S i t stage S') (hgated : Gated S)
    (hharmless : S.Harmless i t stage) {u : Task Job HookRun} (hu : S.task? c = some u)
    (hlive : u.stage.isLive = true) (hc : S.Awaits none n c) : S'.Awaits none n c := by
  obtain ⟨k, v, hv, hjob, hvlive, hbehind⟩ := awaits_none.mp hc
  have hbehind' : S'.Behind k c := h.behind ▸ hbehind
  by_cases hk : k = i
  · subst hk
    obtain rfl : t = v := Option.some.inj (h.found.symm.trans hv)
    rcases hharmless with hlive' | ⟨-, hfree⟩ | ⟨⟨b, hconfirm⟩, -⟩
    · exact awaits_none.mpr ⟨k, _, h.self, hjob, hlive', hbehind'⟩
    · exact absurd (hgated.completed_behind hv hfree hbehind) (not_completed_of_live hu hlive)
    · rw [hconfirm] at hjob
      exact absurd (Option.some.inj hjob).symm Direction.job_ne_confirm
  · exact awaits_none.mpr ⟨k, v, (h.other hk).trans hv, hjob, hvlive, hbehind'⟩

theorem lowers_iff (h : Moved S i t stage S') : S'.Lowers j ↔ S.Lowers j := by
  constructor
  · rintro ⟨u, hu, k, hk⟩
    obtain ⟨u₀, hu₀, hjob, -⟩ := h.back hu
    exact ⟨u₀, hu₀, k, hjob ▸ hk⟩
  · rintro ⟨u, hu, k, hk⟩
    obtain ⟨u', hu', hjob, -⟩ := h.forth hu
    exact ⟨u', hu', k, hjob ▸ hk⟩

/-- Nothing goes wrong with a harmless move, except where nobody waits for a confirmation. -/
theorem sound (h : Moved S i t stage S') (hharmless : S.Harmless i t stage) (hc : S.Sound c)
    (hawaited : c = i → (∃ m, t.job = some (.confirm m)) → ∃ n, S.Awaits none n i) :
    S'.Sound c := by
  obtain ⟨u, hu, hsound⟩ := hc
  by_cases hc : c = i
  · subst hc
    refine ⟨_, h.self, ?_⟩
    rcases hharmless with hlive | ⟨rfl, -⟩ | ⟨hconfirm, hnobody⟩
    · exact .inl hlive
    · exact .inr rfl
    · obtain ⟨n, hn⟩ := hawaited rfl hconfirm
      exact absurd hn (hnobody n)
  · exact ⟨u, (h.other hc).trans hu, hsound⟩

end Moved

theorem moved_stand (hgraph : SameGraph S T) (htask : T.task? = S.task?)
    (halive : T.isAlive = S.isAlive) (hshutdown : T.isShutdown = S.isShutdown)
    (ht : S.task? i = some t) (hlive : t.stage.isLive = true) (stage : Stage HookRun) :
    Moved S i t stage (T.stand i t stage) where
  graph := ⟨hgraph.find?, hgraph.id, hgraph.descriptors, hgraph.properties⟩
  isAlive := halive
  isShutdown := hshutdown
  found := ht
  isLive := hlive
  task? := fun j => by rw [task?_stand, htask]

/-- A harmless move keeps the invariant if no service begins or ceases to be active with it. -/
theorem Convergent.moved (h : Convergent S none) (hgated : Gated S) {stage : Stage HookRun}
    (hmoved : Moved S i t stage S') (hharmless : S.Harmless i t stage)
    (hactive : ∀ m, (S'.service m).state.isActive = (S.service m).state.isActive)
    (henabling : ∀ m, (S'.service m).state = .enabling →
      (S.service m).state = .enabling ∧ (S'.service m).transition = (S.service m).transition)
    (hpast : ∀ g ∈ stage.unpassed t.gates, g ∈ t.gates)
    (hunfailed : ∀ wake run, stage = .running wake run →
      ∀ failure, run.purpose ≠ .cleanup failure) : Convergent S' none := by
  have hrefers : S'.Refers = S.Refers := hmoved.graph.refers
  exact {
    isAlive := hmoved.isAlive.trans h.isAlive
    isOpen := hmoved.isShutdown.trans h.isOpen
    tidy j u hu := by
      by_cases hj : j = i
      · subst hj
        obtain rfl := Option.some.inj (hmoved.self.symm.trans hu)
        exact hpast
      · exact h.tidy j u (hmoved.other hj ▸ hu)
    unfailed j u wake run hu hrun := by
      by_cases hj : j = i
      · subst hj
        obtain rfl := Option.some.inj (hmoved.self.symm.trans hu)
        exact hunfailed wake run hrun
      · exact h.unfailed j u wake run (hmoved.other hj ▸ hu) hrun
    closed n hn y hy := by
      rw [hmoved.graph.references] at hy
      obtain ⟨m, hm, hup⟩ := h.closed n ((hactive n).symm.trans hn) y hy
      exact ⟨m, hmoved.graph.find? ▸ hm, (hactive m).trans hup⟩
    led j u n m hu hjob hlive hnm hstate := by
      obtain ⟨u₀, hu₀, hjob₀, -, hlive₀⟩ := hmoved.back hu
      obtain ⟨hstate₀, htransition⟩ := henabling m hstate
      rw [hrefers] at hnm
      obtain ⟨k, hk, hbehind⟩ := h.led j u₀ n m hu₀ (hjob₀ ▸ hjob) (hlive₀ hlive) hnm hstate₀
      exact ⟨k, htransition.trans hk, hmoved.behind ▸ hbehind⟩
    sheltered c u m hu hjob hlive n hn := by
      obtain ⟨u₀, hu₀, hjob₀, -, hlive₀⟩ := hmoved.back hu
      obtain ⟨⟨a, ha, hneeds⟩, hup, hbehind⟩ :=
        h.sheltered c u₀ m hu₀ (hjob₀ ▸ hjob) (hlive₀ hlive) n (hmoved.awaits hn)
      have ha' := hmoved.awaits_of_live hgated hharmless hu₀ (hlive₀ hlive) ha
      refine ⟨⟨a, ha', hrefers ▸ hneeds⟩, (hactive m).trans hup, fun hstate => ?_⟩
      obtain ⟨hstate₀, htransition⟩ := henabling m hstate
      obtain ⟨k, hk, hck⟩ := hbehind hstate₀
      exact ⟨k, htransition.trans hk, hmoved.behind ▸ hck⟩
    intact n c hc := by
      have hc := hmoved.awaits hc
      exact hmoved.sound hharmless (h.intact n c hc) fun heq _ => ⟨n, heq ▸ hc⟩
    lowered j hj g hg := by
      rw [hmoved.gate] at hg
      exact hmoved.lowers_iff.mpr (h.lowered j (hmoved.lowers_iff.mp hj) g hg)
    settled j u d n hu hjob := by
      obtain ⟨u₀, hu₀, hjob₀, -, -⟩ := hmoved.back hu
      refine hmoved.sound hharmless (h.settled j u₀ d n hu₀ (hjob₀ ▸ hjob)) fun heq hconfirm => ?_
      obtain ⟨m, hm⟩ := hconfirm
      obtain rfl : u₀ = t := Option.some.inj ((heq ▸ hu₀).symm.trans hmoved.found)
      rw [← hjob₀, hjob] at hm
      exact absurd (Option.some.inj hm) Direction.job_ne_confirm }

/-- A hook that falls asleep goes on with what it was called for. -/
theorem Convergent.asleep {promise : Promise} (h : Convergent S promise)
    (ht : S.task? i = some t) {purpose : Purpose} {before after rest : List JournalEntry}
    {time : Option Nat} {run : HookRun} (hcalled : S.Called t n purpose before)
    (hooked : Hooked S.cleansUp n purpose after (.sleeps time run) none) (hpeaceful : Peaceful S')
    (hjournal : (S'.service n).journal = after ++ rest) :
    run.purpose = purpose ∧ ∀ failure, run.purpose ≠ .cleanup failure := by
  have hpurpose := hcalled.purpose (h.unfailed i t · · ht)
  rcases hooked.smooth hpurpose (hpeaceful.not_returned hjournal) with
    ⟨_, _, hturn, -, heq⟩ | ⟨_, hturn, -⟩ | ⟨hturn, -⟩
  · obtain ⟨-, rfl⟩ := Turn.sleeps.inj hturn
    exact ⟨heq, heq ▸ hpurpose⟩
  · cases hturn
  · cases hturn

/-- The moves of tasks keep the invariant as long as no hook fails or panics. -/
theorem Convergent.step (h : Convergent S none) (horderly : Orderly S)
    (change : Change S (.task i) S') (hpeaceful : Peaceful S') : Convergent S' none := by
  have hgated := horderly.gated
  have hstand : ∀ {t : Task Job HookRun}, S.task? i = some t → t.stage.isLive = true →
      ∀ stage, Moved S i t stage (S.stand i t stage) :=
    fun ht hlive => moved_stand (.refl S) rfl rfl rfl ht hlive
  cases change with
  | @advances _ t stage ht hadvances =>
    obtain ⟨hlive, hlive', -⟩ := hadvances.unpassed
    refine h.moved hgated (hstand ht hlive stage) (.inl hlive') (fun _ => rfl)
      (fun _ hm => ⟨hm, rfl⟩) ?_ ?_
    · cases hadvances with
      | enters => exact fun g hg => hg
      | passes hstage =>
        exact fun g hg => h.tidy i t ht g (by rw [hstage]; exact List.mem_cons_of_mem _ hg)
      | lines => exact fun g hg => by cases hg
    · rintro wake run rfl
      cases hadvances
  | @sleeps _ t n purpose before after time wake run ht hcalled hooked =>
    -- the service stays as it is, but for what is written down
    have hservice : ∀ m, ∃ entries, (S.put n ((S.service n).recordAll (after ++ before))).service m
        = (S.service m).recordAll entries := by
      intro m
      rw [service_put]
      split
      · next heq => exact heq ▸ ⟨_, rfl⟩
      · exact ⟨[], rfl⟩
    have hjournal : ((S.put n ((S.service n).recordAll (after ++ before))).service n).journal =
        after ++ (before ++ (S.service n).journal) := by
      rw [service_put_self, Service.recordAll, List.append_assoc]
    obtain ⟨-, hunfailed⟩ := h.asleep ht hcalled hooked hpeaceful hjournal
    have hmoved := moved_stand (T := S.put n ((S.service n).recordAll (after ++ before)))
      (.put S rfl rfl rfl) rfl rfl rfl ht (Stage.isLive_of_isFree hcalled.isFree) (.running wake run)
    refine h.moved hgated hmoved (.inl rfl) (fun m => ?_) (fun m hm => ?_)
      (fun g hg => by cases hg) fun wake' run' hrun => ?_
    · obtain ⟨entries, heq⟩ := hservice m
      rw [toOutline_stand, heq]
      rfl
    · obtain ⟨entries, heq⟩ := hservice m
      rw [toOutline_stand, heq] at hm ⊢
      exact ⟨hm, rfl⟩
    · obtain ⟨-, rfl⟩ := Stage.running.inj hrun
      exact hunfailed
  | @concludes _ t n entries state fault ending ht hconcludes =>
    obtain ⟨d, hjob, hfree, rfl, rfl, rfl⟩ := h.completes horderly ht hconcludes hpeaceful
      (congrArg Service.journal (service_put_self S n _)) (by rw [task?_stand, if_pos rfl])
    have hlive := Stage.isLive_of_isFree hfree
    have hvia := (horderly.owned.held i t d n ht hjob hlive).1
    have hservice := fun m => service_put S n m (((S.service n).recordAll entries).settle d.goal none)
    have hmoved := moved_stand (T := S.put n (((S.service n).recordAll entries).settle d.goal none))
      (.put S rfl rfl rfl) rfl rfl rfl ht hlive (.ended .completed)
    refine h.moved hgated hmoved (.inr (.inl ⟨rfl, hfree⟩)) (fun m => ?_) (fun m hm => ?_)
      (fun g hg => by cases hg) (fun _ _ hrun => by cases hrun)
    · rw [toOutline_stand, hservice]
      split
      · next heq =>
        rw [heq, hvia]
        cases d <;> rfl
      · rfl
    · rw [toOutline_stand, hservice] at hm ⊢
      split at hm
      · cases d <;> cases hm
      · next hne => exact ⟨hm, by rw [if_neg hne]⟩
  | @confirms _ t n ht hstage =>
    have hfree : t.stage.isFree = true := by rw [hstage]; rfl
    exact h.moved hgated (hstand ht (Stage.isLive_of_isFree hfree) _) (.inr (.inl ⟨rfl, hfree⟩))
      (fun _ => rfl) (fun _ hm => ⟨hm, rfl⟩) (fun g hg => by cases hg)
      (fun _ _ hrun => by cases hrun)
  | @denies _ t n ending ht hlive hjob hwhy hne =>
    have hnobody : ∀ a, ¬ S.Awaits none a i :=
      fun a ha => h.confirmed horderly ht hjob hlive ha hwhy
    refine h.moved hgated (hstand ht hlive _) (.inr (.inr ⟨⟨n, hjob⟩, hnobody⟩)) (fun _ => rfl)
      (fun _ hm => ⟨hm, rfl⟩) (fun g hg => ?_) (fun _ _ hrun => by cases hrun)
    rwa [Stage.unpassed_ended _ hne] at hg
  | drops _ _ hdead =>
    rw [h.isAlive] at hdead
    cases hdead

/-! ## Edits -/

theorem Convergent.active_of_refers {promise : Promise} (h : Convergent S promise)
    (hn : (S.service n).state.isActive = true) (hnm : S.Refers n m) :
    (S.service m).state.isActive = true := by
  obtain ⟨y, hy, hm⟩ := hnm
  obtain ⟨m', hm', hup⟩ := h.closed n hn y hy
  exact Option.some.inj (hm'.symm.trans hm) ▸ hup

theorem Convergent.active_of_needs {promise : Promise} (h : Convergent S promise)
    (hn : (S.service n).state.isActive = true) (hneeds : ReflTransGen S.Refers n m) :
    (S.service m).state.isActive = true := by
  induction hneeds with
  | refl => exact hn
  | tail _ hstep ih => exact h.active_of_refers ih hstep

/-- The invariant stays where active services and their names stay, and nothing else becomes
active. -/
theorem Convergent.around (h : Convergent S none) (howned : Owned S)
    (htask : S'.task? = S.task?) (halive : S'.isAlive = S.isAlive)
    (hshutdown : S'.isShutdown = S.isShutdown)
    (hkeep : ∀ n, (S.service n).state.isActive = true ∨ (S'.service n).state.isActive = true →
      (S'.service n).state = (S.service n).state ∧
      (S'.service n).transition = (S.service n).transition ∧
      (S'.service n).references = (S.service n).references)
    (hfind : ∀ y m, S.find? y = some m → (S.service m).state.isActive = true →
      S'.find? y = some m) : Convergent S' none := by
  have hgate : S'.Gate = S.Gate := by
    unfold Gate
    rw [htask]
  have hbehind : ∀ i j, S'.Behind i j ↔ S.Behind i j := by
    intro i j
    unfold Behind
    rw [hgate]
  have hawaits : ∀ n c, S'.Awaits none n c ↔ S.Awaits none n c := by
    intro n c
    simp only [awaits_none, htask, hbehind]
  have hsound : ∀ c, S'.Sound c ↔ S.Sound c := by
    intro c
    unfold Sound
    rw [htask]
  have hlowers : ∀ i, S'.Lowers i ↔ S.Lowers i := by
    intro i
    unfold Lowers
    rw [htask]
  -- an active service refers to the same ones as before
  have hrefers : ∀ n m, (S.service n).state.isActive = true → (S'.Refers n m ↔ S.Refers n m) := by
    intro n m hn
    obtain ⟨-, -, hrefs⟩ := hkeep n (.inl hn)
    unfold Refers
    rw [hrefs]
    refine exists_congr fun y => and_congr_right fun hy => ?_
    obtain ⟨k, hk, hup⟩ := h.closed n hn y hy
    rw [hfind y k hk hup, hk]
  have hneeds : ∀ n m, ReflTransGen S.Refers n m → (S.service n).state.isActive = true →
      ReflTransGen S'.Refers n m := by
    intro n m hneeds
    induction hneeds using ReflTransGen.head_induction_on with
    | refl => exact fun _ => .refl
    | head hnk _ ih =>
      exact fun hn => .head ((hrefers _ _ hn).mpr hnk) (ih (h.active_of_refers hn hnk))
  have hrising : ∀ i t n, S.task? i = some t → t.job = some (Direction.up.job n) →
      t.stage.isLive = true → (S.service n).state.isActive = true :=
    fun i t n ht hjob hlive => isActive_of_enabling (howned.held i t .up n ht hjob hlive).1
  exact {
    isAlive := halive.trans h.isAlive
    isOpen := hshutdown.trans h.isOpen
    tidy := htask ▸ h.tidy
    unfailed := htask ▸ h.unfailed
    closed n hn y hy := by
      obtain ⟨hstate, -, hrefs⟩ := hkeep n (.inr hn)
      rw [hstate] at hn
      rw [hrefs] at hy
      obtain ⟨m, hm, hup⟩ := h.closed n hn y hy
      exact ⟨m, hfind y m hm hup, (hkeep m (.inl hup)).1 ▸ hup⟩
    led i t n m ht hjob hlive hnm hstate := by
      rw [htask] at ht
      have hnm := (hrefers n m (hrising i t n ht hjob hlive)).mp hnm
      obtain ⟨hsame, htransition, -⟩ := hkeep m (.inr (isActive_of_enabling hstate))
      obtain ⟨j, hj, hij⟩ := h.led i t n m ht hjob hlive hnm (hsame ▸ hstate)
      exact ⟨j, htransition.trans hj, (hbehind i j).mpr hij⟩
    sheltered c t m ht hjob hlive n hn := by
      rw [htask] at ht
      obtain ⟨⟨a, ha, ham⟩, hup, hwaits⟩ := h.sheltered c t m ht hjob hlive n ((hawaits n c).mp hn)
      obtain ⟨hsame, htransition, -⟩ := hkeep m (.inl hup)
      refine ⟨⟨a, (hawaits a c).mpr ha, hneeds a m ham ?_⟩, hsame ▸ hup, fun hstate => ?_⟩
      · obtain ⟨i, u, hu, hujob, hulive, -⟩ := awaits_none.mp ha
        exact hrising i u a hu hujob hulive
      · obtain ⟨j, hj, hcj⟩ := hwaits (hsame ▸ hstate)
        exact ⟨j, htransition.trans hj, (hbehind c j).mpr hcj⟩
    intact n c hc := (hsound c).mpr (h.intact n c ((hawaits n c).mp hc))
    lowered i hi g hg := by
      rw [hgate] at hg
      exact (hlowers g).mpr (h.lowered i ((hlowers i).mp hi) g hg)
    settled i t d n ht hjob := (hsound i).mpr (h.settled i t d n (htask ▸ ht) hjob) }

/-- Edits keep the invariant: they do not touch what is active. -/
theorem Convergent.edit (h : Convergent S none) (horderly : Orderly S)
    (change : Change S .edit S') : Convergent S' none := by
  -- an edit of a service that is and stays down
  have hput : ∀ {k : Incarnation} {s : Service}, (S.service k).state = .disabled →
      s.state = .disabled → ∀ n, (S.service n).state.isActive = true ∨
        ((S.put k s).service n).state.isActive = true → (S.put k s).service n = S.service n := by
    intro k s hk hs n hn
    rw [service_put] at hn ⊢
    split
    · next heq =>
      rw [if_pos heq, heq, hk, hs] at hn
      rcases hn with hn | hn <;> cases hn
    · rfl
  cases change with
  | appears id typeName descriptors behaviour isRegistered hnew hfree =>
    refine h.around horderly.owned rfl rfl rfl (fun n hn => ?_)
      fun y m hm _ => find?_appear hfree hm
    have hne : n ≠ S.size := by
      rintro rfl
      rw [hnew, service_appear_self] at hn
      rcases hn with hn | hn <;> cases hn
    rw [service_appear_of_ne hne]
    exact ⟨rfl, rfl, rfl⟩
  | @edits k properties hfind hdown =>
    refine h.around horderly.owned rfl rfl rfl (fun n hn => ?_) fun y m hm _ => hm
    have heq := hput (s := { S.service k with properties }) hdown hdown n hn
    rw [show (S.edit k properties).service n = S.service n from heq]
    exact ⟨rfl, rfl, rfl⟩
  | @removes k hfind hdown =>
    refine h.around horderly.owned rfl rfl rfl (fun n hn => ?_) fun y m hm hup => ?_
    · have heq := hput (s := { S.service k with removed := true }) hdown hdown n hn
      rw [show (S.remove k).service n = S.service n from heq]
      exact ⟨rfl, rfl, rfl⟩
    · refine find?_remove hm fun heq => ?_
      obtain rfl : m = k := Option.some.inj (hm.symm.trans (heq ▸ hfind))
      rw [hdown] at hup
      cases hup
  | @blames k message =>
    refine h.around horderly.owned rfl rfl rfl (fun n _ => ?_) fun y m hm _ => hm
    rw [service_put]
    split
    · next heq => exact heq ▸ ⟨rfl, rfl, rfl⟩
    · exact ⟨rfl, rfl, rfl⟩

/-! ## New tasks -/

/-- What is seen to when a task is taken in, for chains to run to their end. -/
structure Furthers (S : Scene) (promise : Promise) (gates : List TaskId) (job : Job) (S' : Scene)
    (promise' : Promise) : Prop where
  known : ∀ g ∈ gates, g < S.submitted
  closed : ∀ n, (S'.service n).state.isActive = true → ∀ y ∈ (S.service n).references,
    ∃ m, S.find? y = some m ∧ (S'.service m).state.isActive = true
  /-- No service that is needed ceases to be active. -/
  active : ∀ c m, S.Sheltered promise c m → (S'.service m).state.isActive = true
  rising : ∀ m, (S'.service m).state = .enabling →
    (S.service m).state = .enabling ∧ (S'.service m).transition = (S.service m).transition ∨
      (S.service m).state = .disabled
  led : ∀ n m, job = Direction.up.job n → S.Refers n m → (S'.service m).state = .enabling →
    ∃ j, (S'.service m).transition = some j ∧ S.Covers gates j
  lowered : ∀ n, job = Direction.down.job n → ∀ g ∈ gates, S.Lowers g
  /-- A promise is kept by the new task, or passed on to it. -/
  kept : ∀ n l, promise = some (n, l) →
    l ∈ gates ∧ (promise' = some (n, S.submitted) ∨ job = Direction.up.job n)
  /-- A claim waits for nothing but what was promised. -/
  claimed : ∀ n, job = Direction.up.job n → ∀ g ∈ gates, ∃ a, promise = some (a, g)
  /-- The new task waits for what was promised, or for activations. -/
  promised : ∀ n l, promise' = some (n, l) → l = S.submitted ∧ ∀ g ∈ gates,
    (∃ a, promise = some (a, g)) ∨
      ∃ m, (S.service m).state = .enabling ∧ (S.service m).transition = some g
  /-- What the new task has to confirm is needed, and it waits until that is up. -/
  confirmed : ∀ m n l, job = .confirm m → promise' = some (n, l) → ReflTransGen S.Refers n m ∧
    (S'.service m).state.isActive = true ∧
    ((S'.service m).state = .enabling → ∃ j, (S'.service m).transition = some j ∧ j ∈ gates)

/-- The task of an activation has not ended, or has completed. -/
theorem Convergent.task_of_enabling {promise : Promise} (h : Convergent S promise)
    (howned : Owned S) (hstate : (S.service m).state = .enabling)
    (hi : (S.service m).transition = some i) :
    ∃ t, S.task? i = some t ∧ t.job = some (Direction.up.job m) ∧ t.stage.isLive = true := by
  obtain ⟨j, t, hj, ht, hjob, -⟩ := howned.holds m .up hstate
  obtain rfl : i = j := Option.some.inj (hi.symm.trans hj)
  obtain ⟨u, hu, hsound⟩ := h.settled i t .up m ht hjob
  obtain rfl : t = u := Option.some.inj (ht.symm.trans hu)
  refine ⟨t, ht, hjob, hsound.resolve_right fun hcompleted => ?_⟩
  exact howned.not_completed (d := .up) hstate hi ⟨t, ht, hcompleted⟩

/-- A task is taken in, and services keep their names and references. -/
structure Taken (S : Scene) (name : String) (gates : List TaskId) (job : Job) (S' : Scene) :
    Prop where
  graph : SameGraph S S'
  isAlive : S'.isAlive = S.isAlive
  isShutdown : S'.isShutdown = S.isShutdown
  task? : S'.task? = (S.push name gates job).task?

namespace Taken

variable {name : String} {gates : List TaskId} {job : Job}

theorem self (h : Taken S name gates job S') :
    S'.task? S.submitted = some (S.newcomer name gates job) := by
  rw [h.task?, task?_push, if_pos rfl]

theorem other (h : Taken S name gates job S') (hi : i ≠ S.submitted) :
    S'.task? i = S.task? i := by
  rw [h.task?, task?_push, if_neg hi]

theorem keep (h : Taken S name gates job S') (hgated : Gated S) (ht : S.task? i = some t) :
    S'.task? i = some t := (h.other (Nat.ne_of_lt (hgated.known i t ht))).trans ht

/-- A task is the new one or was there before. -/
theorem back (h : Taken S name gates job S') (ht : S'.task? i = some t) :
    i = S.submitted ∧ t = S.newcomer name gates job ∨ S.task? i = some t := by
  by_cases hi : i = S.submitted
  · exact .inl ⟨hi, Option.some.inj (ht.symm.trans (hi ▸ h.self))⟩
  · exact .inr (h.other hi ▸ ht)

theorem gate (h : Taken S name gates job S') : S'.Gate = (S.push name gates job).Gate := by
  unfold Gate
  rw [h.task?]

/-- What is behind what does not change for the tasks that were there before. -/
theorem behind (h : Taken S name gates job S') (hgated : Gated S) (ht : S.task? i = some t) :
    S'.Behind i j ↔ S.Behind i j := by
  unfold Behind
  rw [h.gate]
  exact hgated.behind_push (hgated.known i t ht) name gates job

theorem covers (h : Taken S name gates job S') (hgated : Gated S)
    (hknown : ∀ g ∈ gates, g < S.submitted) : S'.Behind S.submitted j ↔ S.Covers gates j := by
  unfold Behind
  rw [h.gate]
  exact hgated.behind_new hknown

theorem sound (h : Taken S name gates job S') (hgated : Gated S) (hc : S.Sound c) :
    S'.Sound c := by
  obtain ⟨t, ht, hsound⟩ := hc
  exact ⟨t, h.keep hgated ht, hsound⟩

end Taken

section Push

variable {promise promise' : Promise} {name : String} {gates : List TaskId} {job : Job}

/-- Whatever is awaited was awaited before, or is the new task or that of an activation. -/
theorem Convergent.awaits_back (h : Convergent S promise) (horderly : Orderly S)
    (hnew : Furthers S promise gates job S' promise') (htaken : Taken S name gates job S')
    (hc : S'.Awaits promise' n c) :
    (∃ a, S.Awaits promise a c) ∨ (c = S.submitted ∧ ∃ l, promise' = some (n, l)) ∨
      ∃ t m, S.task? c = some t ∧ t.job = some (Direction.up.job m) := by
  have hgated := horderly.gated
  rcases hc with ⟨i, t, ht, hjob, hlive, hic⟩ | ⟨l, hl, hlc⟩
  · left
    rcases htaken.back ht with ⟨rfl, rfl⟩ | ht
    · obtain ⟨g, hg, hgc⟩ := (htaken.covers hgated hnew.known).mp hic
      obtain ⟨a, ha⟩ := hnew.claimed n (Option.some.inj hjob) g hg
      exact ⟨a, .inr ⟨g, ha, hgc⟩⟩
    · exact ⟨n, .inl ⟨i, t, ht, hjob, hlive, (htaken.behind hgated ht).mp hic⟩⟩
  · obtain ⟨rfl, hgates⟩ := hnew.promised n l hl
    rcases ReflTransGen.cases_head hlc with rfl | hlc
    · exact .inr (.inl ⟨rfl, _, hl⟩)
    · obtain ⟨g, hg, hgc⟩ := (htaken.covers hgated hnew.known).mp (TransGen.head'_iff.mpr hlc)
      rcases hgates g hg with ⟨a, ha⟩ | ⟨m, hstate, hm⟩
      · exact .inl ⟨a, .inr ⟨g, ha, hgc⟩⟩
      · obtain ⟨t, ht, hjob, hlive⟩ := h.task_of_enabling horderly.owned hstate hm
        rcases ReflTransGen.cases_head hgc with rfl | hgc
        · exact .inr (.inr ⟨t, m, ht, hjob⟩)
        · exact .inl ⟨m, .inl ⟨g, t, ht, hjob, hlive, TransGen.head'_iff.mpr hgc⟩⟩

/-- Whatever was awaited still is: the new task keeps the promise or passes it on. -/
theorem Furthers.awaits (hnew : Furthers S promise gates job S' promise')
    (hgated : Gated S) (halive : S.isAlive = true) (htaken : Taken S name gates job S')
    (hc : S.Awaits promise n c) : S'.Awaits promise' n c := by
  rcases hc with ⟨i, t, ht, hjob, hlive, hic⟩ | ⟨l, hl, hlc⟩
  · exact .inl ⟨i, t, htaken.keep hgated ht, hjob, hlive, (htaken.behind hgated ht).mpr hic⟩
  · obtain ⟨hin, hkept⟩ := hnew.kept n l hl
    have hbehind : S'.Behind S.submitted c := (htaken.covers hgated hnew.known).mpr ⟨l, hin, hlc⟩
    rcases hkept with hpromise | hjob
    · exact .inr ⟨_, hpromise, TransGen.to_reflTransGen hbehind⟩
    · refine .inl ⟨_, _, htaken.self, congrArg some hjob, ?_, hbehind⟩
      rw [newcomer_queued halive]
      rfl

/-- What has to be confirmed for an activation is sheltered after a task was taken in. -/
theorem Convergent.sheltered_push (h : Convergent S promise) (horderly : Orderly S)
    (hnew : Furthers S promise gates job S' promise') (htaken : Taken S name gates job S')
    (ht : S'.task? c = some t) (hjob : t.job = some (.confirm m)) (hlive : t.stage.isLive = true)
    (hn : S'.Awaits promise' n c) : S'.Sheltered promise' c m := by
  have hgated := horderly.gated
  have hrefers : S'.Refers = S.Refers := htaken.graph.refers
  have hback := h.awaits_back horderly hnew htaken hn
  rcases htaken.back ht with ⟨rfl, rfl⟩ | ht
  · -- nobody but the one who is promised to waits for the new task
    rcases hback with ⟨a, ha⟩ | ⟨-, l, hl⟩ | ⟨u, k, hu, -⟩
    · obtain ⟨u, hu, -⟩ := h.intact a _ ha
      exact absurd (hgated.known _ u hu) (Nat.lt_irrefl _)
    · obtain ⟨hneeds, hup, hwaits⟩ := hnew.confirmed m n l (Option.some.inj hjob) hl
      refine ⟨⟨n, hn, hrefers ▸ hneeds⟩, hup, fun hstate => ?_⟩
      obtain ⟨j, hj, hin⟩ := hwaits hstate
      exact ⟨j, hj, (htaken.covers hgated hnew.known).mpr ⟨j, hin, .refl⟩⟩
    · exact absurd (hgated.known _ u hu) (Nat.lt_irrefl _)
  · rcases hback with ⟨a, ha⟩ | ⟨rfl, -⟩ | ⟨u, k, hu, hk⟩
    · have hshelter := h.sheltered c t m ht hjob hlive a ha
      obtain ⟨b, hb, hneeds⟩ := hshelter.needed
      have hb := hnew.awaits hgated h.isAlive htaken hb
      refine ⟨⟨b, hb, hrefers ▸ hneeds⟩, hnew.active c m hshelter, fun hstate => ?_⟩
      rcases hnew.rising m hstate with ⟨hbefore, htransition⟩ | hdown
      · obtain ⟨j, hj, hcj⟩ := hshelter.behind hbefore
        exact ⟨j, htransition.trans hj, (htaken.behind hgated ht).mpr hcj⟩
      · have hup := hshelter.active
        rw [hdown] at hup
        cases hup
    · exact absurd (hgated.known _ t ht) (Nat.lt_irrefl _)
    · obtain rfl : t = u := Option.some.inj (ht.symm.trans hu)
      rw [hjob] at hk
      exact absurd (Option.some.inj hk).symm Direction.job_ne_confirm

/-- A task that is taken in with an eye to the invariant keeps it. -/
theorem Convergent.push (h : Convergent S promise) (horderly : Orderly S)
    (hnew : Furthers S promise gates job S' promise') (htaken : Taken S name gates job S') :
    Convergent S' promise' := by
  have hgated := horderly.gated
  have hqueued := newcomer_queued h.isAlive name gates job
  have hfresh : S'.Sound S.submitted := ⟨_, htaken.self, .inl (by rw [hqueued]; rfl)⟩
  exact {
    isAlive := htaken.isAlive.trans h.isAlive
    isOpen := htaken.isShutdown.trans h.isOpen
    tidy i t ht := by
      rcases htaken.back ht with ⟨rfl, rfl⟩ | ht
      · rw [hqueued]
        exact fun g hg => hg
      · exact h.tidy i t ht
    unfailed i t wake run ht hrun := by
      rcases htaken.back ht with ⟨rfl, rfl⟩ | ht
      · rw [hqueued] at hrun
        cases hrun
      · exact h.unfailed i t wake run ht hrun
    closed n hn y hy := by
      rw [htaken.graph.references] at hy
      rw [htaken.graph.find?]
      exact hnew.closed n hn y hy
    led i t n m ht hjob hlive hnm hstate := by
      rw [htaken.graph.refers] at hnm
      rcases htaken.back ht with ⟨rfl, rfl⟩ | ht
      · obtain ⟨j, hj, hcovered⟩ := hnew.led n m (Option.some.inj hjob) hnm hstate
        exact ⟨j, hj, (htaken.covers hgated hnew.known).mpr hcovered⟩
      · rcases hnew.rising m hstate with ⟨hbefore, htransition⟩ | hdown
        · obtain ⟨j, hj, hij⟩ := h.led i t n m ht hjob hlive hnm hbefore
          exact ⟨j, htransition.trans hj, (htaken.behind hgated ht).mpr hij⟩
        · -- what an active service refers to was active already
          have hn := isActive_of_enabling (horderly.owned.held i t .up n ht hjob hlive).1
          have hm := h.active_of_refers hn hnm
          rw [hdown] at hm
          cases hm
    sheltered c t m ht hjob hlive n := h.sheltered_push horderly hnew htaken ht hjob hlive
    intact n c hn := by
      rcases h.awaits_back horderly hnew htaken hn with ⟨a, ha⟩ | ⟨rfl, -⟩ | ⟨t, k, ht, hk⟩
      · exact htaken.sound hgated (h.intact a c ha)
      · exact hfresh
      · exact htaken.sound hgated (h.settled c t .up k ht hk)
    lowered := by
      rintro i ⟨t, ht, k, hk⟩ g hg
      have hlower : S.Lowers g := by
        rw [htaken.gate, gate_push] at hg
        rcases htaken.back ht with ⟨rfl, rfl⟩ | ht
        · rw [if_pos rfl] at hg
          exact hnew.lowered k (Option.some.inj hk) g hg
        · rw [if_neg (Nat.ne_of_lt (hgated.known i t ht))] at hg
          exact h.lowered i ⟨t, ht, k, hk⟩ g hg
      obtain ⟨u, hu, hlower⟩ := hlower
      exact ⟨u, htaken.keep hgated hu, hlower⟩
    settled i t d n ht hjob := by
      rcases htaken.back ht with ⟨rfl, rfl⟩ | ht
      · exact hfresh
      · exact htaken.sound hgated (h.settled i t d n ht hjob) }

end Push

/-- A task that confirms a service may be taken in, and be promised if the service is needed
and the task waits until it is up. -/
theorem Convergent.join {promise promise' : Promise} (h : Convergent S promise)
    (horderly : Orderly S) (name : String) {gates : List TaskId}
    (hknown : ∀ g ∈ gates, g < S.submitted)
    (hkept : ∀ n l, promise = some (n, l) → l ∈ gates ∧ promise' = some (n, S.submitted))
    (hpromised : ∀ n l, promise' = some (n, l) → l = S.submitted ∧ ∀ g ∈ gates,
      (∃ a, promise = some (a, g)) ∨
        ∃ m, (S.service m).state = .enabling ∧ (S.service m).transition = some g)
    (hconfirmed : ∀ n l, promise' = some (n, l) → ReflTransGen S.Refers n m ∧
      (S.service m).state.isActive = true ∧
      ((S.service m).state = .enabling → ∃ j, (S.service m).transition = some j ∧ j ∈ gates)) :
    Convergent (S.push name gates (.confirm m)) promise' := by
  refine h.push horderly ?_ ⟨.push S name gates _, rfl, rfl, rfl⟩
  exact {
    known := hknown
    closed := h.closed
    active _ _ hshelter := hshelter.active
    rising _ hm := .inl ⟨hm, rfl⟩
    led n k hjob := absurd hjob.symm Direction.job_ne_confirm
    lowered n hjob := absurd hjob.symm Direction.job_ne_confirm
    kept n l hl := ⟨(hkept n l hl).1, .inl (hkept n l hl).2⟩
    claimed n hjob := absurd hjob.symm Direction.job_ne_confirm
    promised := hpromised
    confirmed := by
      rintro k n l hjob hl
      obtain rfl := Job.confirm.inj hjob
      exact hconfirmed n l hl }

/-- A service may be claimed for activation once all its references are active and its task
waits for their activations. -/
theorem Convergent.raise {promise promise' : Promise} (h : Convergent S promise)
    (horderly : Orderly S) (name : String) {gates : List TaskId}
    (hknown : ∀ g ∈ gates, g < S.submitted) (hdown : (S.service n).state = .disabled)
    (hclosed : ∀ y ∈ (S.service n).references,
      ∃ m, S.find? y = some m ∧ (S.service m).state.isActive = true)
    (hled : ∀ m, S.Refers n m → (S.service m).state = .enabling →
      ∃ j, (S.service m).transition = some j ∧ S.Covers gates j)
    (hkept : ∀ a l, promise = some (a, l) → l ∈ gates ∧ (promise' = some (a, S.submitted) ∨ a = n))
    (hclaimed : ∀ g ∈ gates, ∃ a, promise = some (a, g))
    (hpromised : ∀ a l, promise' = some (a, l) → l = S.submitted) :
    Convergent (S.claimed n .enabling name gates (.enable n)) promise' := by
  have hservice : ∀ m, (S.claimed n .enabling name gates (.enable n)).service m =
      if m = n then (S.service n).depart .enabling S.submitted else S.service m :=
    fun m => service_put (S.push name gates _) n m _
  have hup : ∀ m, (S.service m).state.isActive = true →
      ((S.claimed n .enabling name gates (.enable n)).service m).state.isActive = true := by
    intro m hm
    rw [hservice]
    split
    · rfl
    · exact hm
  refine h.push horderly ?_ ⟨.claimed S n _ name gates _, rfl, rfl, rfl⟩
  exact {
    known := hknown
    closed k hk y hy := by
      have hrefs : ∃ m, S.find? y = some m ∧ (S.service m).state.isActive = true := by
        rw [hservice] at hk
        split at hk
        · next heq => exact hclosed y (heq ▸ hy)
        · exact h.closed k hk y hy
      obtain ⟨m, hm, hactive⟩ := hrefs
      exact ⟨m, hm, hup m hactive⟩
    active _ m hshelter := hup m hshelter.active
    rising m hm := by
      rw [hservice] at hm ⊢
      split at hm
      · next heq => exact .inr (heq ▸ hdown)
      · next hne => exact .inl ⟨hm, by rw [if_neg hne]⟩
    led k m hjob hkm hm := by
      obtain ⟨-, rfl⟩ :=
        Direction.job_inj.mp (show Direction.up.job n = Direction.up.job k from hjob)
      have hne : m ≠ n := by
        rintro rfl
        obtain ⟨y, hy, hself⟩ := hkm
        obtain ⟨m', hm', hactive⟩ := hclosed y hy
        obtain rfl : m' = m := Option.some.inj (hm'.symm.trans hself)
        rw [hdown] at hactive
        cases hactive
      rw [hservice, if_neg hne] at hm ⊢
      exact hled m hkm hm
    lowered k hjob := by cases hjob
    kept a l hl := ⟨(hkept a l hl).1, (hkept a l hl).2.imp_right fun heq => by rw [heq]; rfl⟩
    claimed _ _ := hclaimed
    promised a l hl := ⟨hpromised a l hl, fun g hg => .inl (hclaimed g hg)⟩
    confirmed _ _ _ hjob := by cases hjob }

/-- No active service but itself refers to a service that may be claimed for deactivation. -/
theorem Orderly.alone_of_mayLeave (h : Orderly S) {gates : List TaskId}
    (hmay : S.MayLeave n gates .down) (hm : (S.service m).state.isActive = true)
    (href : S.Refers m n) : m = n := by
  obtain ⟨y, hy, hn⟩ := href
  by_contra hne
  have hhoused := h.named.housed m fun hdown => by rw [hdown] at hm; cases hm
  have hid := (h.named.own y n hn).1
  rcases hmay.2 _ m hhoused hne (hid.symm ▸ hy) with hdown | ⟨hdown, -⟩ <;>
  · rw [hdown] at hm
    cases hm

/-- No active service but itself needs a service that may be claimed for deactivation. -/
theorem Convergent.alone_of_mayLeave {promise : Promise} (h : Convergent S promise)
    (horderly : Orderly S) {gates : List TaskId} (hmay : S.MayLeave n gates .down)
    (hm : (S.service m).state.isActive = true) (hneeds : ReflTransGen S.Refers m n) : m = n := by
  induction hneeds using ReflTransGen.head_induction_on with
  | refl => rfl
  | head hmk _ ih =>
    obtain rfl := ih (h.active_of_refers hm hmk)
    exact horderly.alone_of_mayLeave hmay hm hmk

/-- Claims of services that are to go down keep the invariant: no active service needs them. -/
theorem Convergent.lower (h : Convergent S none) (horderly : Orderly S)
    (change : Change S (.claim .down) S') : Convergent S' none := by
  cases change with
  | @claims _ n name gates hfind hup hgates hmay =>
    generalize hT : S.claimed n Direction.down.via name gates (Direction.down.job n) = T
    have hself : T.service n = (S.service n).depart Direction.down.via S.submitted :=
      hT ▸ service_put_self (S.push name gates _) n _
    have hkeep : ∀ m, m ≠ n → T.service m = S.service m :=
      fun m hm => hT ▸ service_put_of_ne (S.push name gates _) _ hm
    have hgone : ∀ m, (T.service m).state.isActive = true → m ≠ n := by
      rintro m hm rfl
      rw [hself] at hm
      cases hm
    have htaken : Taken S name gates (Direction.down.job n) T :=
      hT ▸ ⟨.claimed S n _ name gates _, rfl, rfl, rfl⟩
    refine h.push horderly ?_ htaken
    exact {
      known := hgates
      closed k hk y hy := by
        have hne := hgone k hk
        rw [hkeep k hne] at hk
        obtain ⟨m, hm, hactive⟩ := h.closed k hk y hy
        refine ⟨m, hm, ?_⟩
        rw [hkeep m]
        · exact hactive
        · rintro rfl
          exact hne (horderly.alone_of_mayLeave hmay hk ⟨y, hy, hm⟩)
      active c m hshelter := by
        rw [hkeep m]
        · exact hshelter.active
        · -- an activation that needs the service would be that of the service itself
          rintro rfl
          obtain ⟨a, ha, hneeds⟩ := hshelter.needed
          obtain ⟨i, t, ht, hjob, hlive, -⟩ := awaits_none.mp ha
          have hstate := (horderly.owned.held i t .up a ht hjob hlive).1
          obtain rfl := h.alone_of_mayLeave horderly hmay (isActive_of_enabling hstate) hneeds
          rw [hup] at hstate
          cases hstate
      rising m hm := by
        have hne := hgone m (isActive_of_enabling hm)
        rw [hkeep m hne] at hm ⊢
        exact .inl ⟨hm, rfl⟩
      led k m hjob := by cases hjob
      lowered _ _ := hmay.1
      kept a l hl := by cases hl
      claimed k hjob := by cases hjob
      promised a l hl := by cases hl
      confirmed k a l hjob := by cases hjob }

end Scene

end ServiceLifecycle

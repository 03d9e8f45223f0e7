import ServiceLifecycle.Proofs.Closure

/-!
# Requests that are interrupted

A request to take services down looks at states, asks components whether they are running,
and only then claims services. While a component is asked others may get in, and what they
do is anything that may happen to a provider, other requests of this kind among it. Each
claim asks once more, under the lifecycle lock. As long as this is held nobody else claims
a service, so that the requests that others make then move none.

So such a request comes to what others do and then to its claims, and each claim makes sure
once more that nothing needs the service. Only a chain leaves out the services it counts
on taking down itself, and those that others have taken in the meantime it passes over.

* **parts** — the requests by what others do at which part (`Provider.disableAmid`,
  `Provider.disableReferrersAmid`);
* **runs** — what a provider may become where such requests are interrupted
  (`Provider.Unfolds`), as long as what others take does not matter to a chain
  (`Provider.Spares`);
* **order** — in all such runs services go down after those that refer to them
  (`Setup.dependents_down_first`), but not where a chain passes over a service that matters
  to it (`Setup.dependent_overtaken`).
-/

namespace ServiceLifecycle

open Relation

namespace Provider

variable {p q : Provider} {n : Incarnation} {outside inside : Interference}

/-! ## Parts -/

/-- Takes down a service. What others do while it is checked and what they do while it is
claimed are told apart. -/
def disableAmid (outside inside : Interference) (p : Provider) (id : ServiceId) :
    Except RequestError TaskId × Provider :=
  match p.registry.find? id with
  | none => (.error (.notFound id), p)
  | some n =>
    let state := (p.service n).state
    if state ≠ .enabled then
      (.error (.invalidState id s!"cannot disable a service that is {state.text}"), p)
    else
      match p.verifyNoActiveReferrers outside n [] with
      | (.error e, p) => (.error e, p)
      | (.ok (), p) =>
          match p.claimDown inside n [] none with
          | (.ok i, p) => (.ok i, p)
          | (.error refusal, p) => (.error (refusalError id refusal), p)

theorem disable_eq (between : Interference) (p : Provider) (id : ServiceId) :
    p.disable between id = p.disableAmid between between id := rfl

/-- Picks out the services that refer to `id`, directly or through others, and that are up,
and checks that no component needs one of them. -/
def selectReferrers (between : Interference) (p : Provider) (id : ServiceId) :
    Except RequestError (List Incarnation) × Provider :=
  match p.registry.find? id with
  | none => (.error (.notFound id), p)
  | some _ =>
    match p.selectEnabled ((p.registry.recursiveReferrers id).filterMap p.registry.find?) with
    | .error e => (.error e, p)
    | .ok targets =>
      match verifyNoneInUse between targets p with
      | (.error e, p) => (.error e, p)
      | (.ok (), p) => (.ok targets, p)

/-- Takes down every service that is up and refers to `id`. What others do while the services
are checked and what they do while these are claimed are told apart. -/
def disableReferrersAmid (outside inside : Interference) (p : Provider) (id : ServiceId) :
    Except RequestError (List ServiceId) × Provider :=
  match p.selectReferrers outside id with
  | (.error e, p) => (.error e, p)
  | (.ok targets, p) => p.claimTargets inside targets

theorem disableReferrers_eq (between : Interference) (p : Provider) (id : ServiceId) :
    p.disableReferrers between id = p.disableReferrersAmid between between id := by
  unfold disableReferrers disableReferrersAmid selectReferrers
  cases p.registry.find? id with
  | none => rfl
  | some _ =>
    dsimp only
    cases p.selectEnabled ((p.registry.recursiveReferrers id).filterMap p.registry.find?) with
    | error e => rfl
    | ok targets =>
      dsimp only
      obtain ⟨e | _, q⟩ := verifyNoneInUse between targets p <;> rfl

/-! ## Runs -/

/-- Others make requests by which no service changes its state. -/
def MovesNothing (inside : Interference) : Prop :=
  ∀ probe (p : Provider), ∃ requests : List Request,
    inside probe p = p.after (requests.map .request) ∧
      ∀ n, ((inside probe p).service n).state = (p.service n).state

theorem undisturbed_movesNothing : MovesNothing undisturbed :=
  fun _ _ => ⟨[], rfl, fun _ => rfl⟩

theorem MovesNothing.quiet (h : MovesNothing inside) : inside.Quiet Cause.IsRequest := by
  intro probe p hp
  obtain ⟨requests, heq, hstate⟩ := h probe p
  refine hp.orderly.stays ?_ hstate
  rw [heq]
  clear heq hstate
  induction requests generalizing p with
  | nil => exact .refl
  | cons q requests ih =>
    have hq := (happens_step hp (.request q)).changes
    exact ReflTransGen.trans hq (ih _ (hp.changes hq))

/-- What others have taken in the meantime does not matter to the claims of these services: none
has been replaced by another that is up, and one that is in transit refers to none of them
that is still up. -/
def Spares (p : Provider) (targets : List Incarnation) : Prop :=
  ∀ n ∈ targets,
    (∀ m ∈ p.registry.find? (p.service n).id, m = n ∨ (p.service m).state = .disabled) ∧
    ((p.service n).state ≠ .enabled → (p.service n).state = .disabled ∨
      ∀ m ∈ targets, (p.service m).state = .enabled →
        (p.service m).id ∉ (p.service n).references)

instance (p : Provider) (targets : List Incarnation) : Decidable (p.Spares targets) :=
  inferInstanceAs (Decidable (∀ n ∈ targets, (∀ m ∈ p.registry.find? _, _ ∨ _) ∧
    (_ → _ ∨ ∀ m ∈ targets, _ → _)))

/-- What a provider may become. Requests to take services down make their claims at any time,
whatever has happened since they were checked. -/
inductive Unfolds (p : Provider) : Provider → Prop
  | start : Unfolds p p
  | event {q : Provider} (e : Event) : Unfolds p q → Unfolds p (q.step e)
  | claim {q : Provider} {inside : Interference} (n : Incarnation) :
      MovesNothing inside → Unfolds p q → Unfolds p (q.claimDown inside n [] none).2
  | claims {q : Provider} {inside : Interference} {targets : List Incarnation} :
      MovesNothing inside → Unfolds p q → q.Spares targets →
        Unfolds p (q.claimTargets inside targets).2

theorem Unfolds.after (h : Unfolds p q) (events : List Event) : Unfolds p (q.after events) := by
  induction events generalizing q with
  | nil => exact h
  | cons e events ih => exact ih (h.event e)

/-- A request to take down a service may be interrupted by anything that may happen. -/
theorem Unfolds.disableAmid (h : Unfolds p q)
    (hothers : ∀ probe r, Unfolds p r → Unfolds p (outside probe r)) (hinside : MovesNothing inside)
    (id : ServiceId) : Unfolds p (q.disableAmid outside inside id).2 := by
  unfold Provider.disableAmid
  split
  · exact h
  · next n _ =>
    have hcheck := kept_verifyNoActiveReferrers hothers h n []
    dsimp only
    split
    · exact h
    · split <;> rename_i heq <;> rw [heq] at hcheck
      · exact hcheck
      · have hclaim := hcheck.claim n hinside
        split <;> next heq => rw [heq] at hclaim; exact hclaim

/-- A request to take down several services may be interrupted by anything that does not matter
to its claims. -/
theorem Unfolds.disableReferrersAmid (h : Unfolds p q)
    (hothers : ∀ probe r, Unfolds p r → Unfolds p (outside probe r)) (hinside : MovesNothing inside)
    {id : ServiceId}
    (hspares : ∀ targets ∈ (q.selectReferrers outside id).1.toOption,
      (q.selectReferrers outside id).2.Spares targets) :
    Unfolds p (q.disableReferrersAmid outside inside id).2 := by
  have hselect : Unfolds p (q.selectReferrers outside id).2 := by
    unfold selectReferrers
    split
    · exact h
    · split
      · exact h
      · next targets _ =>
        have hcheck := kept_verifyNoneInUse hothers targets h
        split <;> next heq => rw [heq] at hcheck; exact hcheck
  unfold Provider.disableReferrersAmid
  split <;> rename_i heq <;> rw [heq] at hselect hspares
  · exact hselect
  · exact hselect.claims hinside (hspares _ rfl)

/-- Whatever happens keeps the laws. -/
theorem Unfolds.lawful (h : Unfolds p q) (hp : p.scene.Lawful) : q.scene.Lawful := by
  induction h with
  | start => exact hp
  | event e _ ih => exact ih.changes (happens_step ih e).changes
  | claim n hinside _ ih => exact ih.changes (changes_claimDown hinside.quiet trivial ih n)
  | claims hinside _ hspares ih =>
    exact ih.changes (changes_claimTargets hinside.quiet trivial ih hspares)

/-- What several events come to if others get in wherever they have set it up. -/
def served (p : Provider) (events : List Event) : Provider :=
  events.foldl
    (fun p e => match e with
      | .request q => (p.serve q).2
      | .move _ | .pass _ | .stop | .tear _ => p.step e)
    p

/-- Where an event starts the deactivation of a service that is going down, every other
registered service that refers to it is down. -/
def DeactivatesLast (p : Provider) (e : Event) : Prop :=
  ∀ n, (p.service n).state = .disabling →
    (p.service n).calls .deactivate < ((p.step e).service n).calls .deactivate →
    ∀ m, m ≠ n → p.registry.find? (p.service m).id = some m →
      (p.service n).id ∈ (p.service m).references → (p.service m).state = .disabled

end Provider

/-- A task that calls a hook of a service that is going down takes it down, so that whatever else
refers to the service is down. -/
theorem Scene.Lawful.yielded_of_call {S S' : Scene} {cause : Cause} (h : S.Lawful)
    (change : Change S cause S') {n m : Incarnation} (hstate : (S.service n).state = .disabling)
    {hook : Hook} (hcalls : (S.service n).calls hook < (S'.service n).calls hook) (hne : m ≠ n)
    (href : (S.service n).id ∈ (S.service m).references) : (S.service m).state = .disabled := by
  obtain ⟨i, t, purpose, before, after, turn, result, ht, hcalled, -⟩ :=
    Scene.called_of_call change hcalls
  have hlive := Stage.isLive_of_isFree hcalled.isFree
  have hvia := (h.orderly.owned.held i t _ n ht hcalled.job hlive).1
  have hjob : t.job = some (Direction.down.job n) := by
    have hjob := hcalled.job
    cases hdirection : purpose.direction with
    | up =>
      rw [hdirection, hstate] at hvia
      cases hvia
    | down => rwa [hdirection] at hjob
  exact h.supported.yielded h.orderly.gated ht hjob hcalled.isFree hne href

namespace Setup

/-- In every run in which requests to take services down are interrupted, and in which nothing
that others have taken matters to the claims of a chain, services are deactivated after all
that refers to them. -/
theorem dependents_down_first (setup : Setup) {p : Provider} (h : setup.provider.Unfolds p)
    (e : Event) : p.DeactivatesLast e := by
  intro n hstate hcalls m hne _ href
  have hlawful := h.lawful setup.lawful_provider
  rw [← Provider.calls_scene, ← Provider.calls_scene] at hcalls
  obtain ⟨_, change⟩ := (Provider.happens_step hlawful e).change_of_call hcalls
  exact hlawful.yielded_of_call change hstate hcalls hne href

/-- Four services: `a` and `x` need `b`, and `c` needs `a`. A component refers to `a`. All
services are brought up. -/
def stackedRun : List Event :=
  [.request (.create "mock.Passthrough" ⟨"b"⟩ false), .request (.create "mock.Dependent" ⟨"a"⟩ false),
    .request (.create "mock.Dependent" ⟨"c"⟩ false), .request (.create "mock.Dependent" ⟨"x"⟩ false),
    .request (.setProperty ⟨"a"⟩ "Other Service" "b"),
    .request (.setProperty ⟨"c"⟩ "Other Service" "a"),
    .request (.setProperty ⟨"x"⟩ "Other Service" "b"),
    .request (.registerComponent { id := ⟨"p"⟩, isObserved := true }),
    .request (.addReference ⟨"a"⟩ ⟨"p"⟩),
    .request (.enableAll [⟨"a"⟩, ⟨"b"⟩, ⟨"c"⟩, ⟨"x"⟩])] ++ Event.rounds 8 12

/-- While the component is asked, somebody else takes `x` down, to which nothing in the chain
refers. The chain goes on with `c` and `a`. -/
theorem dependents_down_first_spared :
    let others : Interference := fun _ r => r.step (.request (.disable ⟨"x"⟩))
    let p := ((mock.provider.after stackedRun).disableReferrersAmid others undisturbed ⟨"b"⟩).2
    let q := p.after [.move 9, .move 9, .move 9, .move 10, .move 10, .move 10]
    (q.service 1).state = .disabling ∧ (q.service 2).state = .disabled ∧
      (q.service 3).state = .disabling ∧
      (q.service 1).calls .deactivate < ((q.step (.move 10)).service 1).calls .deactivate ∧
      q.DeactivatesLast (.move 10) := by
  intro others p q
  have hothers : ∀ probe r, mock.provider.Unfolds r → mock.provider.Unfolds (others probe r) :=
    fun _ _ h => h.event (.request (.disable ⟨"x"⟩))
  have hp : mock.provider.Unfolds p :=
    (Provider.Unfolds.start.after stackedRun).disableReferrersAmid hothers
      Provider.undisturbed_movesNothing (by decide +kernel)
  exact ⟨by decide +kernel, by decide +kernel, by decide +kernel, by decide +kernel,
    dependents_down_first mock (hp.after [.move 9, .move 9, .move 9, .move 10, .move 10, .move 10]) (.move 10)⟩

/-- A chain passes over a service that somebody else has taken while a component was asked, and
does not wait for it. So what this service refers to may be deactivated while it is still
going down. -/
theorem dependent_overtaken :
    ¬ ∀ (setup : Setup) (events : List Event) (e : Event), setup.isValidatorObserved = false →
      (setup.provider.served events).DeactivatesLast e := by
  intro h
  -- the component has `c` taken down, and the chain goes on with `x` and `a`
  have hlast := h mock (stackedRun ++
    [.request (.arm (.schedule ⟨"p"⟩) [.disable ⟨"c"⟩]), .request (.disableReferrers ⟨"b"⟩),
      .move 9, .move 9, .move 9, .move 10, .move 10, .move 10]) (.move 10) rfl
  exact absurd (hlast 1 (by decide +kernel) (by decide +kernel) 2 (by decide) (by decide +kernel)
    (by decide +kernel)) (by decide +kernel)

end Setup

end ServiceLifecycle

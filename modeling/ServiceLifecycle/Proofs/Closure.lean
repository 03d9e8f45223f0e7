import ServiceLifecycle.Proofs.Run

/-!
# Dependencies are closed

After every run, whatever is enabled or going down refers only to registered services
that are enabled or going down in their turn, and as long as an activation hook is
executing, everything that its service refers to is enabled.

* **calls** — a hook is called by the task of a transition (`called_of_call`), and the
  activation hook for a service that is ready (`ready_of_call`);
* **closure** — the whole of it, for every run (`Setup.dependencies_closed`).
-/

namespace ServiceLifecycle

open Relation

namespace Scene

variable {S S' : Scene} {cause : Cause} {t : Task Job HookRun} {n : Incarnation}

/-- What the hooks of a service write down tells of a call of the activation hook only if the
service was ready. -/
theorem Called.writes {purpose : Purpose} {before after : List JournalEntry}
    {turn : Turn HookRun} {result : Option (ServiceState × Option Fault)}
    (h : S.Called t n purpose before) (hooked : Hooked S.cleansUp n purpose after turn result) :
    (after ++ before).countP (JournalEntry.begins .activate) = 0 ∨
      purpose.direction = .up ∧ S.Ready n := by
  rw [List.countP_append, hooked.begins_activate, Nat.zero_add]
  rcases h.begins_activate with ⟨hzero, -⟩ | ⟨-, rfl, -, hready⟩
  · exact .inl hzero
  · exact .inr ⟨rfl, hready⟩

/-- A hook of a service is called by the task of its transition, past all gates. -/
theorem called_of_call (change : Change S cause S') {hook : Hook}
    (hcalls : (S.service n).calls hook < (S'.service n).calls hook) :
    ∃ i t purpose before after turn result, S.task? i = some t ∧ S.Called t n purpose before ∧
      Hooked S.cleansUp n purpose after turn result ∧
      0 < (after ++ before).countP (JournalEntry.begins hook) := by
  -- the hooks of one service write something down
  have hput : ∀ {k : Incarnation} {s : Service} {entries : List JournalEntry},
      S'.service n = (if n = k then s else S.service n) →
      s.calls hook = ((S.service k).recordAll entries).calls hook →
      n = k ∧ 0 < entries.countP (JournalEntry.begins hook) := by
    intro k s entries hservice hs
    split at hservice
    · next heq =>
      subst heq
      rw [hservice, hs, Service.calls_recordAll] at hcalls
      exact ⟨rfl, by omega⟩
    · rw [hservice] at hcalls
      exact absurd hcalls (Nat.lt_irrefl _)
  by_cases hcause : cause.IsRequest
  · rw [Service.calls_eq, Service.calls_eq, journal_of_request hcause change] at hcalls
    exact absurd hcalls (Nat.lt_irrefl _)
  cases change with
  | appears | edits | removes | blames | shuts | claims | joins => exact absurd trivial hcause
  | stops | advances | confirms | denies | drops => exact absurd hcalls (Nat.lt_irrefl _)
  | @sleeps i t k purpose before after time wake run ht hcalled hooked =>
    obtain ⟨rfl, hbegins⟩ := hput (service_put S k n _) rfl
    exact ⟨i, t, purpose, before, after, _, _, ht, hcalled, hooked, hbegins⟩
  | @concludes i t k entries state fault ending ht hconcludes =>
    obtain ⟨rfl, hbegins⟩ := hput (service_put S k n _) rfl
    cases hconcludes with
    | ends hcalled hooked | panics hcalled hooked =>
      exact ⟨i, t, _, _, _, _, _, ht, hcalled, hooked, hbegins⟩
    | blocked | aborts => exact absurd hbegins (Nat.lt_irrefl _)

/-- A change that calls the activation hook of a service finds the service ready. -/
theorem Orderly.ready_of_call (h : Orderly S) (change : Change S cause S')
    (hcalls : (S.service n).calls .activate < (S'.service n).calls .activate) :
    (S.service n).state = .enabling ∧ S.Ready n := by
  obtain ⟨i, t, purpose, before, after, turn, result, ht, hcalled, hooked, hbegins⟩ :=
    called_of_call change hcalls
  rcases hcalled.writes hooked with hzero | ⟨hdirection, hready⟩
  · omega
  · have hjob := hcalled.job
    rw [hdirection] at hjob
    exact ⟨(h.owned.held i t .up n ht hjob (Stage.isLive_of_isFree hcalled.isFree)).1, hready⟩

end Scene

namespace Provider

/-- The activation hook of a service is under way: it was called, and it sleeps. -/
def Activating (p : Provider) (n : Incarnation) : Prop :=
  ∃ (i : TaskId) (t : Task Job HookRun), p.tasks.tasks[i]? = some t ∧ Scene.Activates t n

/-- The activation hook of a service executes in the course of an event: it is under way
before, or it is called. -/
def ActivatesIn (p : Provider) (e : Event) (n : Incarnation) : Prop :=
  p.Activating n ∨ (p.service n).calls .activate < ((p.step e).service n).calls .activate

/-- Every service that `n` refers to is registered and enabled. -/
def DependenciesEnabled (p : Provider) (n : Incarnation) : Prop :=
  ∀ y ∈ (p.service n).references, p.registry.stateOf? y = some .enabled

variable {p : Provider} {n : Incarnation}

theorem dependenciesEnabled_iff : p.DependenciesEnabled n ↔ p.scene.Ready n :=
  forall₂_congr fun y _ => by rw [stateOf?_scene]

theorem calls_scene (p : Provider) (n : Incarnation) (hook : Hook) :
    (p.scene.service n).calls hook = (p.service n).calls hook := Service.calls_outline _ _

/-- A service that is ready while it is being enabled is so after the next event. -/
theorem Happens.ready {e : Event} {S S' : Scene} (h : S.Orderly) (hhappens : Happens e S S')
    (hstate : (S.service n).state = .enabling) (hready : S.Ready n) : S'.Ready n := by
  cases e with
  | request q =>
    -- no request moves the service, so it is being enabled all the time
    have hall : S'.Orderly ∧ (S'.service n).state = .enabling ∧ S'.Ready n := by
      induction hhappens with
      | refl => exact ⟨h, hstate, hready⟩
      | tail _ hstep ih =>
        obtain ⟨cause, hcause, change⟩ := hstep
        obtain ⟨h, hstate, hready⟩ := ih
        refine ⟨h.step change, ?_, h.ready_step change hstate hready⟩
        rw [Scene.state_of_request hcause change (by rw [hstate]; rfl), hstate]
    exact hall.2.2
  | move i | tear i =>
    cases hhappens with
    | refl => exact hready
    | single change => exact h.ready_step change hstate hready
  | pass moment => exact hhappens ▸ hready
  | stop => exact h.ready_step hhappens hstate hready

/-- An event that calls a hook is a single change. -/
theorem Happens.change_of_call {e : Event} {S S' : Scene} (hhappens : Happens e S S') {hook : Hook}
    (hcalls : (S.service n).calls hook < (S'.service n).calls hook) :
    ∃ cause, Change S cause S' := by
  cases e with
  | request q =>
    rw [Service.calls_eq, Service.calls_eq, Scene.journal_of_requests hhappens] at hcalls
    exact absurd hcalls (Nat.lt_irrefl _)
  | move i | tear i =>
    cases hhappens with
    | refl => exact absurd hcalls (Nat.lt_irrefl _)
    | single change => exact ⟨_, change⟩
  | pass moment => exact absurd (hhappens ▸ hcalls) (Nat.lt_irrefl _)
  | stop => exact ⟨_, hhappens⟩

/-- As long as the activation hook of a service is under way, the service is ready. -/
theorem ready_of_activating (h : p.scene.Lawful) (hn : p.Activating n) :
    (p.scene.service n).state = .enabling ∧ p.scene.Ready n := by
  obtain ⟨i, t, ht, wake, run, hstage, rfl, hpurpose⟩ := hn
  have hjob := h.orderly.owned.matched i t wake run ht hstage
  rw [hpurpose] at hjob
  exact ⟨(h.orderly.owned.held i t .up _ ht hjob (by rw [hstage]; rfl)).1,
    h.supported.ready i t _ ht ⟨wake, run, hstage, rfl, hpurpose⟩⟩

/-- A service is ready when its activation hook executes. -/
theorem ready_of_activatesIn (h : p.scene.Lawful) {e : Event} (hin : p.ActivatesIn e n) :
    (p.scene.service n).state = .enabling ∧ p.scene.Ready n := by
  rcases hin with hn | hcalls
  · exact ready_of_activating h hn
  · rw [← calls_scene, ← calls_scene] at hcalls
    obtain ⟨_, change⟩ := (happens_step h e).change_of_call hcalls
    exact h.orderly.ready_of_call change hcalls

end Provider

/-- After every run, each service that an enabled or disabling service refers to is registered,
and enabled or disabling itself; and as long as an activation hook executes, every service that
its service refers to is registered and enabled. -/
theorem Setup.dependencies_closed (setup : Setup) (events : List Event) :
    let p := setup.provider.after events
    (∀ n, (p.service n).state = .enabled ∨ (p.service n).state = .disabling →
      ∀ y ∈ (p.service n).references,
        p.registry.stateOf? y = some .enabled ∨ p.registry.stateOf? y = some .disabling) ∧
    (∀ n, p.Activating n → p.DependenciesEnabled n) ∧
    ∀ e n, p.ActivatesIn e n → p.DependenciesEnabled n ∧ (p.step e).DependenciesEnabled n := by
  intro p
  have hlaw : p.scene.Lawful := setup.lawful_after events
  refine ⟨fun n hup y hy => ?_, fun n hn => ?_, fun e n hin => ?_⟩
  · have hground := hlaw.supported.grounded n (by rcases hup with h | h <;> simp [h, ServiceState.isUp])
    cases hground with
    | intro _ hfound hground =>
      obtain ⟨m, hm⟩ := hfound y hy
      have hup' := (hground y hy m hm).isUp
      rw [← Provider.stateOf?_scene, Outline.stateOf?, hm, Option.map_some]
      cases hstate : (p.scene.service m).state <;> simp_all [ServiceState.isUp]
  · exact Provider.dependenciesEnabled_iff.mpr (Provider.ready_of_activating hlaw hn).2
  · obtain ⟨hstate, hready⟩ := Provider.ready_of_activatesIn hlaw hin
    exact ⟨Provider.dependenciesEnabled_iff.mpr hready,
      Provider.dependenciesEnabled_iff.mpr
        ((Provider.happens_step hlaw e).ready hlaw.orderly hstate hready)⟩

end ServiceLifecycle

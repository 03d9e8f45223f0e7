import ServiceLifecycle.Proofs.Enabling

/-!
# What is on record

The ledger of a registry is all that is on record, whatever becomes of the services: who is
registered and how it is configured and judged, who refers to whom, and which components there
are. Only edits change it; no task does. What tasks do besides talking is to call hooks, to look
at what components keep in memory, and to end transitions.

* **ledger** — what is on record (`Registry.ledger`);
* **chores** — the single things that a task does (`Registry.Chore`), how a transition may end
  (`Direction.Ends`), and that whatever tasks do is made up of them
  (`Registry.maintains_chores`); so they keep the ledger (`Registry.keeps_ledger`).
-/

namespace ServiceLifecycle

open Relation

/-! ## Ledger -/

/-- What is on record of a service, wherever it stands in its lifecycle. -/
def Service.card (s : Service) : Service :=
  { s with state := .disabled, past := [], fault := none, transition := none, journal := [] }

/-- What a registry is set up with. -/
def Registry.settings (r : Registry) : RegistryConfig × Validator × Bool × Catalogue :=
  (r.config, r.validator, r.isValidatorObserved, r.catalogue)

/-- All that is on record in a registry. -/
structure Ledger where
  settings : RegistryConfig × Validator × Bool × Catalogue
  /-- How many services there have been. -/
  size : Nat
  card : Incarnation → Service
  names : Table ServiceId Incarnation
  latestCounting : Table ServiceId Incarnation
  latestScripted : Table ServiceId Incarnation
  roster : Table ComponentId ComponentNumber
  referrers : Referrers

namespace Registry

/-- What is on record. -/
def ledger (r : Registry) : Ledger where
  settings := r.settings
  size := r.services.size
  card n := (r.service n).card
  names := r.names
  latestCounting := r.latestCounting
  latestScripted := r.latestScripted
  roster := r.roster
  referrers := r.referrers

variable {r : Registry} {n : Incarnation}

theorem size_modifyComponent (r : Registry) (c : ComponentNumber) (f : Component → Component) :
    (r.modifyComponent c f).components.size = r.components.size := Array.size_modify

/-- A look at a service after one was changed, if it was there to be changed. -/
theorem service_modify_eq (r : Registry) (n m : Incarnation) (f : Service → Service) :
    (r.modify n f).service m =
      if m = n ∧ m < r.services.size then f (r.service m) else r.service m := by
  unfold modify service
  rw [Array.getElem?_modify]
  by_cases heq : m = n
  · subst heq
    by_cases hm : m < r.services.size <;> simp [hm]
  · simp [heq, Ne.symm heq]

/-- A change to a service that is not on record keeps the ledger. -/
theorem ledger_modify (f : Service → Service) (hf : ∀ s, (f s).card = s.card) :
    (r.modify n f).ledger = r.ledger := by
  unfold ledger
  congr 1
  · simp [modify]
  · funext m
    rw [service_modify_eq]
    split
    · exact hf _
    · rfl

/-! ## Chores -/

end Registry

/-- How a transition may end: at its goal, or where it started and then with a fault. -/
inductive Direction.Ends (d : Direction) : ServiceState → Option Fault → Prop
  | arrives {fault : Option Fault} : (∀ f ∈ fault, f.kind ≠ .rejected) → d.Ends d.goal fault
  | returns {fault : Fault} : fault.kind ≠ .rejected → d.Ends d.origin (some fault)

namespace Registry

/-- A single thing that a task does to the registry. -/
inductive Chore (r : Registry) : Registry → Prop
  /-- Something is said, or done to the memory. -/
  | calm {r' : Registry} : r'.services = r.services → r'.ledger = r.ledger → Chore r r'
  | records (n : Incarnation) (e : JournalEntry) : Chore r (r.modify n fun s => s.record e)
  /-- A transition ends, if there is one to end. -/
  | completes (n : Incarnation) (d : Direction) {target : ServiceState} {fault : Option Fault} :
      d.Ends target fault → Chore r (r.complete n d.via target fault).2

/-- Several such things are done, one after the other. -/
abbrev Chores : Registry → Registry → Prop := ReflTransGen Chore

variable {r r' : Registry} {n : Incarnation}

theorem Chores.say (h : Chores r r') (remark : Remark) : Chores r (r'.say remark) :=
  h.tail (.calm rfl rfl)

theorem Chores.complete (h : Chores r r') (n : Incarnation) (d : Direction)
    {target : ServiceState} {fault : Option Fault} (hends : d.Ends target fault) :
    Chores r (r'.complete n d.via target fault).2 := h.tail (.completes n d hends)

theorem Chores.play (h : Chores r r') (n : Incarnation) (c : Context) (script : List HookAction) :
    Chores r (play n c script r').2 := by
  refine h.trans ?_
  clear h
  fun_induction Registry.play n c script r' with
  | case1 | case3 | case4 | case5 | case6 | case8 | case9 => exact .refl
  | case2 | case7 => assumption
  | case10 _ _ _ _ _ ih | case12 _ _ _ ih =>
    refine .head ?_ ih
    exact .calm rfl rfl
  | case11 _ _ ih => exact .head (.records n _) ih

theorem Chores.recordReturn (h : Chores r r') (n : Incarnation) (hook : Hook)
    (error : Option String) : Chores r (r'.recordReturn n hook error) := h.tail (.records n _)

theorem Chores.callHook (h : Chores r r') (n : Incarnation) (hook : Hook) (c : Context) :
    Chores r (r'.callHook n hook c).2 := h.tail (.records n _)

theorem Chores.failActivation (h : Chores r r') (n : Incarnation) (failure : String) :
    Chores r (r'.failActivation n failure).2 :=
  h.complete n .up (.returns (by simp))

theorem Chores.afterCleanup {played : Turn (List HookAction) × Registry} (h : Chores r played.2)
    (n : Incarnation) (c : Context) (failure : String) :
    Chores r (afterCleanup n c failure played).2 := by
  obtain ⟨turn, r'⟩ := played
  cases turn with
  | sleeps | panics => exact h
  | returns => exact (h.recordReturn n .deactivate none).failActivation n failure
  | fails message =>
    exact ((h.recordReturn n .deactivate (some message)).say _).failActivation n failure

theorem Chores.afterActivation {played : Turn (List HookAction) × Registry}
    (h : Chores r played.2) (n : Incarnation) (c : Context) :
    Chores r (afterActivation n c played).2 := by
  obtain ⟨turn, r'⟩ := played
  cases turn with
  | sleeps | panics => exact h
  | returns =>
    have hnone : ∀ f ∈ (none : Option Fault), f.kind ≠ .rejected := by simp
    have hcomplete := (h.recordReturn n .activate none).complete n .up (.arrives hnone)
    unfold Registry.afterActivation
    dsimp only
    split
    · exact hcomplete.say _
    · exact hcomplete
  | fails message =>
    have hreturn := h.recordReturn n .activate (some message)
    unfold Registry.afterActivation
    dsimp only
    split
    · -- the cleanup is played in the same turn
      exact (((hreturn.say _).callHook n .deactivate c).play n c _).afterCleanup n c message
    · exact (hreturn.say _).failActivation n message

theorem Chores.finishDeactivation (h : Chores r r') (n : Incarnation) {fault : Option Fault}
    (hfault : ∀ f ∈ fault, f.kind ≠ .rejected) :
    Chores r (r'.finishDeactivation n fault).2 := by
  have hcomplete := h.complete n .down (.arrives hfault)
  unfold Registry.finishDeactivation
  dsimp only
  split
  · exact hcomplete.say _
  · exact hcomplete

theorem Chores.afterDeactivation {played : Turn (List HookAction) × Registry}
    (h : Chores r played.2) (n : Incarnation) (c : Context) :
    Chores r (afterDeactivation n c played).2 := by
  obtain ⟨turn, r'⟩ := played
  cases turn with
  | sleeps | panics => exact h
  | returns => exact (h.recordReturn n .deactivate none).finishDeactivation n (by simp)
  | fails message =>
    exact ((h.recordReturn n .deactivate (some message)).say _).finishDeactivation n (by simp)

theorem Chores.continueHook (h : Chores r r') (run : HookRun) :
    Chores r (continueHook run r').2 := by
  have hplay := h.play run.service run.context run.rest
  unfold Registry.continueHook
  dsimp only
  split
  · exact hplay.afterActivation run.service run.context
  · exact hplay.afterCleanup run.service run.context _
  · exact hplay.afterDeactivation run.service run.context

theorem Chores.startJob (h : Chores r r') (job : Job) : Chores r (startJob job r').2 := by
  unfold Registry.startJob
  cases job with
  | enable n =>
    dsimp only
    split
    · exact (h.say _).complete n .up (.returns (by simp))
    · have hcontext : Chores r (r'.contextFor n).2 := h.tail (.calm rfl rfl)
      exact ((hcontext.callHook n .activate _).play n _ _).afterActivation n _
  | confirm n =>
    dsimp only
    split <;> exact h
  | disable n =>
    have hcontext : Chores r (r'.contextFor n).2 := h.tail (.calm rfl rfl)
    exact ((hcontext.callHook n .deactivate _).play n _ _).afterDeactivation n _

theorem Chores.giveUpJob (h : Chores r r') (job : Job) (reason : String) :
    Chores r (giveUpJob job reason r') := by
  cases job with
  | enable n => exact (h.say _).complete n .up (.returns (by simp))
  | confirm n => exact h
  | disable n => exact (h.say _).complete n .down (.returns (by simp))

/-- Tasks do such things only. -/
theorem maintains_chores (r : Registry) : workload.Maintains (Chores r) where
  start job _ h := h.startJob job
  resume run _ h := h.continueHook run
  giveUp job reason _ h := h.giveUpJob job reason
  remark remark _ h := h.say remark

/-- None of them goes on record. -/
theorem Chores.ledger (h : Chores r r') : r'.ledger = r.ledger := by
  induction h with
  | refl => rfl
  | tail _ hchore ih =>
    refine Eq.trans ?_ ih
    cases hchore with
    | calm _ hledger => exact hledger
    | records n e => exact ledger_modify _ fun _ => rfl
    | completes n d =>
      unfold Registry.complete
      dsimp only
      split
      · exact ledger_modify _ fun _ => rfl
      · rfl

theorem keeps_ledger : workload.Keeps ledger where
  start job r := ((maintains_chores r).start job r .refl).ledger
  resume run r := ((maintains_chores r).resume run r .refl).ledger
  giveUp job reason r := ((maintains_chores r).giveUp job reason r .refl).ledger
  remark _ _ := rfl

end Registry

end ServiceLifecycle

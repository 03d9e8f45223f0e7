import Mathlib.Data.List.Infix
import ServiceLifecycle.Proofs.Closure
import ServiceLifecycle.Proofs.Overlap
import ServiceLifecycle.Proofs.Ownership

/-!
# Overlapping enables converge

As long as references do not run in a circle and no hook fails, whatever is enabled comes
up, however the requests overlap and the tasks interleave. Each time a service starts
on its way up its activation hook is called once, and the service does not go back.

* **accounts** — what a service has gone through, against the calls of its hook
  (`Scene.Booked`);
* **convergence** — the whole of it, for every run (`Setup.enables_converge`).
-/

namespace ServiceLifecycle

open Relation

namespace Scene

variable {S S' T : Scene} {cause : Cause} {i : TaskId} {t : Task Job HookRun} {n m : Incarnation}
  {d : Direction}

/-! ## Accounts -/

/-- The activation hook of a service is under way. -/
def Activating (S : Scene) (n : Incarnation) : Prop := ∃ i t, S.task? i = some t ∧ Activates t n

/-- The account of a service: it has gone up each time it started to, and its hook was called
once for each. -/
structure Booked (S : Scene) (n : Incarnation) : Prop where
  blamed : ∀ f, (S.service n).fault = some f → f.kind = .rejected
  risen : (S.service n).history.IsChain fun later earlier => earlier = .enabling → later = .enabled
  called : ¬ S.Activating n →
    (S.service n).calls .activate = (S.service n).past.count .enabling
  calling : S.Activating n →
    (S.service n).calls .activate = (S.service n).past.count .enabling + 1

/-- A task whose hook activates a service has been submitted for that. -/
theorem Orderly.job_of_activates (h : Orderly S) (ht : S.task? i = some t)
    (hactivates : Activates t n) :
    t.job = some (Direction.up.job n) ∧ t.stage.isLive = true := by
  obtain ⟨wake, run, hstage, rfl, hpurpose⟩ := hactivates
  have hjob := h.owned.matched i t wake run ht hstage
  rw [hpurpose] at hjob
  exact ⟨hjob, by rw [hstage]; rfl⟩

theorem Orderly.not_activates (h : Orderly S) (ht : S.task? i = some t)
    (hjob : t.job = some (d.job m)) (hne : n ≠ m) : ¬ Activates t n := by
  intro hactivates
  obtain ⟨hup, -⟩ := h.job_of_activates ht hactivates
  rw [hjob] at hup
  exact hne (Direction.job_inj.mp (Option.some.inj hup)).2.symm

theorem Orderly.not_activating (h : Orderly S) (hstate : (S.service n).state ≠ .enabling) :
    ¬ S.Activating n := by
  rintro ⟨i, t, ht, hactivates⟩
  obtain ⟨hjob, hlive⟩ := h.job_of_activates ht hactivates
  exact hstate (h.owned.held i t .up n ht hjob hlive).1

/-- Whether the hook is under way shows in the task of the transition. -/
theorem Orderly.activating_iff (h : Orderly S) (ht : S.task? i = some t)
    (hjob : t.job = some (d.job n)) (hlive : t.stage.isLive = true) :
    S.Activating n ↔ Activates t n := by
  refine ⟨?_, fun hactivates => ⟨i, t, ht, hactivates⟩⟩
  rintro ⟨j, u, hu, hactivates⟩
  obtain ⟨hujob, hulive⟩ := h.job_of_activates hu hactivates
  have hi := (h.owned.held i t d n ht hjob hlive).2
  have hj := (h.owned.held j u .up n hu hujob hulive).2
  obtain rfl : i = j := Option.some.inj (hi.symm.trans hj)
  obtain rfl : t = u := Option.some.inj (ht.symm.trans hu)
  exact hactivates

theorem activating_stand {stage : Stage HookRun} (htask : T.task? = S.task?)
    (ht : S.task? i = some t) (hsame : Activates { t with stage } n ↔ Activates t n) :
    (T.stand i t stage).Activating n ↔ S.Activating n := by
  refine exists_congr fun j => ?_
  rw [task?_stand, htask]
  split
  · next heq =>
    rw [heq, ht]
    simp only [Option.some.injEq, exists_eq_left']
    exact hsame
  · rfl

theorem not_activates_of_stage (hstage : ∀ wake run, t.stage ≠ .running wake run) :
    ¬ Activates t n := fun ⟨wake, run, hrun, _⟩ => hstage wake run hrun

theorem activating_of_request (hcause : cause.IsRequest) (horderly : Orderly S)
    (change : Change S cause S') : S'.Activating n ↔ S.Activating n := by
  have hpush : ∀ {name : String} {gates : List TaskId} {job : Job},
      (S.push name gates job).Activating n ↔ S.Activating n := by
    intro name gates job
    refine exists_congr fun j => ?_
    rw [task?_push]
    split
    · next heq =>
      have hnone : S.task? j = none := by
        cases hu : S.task? j with
        | none => rfl
        | some u => exact absurd (horderly.gated.known j u hu) (heq ▸ Nat.lt_irrefl _)
      rw [hnone]
      simp only [Option.some.injEq, exists_eq_left', reduceCtorEq, false_and, exists_false,
        iff_false]
      exact not_activates_of_stage (newcomer_idle S name gates job).1
    · rfl
  cases change with
  | appears | edits | removes | blames | shuts => exact Iff.rfl
  | claims d name => exact hpush
  | joins => exact hpush
  | stops | advances | sleeps | concludes | confirms | denies | drops => exact hcause.elim

/-- The only fault that a request records is that of a refusal. -/
theorem fault_of_request (hcause : cause.IsRequest) (change : Change S cause S') {f : Fault}
    (hf : (S'.service n).fault = some f) :
    f.kind = .rejected ∨ (S.service n).fault = some f := by
  have hput : ∀ {k : Incarnation} {s : Service},
      S'.service n = (if n = k then s else S.service n) →
      (s.fault = some f → f.kind = .rejected ∨ (S.service k).fault = some f) →
      f.kind = .rejected ∨ (S.service n).fault = some f := by
    intro k s hservice hs
    rw [hservice] at hf
    split at hf
    · next heq => exact heq ▸ hs hf
    · exact .inr hf
  cases change with
  | appears id typeName descriptors behaviour isRegistered hnew =>
    by_cases heq : n = S.size
    · rw [heq, service_appear_self] at hf
      cases hf
    · rw [service_appear_of_ne heq] at hf
      exact .inr hf
  | @edits k properties => exact hput (service_put S k n _) .inr
  | @removes k => exact hput (service_put S k n _) .inr
  | @blames k message =>
    exact hput (service_put S k n _) fun hs => .inl (Option.some.inj hs ▸ rfl)
  | shuts | joins => exact .inr hf
  | @claims d k name gates =>
    exact hput (service_put (S.push name gates _) k n _) fun hs => by cases hs
  | stops | advances | sleeps | concludes | confirms | denies | drops => exact hcause.elim

/-- Requests keep the account of every service in order. -/
theorem Booked.request (h : Booked S n) (horderly : Orderly S) (hcause : cause.IsRequest)
    (change : Change S cause S') : Booked S' n := by
  have hblamed : ∀ f, (S'.service n).fault = some f → f.kind = .rejected := fun f hf =>
    (fault_of_request hcause change hf).elim id (h.blamed f)
  have hcalls : (S'.service n).calls .activate = (S.service n).calls .activate := by
    rw [Service.calls_eq, Service.calls_eq, journal_of_request hcause change]
  have hactivating := activating_of_request (n := n) hcause horderly change
  rcases horderly.owned.history_step change n with heq | ⟨later, hlater, heq⟩
  · obtain ⟨-, hpast⟩ := List.cons.inj heq
    refine ⟨hblamed, heq ▸ h.risen, fun hnot => ?_, fun hon => ?_⟩
    · rw [hcalls, hpast]
      exact h.called (mt hactivating.mpr hnot)
    · rw [hcalls, hpast]
      exact h.calling (hactivating.mp hon)
  · obtain ⟨hstate, hpast⟩ := List.cons.inj heq
    -- only a claim publishes a state, and not of a service that is on its way
    have hne : (S.service n).state ≠ .enabling := by
      intro hen
      rw [← hstate, state_of_request hcause change (by rw [hen]; rfl), hen] at hlater
      simp [ServiceState.next] at hlater
    have hcount : (S'.service n).past.count .enabling = (S.service n).past.count .enabling := by
      rw [hpast, Service.history, List.count_cons_of_ne hne]
    exact {
      blamed := hblamed
      risen := by
        rw [heq]
        exact List.IsChain.cons_cons (fun hen => absurd hen hne) h.risen
      called hnot := by
        rw [hcalls, hcount]
        exact h.called (mt hactivating.mpr hnot)
      calling hon := by
        rw [hcalls, hcount]
        exact h.calling (hactivating.mp hon) }

theorem Booked.requests (h : Booked S n) (horderly : Orderly S)
    (changes : Changes Cause.IsRequest S S') : Booked S' n := by
  induction changes with
  | refl => exact h
  | tail hsteps hstep ih =>
    obtain ⟨_, hcause, change⟩ := hstep
    exact ih.request (horderly.changes hsteps) hcause change

theorem Booked.same (h : Booked S n) (hservice : S'.service n = S.service n)
    (hactivating : S'.Activating n ↔ S.Activating n) : Booked S' n where
  blamed := hservice ▸ h.blamed
  risen := hservice ▸ h.risen
  called := by
    rw [hservice, hactivating]
    exact h.called
  calling := by
    rw [hservice, hactivating]
    exact h.calling

/-- A hook that goes on where an activation sleeps was called to activate. -/
theorem Called.activates {purpose : Purpose} {before : List JournalEntry}
    (h : S.Called t n purpose before) (hactivates : Activates t n) : purpose = .activation := by
  obtain ⟨wake, run, hstage, -, hpurpose⟩ := hactivates
  cases h with
  | activation => rfl
  | deactivation _ _ hwaiting =>
    rw [hwaiting] at hstage
    cases hstage
  | again hrunning =>
    rw [hrunning] at hstage
    obtain ⟨-, rfl⟩ := Stage.running.inj hstage
    exact hpurpose

/-- The calls of the activation hook that a service has to its credit, after a turn of its task:
one more than the activations that came to their end if the task is at the activation hook. -/
theorem Booked.calls_turn (h : Booked S n) (horderly : Orderly S) (ht : S.task? i = some t)
    {purpose : Purpose} {before after : List JournalEntry} {turn : Turn HookRun}
    {result : Option (ServiceState × Option Fault)} (hcalled : S.Called t n purpose before)
    (hooked : Hooked S.cleansUp n purpose after turn result) :
    ((S.service n).recordAll (after ++ before)).calls .activate =
      (S.service n).past.count .enabling + if purpose = .activation then 1 else 0 := by
  have hactivating := horderly.activating_iff ht hcalled.job (Stage.isLive_of_isFree hcalled.isFree)
  rw [Service.calls_recordAll, List.countP_append, hooked.begins_activate]
  rcases hcalled.begins_activate with ⟨hzero, hon⟩ | ⟨hone, rfl, hwaiting, -⟩
  · rw [hzero]
    by_cases hpurpose : purpose = .activation
    · rw [if_pos hpurpose, h.calling (hactivating.mpr (hon hpurpose))]
      omega
    · rw [if_neg hpurpose, h.called fun hyes => hpurpose (hcalled.activates (hactivating.mp hyes))]
      omega
  · -- the call begins with this turn
    have hnot : ¬ S.Activating n := fun hyes => by
      obtain ⟨wake, run, hstage, -⟩ := hactivating.mp hyes
      rw [hwaiting] at hstage
      cases hstage
    rw [hone, if_pos rfl, h.called hnot]
    omega

/-- A task that completes a transition does so with the return of a hook. -/
theorem Concludes.called {entries : List JournalEntry} {state : ServiceState}
    {fault : Option Fault} {ending : Ending} (h : S.Concludes t n entries state fault ending)
    (hending : ending = .completed) :
    ∃ purpose before after turn, entries = after ++ before ∧ S.Called t n purpose before ∧
      Hooked S.cleansUp n purpose after turn (some (state, fault)) := by
  cases h with
  | ends hcalled hooked => exact ⟨_, _, _, _, rfl, hcalled, hooked⟩
  | panics | blocked | aborts => cases hending

/-- A turn after which the hook sleeps. -/
theorem Booked.sleep (h : Booked S n) (horderly : Orderly S) (hconvergent : Convergent S none)
    (ht : S.task? i = some t) {purpose : Purpose} {before after : List JournalEntry}
    {time wake : Option Nat} {run : HookRun} (hcalled : S.Called t n purpose before)
    (hooked : Hooked S.cleansUp n purpose after (.sleeps time run) none)
    (hservice : S'.service n = (S.service n).recordAll (after ++ before))
    (horderly' : Orderly S')
    (ht' : S'.task? i = some { t with stage := .running wake run })
    (hpeaceful : Peaceful S') : Booked S' n := by
  have hjournal : (S'.service n).journal = after ++ (before ++ (S.service n).journal) := by
    rw [hservice, Service.recordAll, List.append_assoc]
  obtain ⟨hpurpose, -⟩ := hconvergent.asleep ht hcalled hooked hpeaceful hjournal
  have hactivating : S'.Activating n ↔ purpose = .activation := by
    rw [horderly'.activating_iff ht' hcalled.job rfl, ← hpurpose]
    constructor
    · rintro ⟨wake', run', hstage, -, hactivation⟩
      obtain ⟨-, rfl⟩ := Stage.running.inj hstage
      exact hactivation
    · exact fun hactivation => ⟨wake, run, rfl, hooked.run.1, hactivation⟩
  have hcalls := h.calls_turn horderly ht hcalled hooked
  refine ⟨by rw [hservice]; exact h.blamed, by rw [hservice]; exact h.risen, fun hnot => ?_,
    fun hon => ?_⟩
  · rw [if_neg (mt hactivating.mpr hnot)] at hcalls
    rw [hservice, hcalls]
    rfl
  · rw [if_pos (hactivating.mp hon)] at hcalls
    rw [hservice, hcalls]
    rfl

/-- A turn with which the transition comes to its goal. -/
theorem Booked.arrive (h : Booked S n) (horderly : Orderly S) (hconvergent : Convergent S none)
    (ht : S.task? i = some t) (hjob : t.job = some (d.job n)) {entries : List JournalEntry}
    (hconcludes : S.Concludes t n entries d.goal none .completed)
    (hservice : S'.service n = ((S.service n).recordAll entries).settle d.goal none)
    (horderly' : Orderly S') : Booked S' n := by
  obtain ⟨purpose, before, after, turn, rfl, hcalled, hooked⟩ := hconcludes.called rfl
  have hcalls := h.calls_turn horderly ht hcalled hooked
  have hcleanup := hcalled.purpose (hconvergent.unfailed i t · · ht)
  obtain ⟨rfl, -⟩ := Direction.job_inj.mp (Option.some.inj (hjob.symm.trans hcalled.job))
  have hvia := (horderly.owned.held i t _ n ht hjob (Stage.isLive_of_isFree hcalled.isFree)).1
  have hstate : (S'.service n).state = purpose.direction.goal := by
    rw [hservice]
    rfl
  have hpast : (S'.service n).past = purpose.direction.via :: (S.service n).past := by
    rw [hservice, ← hvia]
    rfl
  have hcalls' : (S'.service n).calls .activate =
      ((S.service n).recordAll (after ++ before)).calls .activate := by
    rw [hservice]
    rfl
  have hnot : ¬ S'.Activating n := horderly'.not_activating (by
    rw [hstate]
    cases purpose.direction <;> simp [Direction.goal])
  exact {
    blamed f hf := by
      rw [hservice] at hf
      exact h.blamed f hf
    risen := by
      have hhistory : (S'.service n).history =
          purpose.direction.goal :: (S.service n).history := by
        rw [hservice]
        rfl
      rw [hhistory]
      refine List.IsChain.cons_cons (fun hen => ?_) h.risen
      rw [hvia] at hen
      cases purpose with
      | activation | cleanup => rfl
      | deactivation => cases hen
    called _ := by
      rw [hcalls', hcalls, hpast]
      cases purpose with
      | activation => exact List.count_cons_self.symm
      | cleanup failure => exact absurd rfl (hcleanup failure)
      | deactivation =>
        exact (List.count_cons_of_ne (by simp [Purpose.direction, Direction.via])).symm
    calling hon := absurd hon hnot }

/-- Moves of tasks keep the account of every service in order, as long as no hook fails. -/
theorem Booked.move (h : Booked S n) (horderly : Orderly S) (hconvergent : Convergent S none)
    (change : Change S (.task i) S') (hpeaceful : Peaceful S') : Booked S' n := by
  have hstep := horderly.step change
  cases change with
  | @advances _ t stage ht hadvances =>
    refine h.same rfl (activating_stand rfl ht (iff_of_false ?_ ?_)) <;>
      refine not_activates_of_stage fun wake run hrun => ?_
    · obtain rfl : stage = .running wake run := hrun
      cases hadvances
    · cases hadvances <;> simp_all
  | @sleeps _ t k purpose before after time wake run ht hcalled hooked =>
    have hservice := service_put S k n ((S.service k).recordAll (after ++ before))
    by_cases hne : n = k
    · subst hne
      rw [if_pos rfl] at hservice
      exact h.sleep horderly hconvergent ht hcalled hooked hservice hstep
        (by rw [task?_stand, if_pos rfl]) hpeaceful
    · rw [if_neg hne] at hservice
      refine h.same hservice (activating_stand rfl ht (iff_of_false ?_ ?_))
      · rintro ⟨wake', run', hstage, hrun', -⟩
        obtain ⟨-, rfl⟩ := Stage.running.inj hstage
        exact hne (hrun'.symm.trans hooked.run.1)
      · exact horderly.not_activates ht hcalled.job hne
  | @concludes _ t k entries state fault ending ht hconcludes =>
    have hservice := service_put S k n (((S.service k).recordAll entries).settle state fault)
    have hself := service_put_self S k (((S.service k).recordAll entries).settle state fault)
    obtain ⟨d, hjob, hfree, rfl, rfl, rfl⟩ := hconvergent.completes horderly ht hconcludes hpeaceful
      (congrArg Service.journal hself) (by rw [task?_stand, if_pos rfl])
    by_cases hne : n = k
    · subst hne
      exact h.arrive horderly hconvergent ht hjob hconcludes hself hstep
    · rw [if_neg hne] at hservice
      refine h.same hservice (activating_stand rfl ht (iff_of_false ?_ ?_))
      · exact not_activates_of_stage fun wake run hrun => by cases hrun
      · exact horderly.not_activates ht hjob hne
  | @confirms _ t k ht hstage =>
    refine h.same rfl (activating_stand rfl ht (iff_of_false ?_ ?_)) <;>
      refine not_activates_of_stage fun wake run hrun => ?_
    · cases hrun
    · rw [hstage] at hrun
      cases hrun
  | @denies _ t k ending ht hlive hjob =>
    refine h.same rfl (activating_stand rfl ht (iff_of_false ?_ fun hactivates => ?_))
    · exact not_activates_of_stage fun wake run hrun => by cases hrun
    · obtain ⟨hup, -⟩ := horderly.job_of_activates ht hactivates
      rw [hjob] at hup
      exact absurd (Option.some.inj hup).symm Direction.job_ne_confirm
  | drops _ _ hdead =>
    rw [hconvergent.isAlive] at hdead
    cases hdead

end Scene

/-! ## Convergence -/

namespace Provider

/-- No references run in a circle, no call of a hook has failed, and none has panicked. -/
structure Peaceful (p : Provider) : Prop where
  acyclic : ∀ n, ¬ TransGen p.Refers n n
  returned : ∀ n hook error, JournalEntry.returned hook (some error) ∉ (p.service n).journal
  unpanicked : ∀ (i : TaskId) t payload, p.tasks.tasks[i]? = some t →
    t.stage ≠ .ended (.panicked payload)

/-- Whatever is enabled comes up. -/
structure Converges (p : Provider) : Prop where
  /-- No enable or disable task ends in another way than by completing. -/
  completed : ∀ (i : TaskId) t (d : Direction) n, p.tasks.tasks[i]? = some t →
    t.job = some (d.job n) → ∀ outcome, t.result? = some outcome → outcome = .completed
  /-- A service that has started on its way up was down before and is up afterwards. -/
  risen : ∀ n, (p.service n).history.getLast? = some .disabled ∧
    (p.service n).history.IsChain fun later earlier =>
      (later = .enabling → earlier = .disabled) ∧ (earlier = .enabling → later = .enabled)
  /-- Until it is up, its task has not finished. -/
  rising : ∀ n, (p.service n).state = .enabling → ∃ (i : TaskId) (t : Task Job HookRun),
    (p.service n).transition = some i ∧ p.tasks.tasks[i]? = some t ∧
      t.job = some (.enable n) ∧ t.isFinished = false
  /-- For each time that the service has come up, its activation hook has been called once. -/
  called : ∀ n, ¬ p.Activating n →
    (p.service n).calls .activate = (p.service n).past.count .enabling
  /-- If the hook is under way, it has been called once more. -/
  calling : ∀ n, p.Activating n →
    (p.service n).calls .activate = (p.service n).past.count .enabling + 1
  /-- No fault tells of a failed or given up transition. -/
  blamed : ∀ n f, (p.service n).fault = some f →
    f.kind ≠ .activation ∧ f.kind ≠ .deactivation ∧ f.kind ≠ .aborted

variable {p : Provider}

theorem Peaceful.scene (h : p.Peaceful) : p.scene.Peaceful where
  acyclic := h.acyclic
  returned := fun n hook error hin => h.returned n hook error (List.mem_of_mem_filter hin)
  unpanicked := h.unpanicked

/-- A quick look: references go to older services only, and nothing that is on record has failed
or panicked. -/
def looksPeaceful (p : Provider) : Bool :=
  ((List.range p.registry.services.size).all fun n =>
    ((p.service n).references.all fun y => (p.registry.find? y).all (· < n)) &&
    (p.service n).journal.all fun
      | .returned _ (some _) => false
      | _ => true) &&
  p.tasks.tasks.toList.all fun t => match t.stage with
    | .ended (.panicked _) => false
    | _ => true

/-- A quick look is enough. -/
theorem peaceful_of_looksPeaceful (h : p.looksPeaceful = true) : p.Peaceful := by
  simp only [looksPeaceful, Bool.and_eq_true, List.all_eq_true, List.mem_range] at h
  obtain ⟨hservices, htasks⟩ := h
  have houtside : ∀ n, ¬ n < p.registry.services.size → p.service n = default := by
    intro n hn
    show (p.registry.services[n]?).getD default = default
    rw [Array.getElem?_eq_none (Nat.le_of_not_lt hn), Option.getD_none]
  refine ⟨fun n hcircle => ?_, fun n hook error hin => ?_, fun i t payload ht hstage => ?_⟩
  · -- along references the services grow older
    have holder : ∀ m, TransGen p.Refers n m → m < n := by
      intro m hpath
      have hstep : ∀ {a b}, p.Refers a b → b < a := by
        rintro a b ⟨y, hy, hb⟩
        by_cases ha : a < p.registry.services.size
        · have hall := (hservices a ha).1 y hy
          rw [hb] at hall
          exact of_decide_eq_true hall
        · rw [houtside a ha] at hy
          cases hy
      induction hpath with
      | single hrefers => exact hstep hrefers
      | tail _ hrefers ih => exact Nat.lt_trans (hstep hrefers) ih
    exact Nat.lt_irrefl n (holder n hcircle)
  · by_cases hn : n < p.registry.services.size
    · exact absurd ((hservices n hn).2 _ hin) (by simp)
    · rw [houtside n hn] at hin
      cases hin
  · have hclean := htasks t (Array.mem_toList_iff.mpr (Array.mem_of_getElem? ht))
    rw [hstage] at hclean
    cases hclean

/-- An event keeps the chains and the accounts in order, unless it is the shutdown or the
teardown. -/
theorem convergent_step (hlaw : p.scene.Lawful) (hconvergent : p.scene.Convergent none)
    (hbooked : ∀ n, p.scene.Booked n) {e : Event} (hstop : e ≠ .stop)
    (hshutdown : e ≠ .request .shutdown) (hbefore : p.scene.Peaceful)
    (hafter : (p.step e).scene.Peaceful) :
    (p.step e).scene.Convergent none ∧ ∀ n, (p.step e).scene.Booked n := by
  have horderly := hlaw.orderly
  have hhappens := happens_step hlaw e
  generalize hS : (p.step e).scene = S at hafter hhappens ⊢
  cases e with
  | request q =>
    have hperforms : Performs p q S := hS ▸ performs hlaw q
    exact ⟨hperforms.convergent hconvergent horderly (fun heq => hshutdown (heq ▸ rfl))
      hbefore.acyclic hafter.acyclic, fun n => (hbooked n).requests horderly hhappens⟩
  | move i | tear i =>
    cases hhappens with
    | refl => exact ⟨hconvergent, hbooked⟩
    | single change =>
      exact ⟨hconvergent.step horderly change hafter,
        fun n => (hbooked n).move horderly hconvergent change hafter⟩
  | pass moment =>
    obtain rfl : p.scene = S := hhappens
    exact ⟨hconvergent, hbooked⟩
  | stop => exact absurd rfl hstop

end Provider

namespace Setup

/-- In the beginning there are no chains. -/
theorem convergent_provider (setup : Setup) : setup.provider.scene.Convergent none := by
  have htask := setup.task?_provider
  have hstate : ∀ n, (setup.provider.scene.service n).state = .disabled := by
    intro n
    rw [setup.service_provider]
    rfl
  have hawaits : ∀ n c, ¬ setup.provider.scene.Awaits none n c := by
    rintro n c (⟨i, t, ht, -⟩ | ⟨l, hl, -⟩)
    · rw [htask] at ht
      cases ht
    · cases hl
  exact {
    isAlive := rfl
    isOpen := rfl
    tidy := by simp [htask]
    unfailed := by simp [htask]
    closed n hactive := by
      rw [hstate] at hactive
      cases hactive
    led := by simp [htask]
    sheltered := by simp [htask]
    intact n c h := absurd h (hawaits n c)
    lowered := by
      rintro i ⟨t, ht, -⟩
      rw [htask] at ht
      cases ht
    settled := by simp [htask] }

theorem booked_provider (setup : Setup) (n : Incarnation) : setup.provider.scene.Booked n := by
  have hservice := setup.service_provider n
  exact {
    blamed := by
      rw [hservice]
      intro f hf
      cases hf
    risen := by
      rw [hservice]
      exact List.isChain_singleton _
    called _ := by
      rw [hservice]
      rfl
    calling := by
      rintro ⟨i, t, ht, -⟩
      rw [setup.task?_provider] at ht
      cases ht }

/-- The chains and the accounts are in order after every run without circles and failures. -/
theorem convergent_after (setup : Setup) (events : List Event)
    (hevents : ∀ e ∈ events, e ≠ .stop ∧ e ≠ .request .shutdown)
    (hpeaceful : ∀ done, done <+: events → (setup.provider.after done).Peaceful) :
    (setup.provider.after events).scene.Convergent none ∧
      ∀ n, (setup.provider.after events).scene.Booked n := by
  induction events using List.reverseRecOn with
  | nil => exact ⟨setup.convergent_provider, setup.booked_provider⟩
  | append_singleton done e ih =>
    have hprefix : done <+: done ++ [e] := List.prefix_append done [e]
    obtain ⟨hconvergent, hbooked⟩ := ih (fun e he => hevents e (List.mem_append_left _ he))
      fun before hbefore => hpeaceful before (hbefore.trans hprefix)
    obtain ⟨hstop, hshutdown⟩ := hevents e (by simp)
    have hafter := hpeaceful (done ++ [e]) (List.prefix_refl _)
    rw [Provider.after_append] at hafter ⊢
    exact Provider.convergent_step (setup.lawful_after done) hconvergent hbooked hstop hshutdown
      (hpeaceful done hprefix).scene hafter.scene

/-- As long as references do not run in a circle, no hook fails or panics, and the scheduler
is neither shut down nor torn down, whatever is enabled comes up, in every run. -/
theorem enables_converge (setup : Setup) (events : List Event)
    (hevents : ∀ e ∈ events, e ≠ .stop ∧ e ≠ .request .shutdown)
    (hpeaceful : ∀ done, done <+: events → (setup.provider.after done).Peaceful) :
    (setup.provider.after events).Converges := by
  obtain ⟨hconvergent, hbooked⟩ := setup.convergent_after events hevents hpeaceful
  have hlaw := setup.lawful_after events
  have hchronicled := setup.chronicled_after events
  generalize setup.provider.after events = p at hconvergent hbooked hlaw hchronicled
  refine ⟨fun i t d n ht hjob outcome hresult => ?_, fun n => ⟨(hchronicled n).2, ?_⟩,
    fun n hstate => ?_, fun n hnot => ?_, fun n hon => ?_, fun n f hf => ?_⟩
  · obtain ⟨u, hu, hsound⟩ := hconvergent.settled i t d n ht hjob
    obtain rfl : t = u := Option.some.inj (ht.symm.trans hu)
    unfold Task.result? at hresult
    rcases hsound with hlive | hcompleted
    · cases hstage : t.stage <;> simp_all [Stage.isLive]
    · rw [hcompleted] at hresult
      exact (Option.some.inj hresult).symm
  · -- nothing but being down leads to being on the way up
    refine List.isChain_iff_getElem.mpr fun k hk => ⟨fun hlater => ?_, fun hearlier => ?_⟩
    · have hnext := List.isChain_iff_getElem.mp (hchronicled n).1 k hk
      exact ServiceState.eq_disabled_of_enabling (hlater ▸ hnext)
    · exact List.isChain_iff_getElem.mp (hbooked n).risen k hk hearlier
  · obtain ⟨i, -, hi, -⟩ := hlaw.orderly.owned.holds n .up hstate
    obtain ⟨t, ht, hjob, hlive⟩ := hconvergent.task_of_enabling hlaw.orderly.owned hstate hi
    exact ⟨i, t, hi, ht, hjob, Task.isFinished_of_isLive hlive⟩
  · rw [← Provider.calls_scene]
    exact (hbooked n).called hnot
  · rw [← Provider.calls_scene]
    exact (hbooked n).calling hon
  · have hkind := (hbooked n).blamed f hf
    rw [hkind]
    exact ⟨by decide, by decide, by decide⟩

/-- Two services that need a third are enabled, one of them twice over, while the third is on its
way up. -/
def overlappingRun : List Event :=
  [.request (.create "plain" ⟨"a"⟩ false), .request (.create "plain" ⟨"b"⟩ false),
    .request (.create "plain" ⟨"c"⟩ false), .request (.setProperty ⟨"b"⟩ "upstream" "a"),
    .request (.setProperty ⟨"c"⟩ "upstream" "a"), .request (.enable ⟨"a"⟩),
    .request (.enable ⟨"b"⟩), .move 2, .request (.enableAll [⟨"b"⟩, ⟨"c"⟩])] ++
  [4, 0, 0, 0, 3, 3, 3, 3, 4, 4, 4, 1, 1, 1, 1, 2, 2, 2].map .move

theorem enables_converge_overlapping :
    (∀ n < 3, ((plain.provider.after overlappingRun).service n).state = .enabled) ∧
      (plain.provider.after overlappingRun).Converges := by
  refine ⟨by decide +kernel, enables_converge plain overlappingRun ?_ fun done hdone => ?_⟩
  · simp [overlappingRun]
  · have hlooks : ∀ done ∈ overlappingRun.inits,
        (plain.provider.after done).looksPeaceful = true := by decide +kernel
    exact Provider.peaceful_of_looksPeaceful (hlooks done ((List.mem_inits _ _).mpr hdone))

end Setup

end ServiceLifecycle

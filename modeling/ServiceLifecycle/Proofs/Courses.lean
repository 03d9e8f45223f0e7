import ServiceLifecycle.Proofs.Ownership

/-!
# The course of a transition

Between the claim of a service and the end of its task a hook is called, unless the task is given
up before, and perhaps a second one to clean up after the first. A body may end in several ways,
and it may also be given up. Each way leaves the task with its ending, and the service with its
state, its fault and its calls.

* **calls** — the calls of a transition whose last has not returned (`Begun`), and where its task
  stands meanwhile (`Course`);
* **stories** — how a transition may have ended (`Story`);
* **owners** — what the task of a transition makes of it (`Scene.proceeds`);
* **others** — what everybody else makes of a service (`Scene.Affects`,
  `Scene.Owned.rests_of_other`, `Scene.Owned.rests_or_claims`).
-/

namespace ServiceLifecycle

/-! ## Calls -/

/-- The calls of a transition, the latest first, as long as the last of them, for this purpose,
has not returned. -/
inductive Begun : Purpose → List JournalEntry → Prop
  | activation (number : Nat) (context : Context) :
      Begun .activation [.began .activate number context.id context.properties]
  | cleanup {calls : List JournalEntry} (failure : String) (number : Nat) (context : Context) :
      Begun .activation calls → Begun (.cleanup failure)
        (.began .deactivate number context.id context.properties ::
          .returned .activate (some failure) :: calls)
  | deactivation (number : Nat) (context : Context) :
      Begun .deactivation [.began .deactivate number context.id context.properties]

/-- Where the task of a transition stands with these calls. -/
inductive Course (d : Direction) (n : Incarnation) : Stage HookRun → List JournalEntry → Prop
  | idle {stage : Stage HookRun} : stage.isLive = true → (∀ wake run, stage ≠ .running wake run) →
      Course d n stage []
  | hook {wake : Option Nat} {run : HookRun} {calls : List JournalEntry} : run.service = n →
      run.purpose.direction = d → Begun run.purpose calls → Course d n (.running wake run) calls

theorem Course.isLive {d : Direction} {n : Incarnation} {stage : Stage HookRun}
    {calls : List JournalEntry} (h : Course d n stage calls) : stage.isLive = true := by
  cases h with
  | idle hlive => exact hlive
  | hook => rfl

/-- A task that is not at a hook has called none. -/
theorem Course.uncalled {d : Direction} {n : Incarnation} {stage : Stage HookRun}
    {calls : List JournalEntry} (h : Course d n stage calls)
    (hstage : ∀ wake run, stage ≠ .running wake run) : calls = [] := by
  cases h with
  | idle => rfl
  | hook => exact absurd rfl (hstage _ _)

/-! ## Stories -/

/-- How a transition may have ended: the calls, the ending of the task, and the state and the
fault of the service. -/
inductive Story (cleansUp : Bool) :
    Direction → List JournalEntry → Ending → ServiceState → Option Fault → Prop
  | activated {calls : List JournalEntry} : Begun .activation calls →
      Story cleansUp .up (.returned .activate none :: calls) .completed .enabled none
  /-- Something that the service refers to was not up. -/
  | unready (reason : String) :
      Story cleansUp .up [] (.failed reason) .disabled (some ⟨.activation, reason⟩)
  | failed {calls : List JournalEntry} (failure text : String) : cleansUp = false →
      Begun .activation calls →
      Story cleansUp .up (.returned .activate (some failure) :: calls) (.failed text) .disabled
        (some ⟨.activation, failure⟩)
  /-- The activation hook failed, and the other one was called to clean up. -/
  | cleaned {calls : List JournalEntry} (failure text : String) (error : Option String) :
      Begun (.cleanup failure) calls →
      Story cleansUp .up (.returned .deactivate error :: calls) (.failed text) .disabled
        (some ⟨.activation, failure⟩)
  | deactivated {calls : List JournalEntry} (error : Option String) : Begun .deactivation calls →
      Story cleansUp .down (.returned .deactivate error :: calls) .completed .disabled
        (error.map fun message => ⟨.deactivation, message⟩)
  /-- The last hook called did not return. -/
  | panicked {purpose : Purpose} {calls : List JournalEntry} (payload : Option String) :
      Begun purpose calls →
      Story cleansUp purpose.direction calls (.panicked payload) purpose.direction.origin
        (some ⟨.aborted, Ending.panicReason payload⟩)
  /-- No hook was called. -/
  | givenUp (d : Direction) (reason : String) :
      Story cleansUp d [] (.aborted reason) d.origin (some ⟨.aborted, reason⟩)

section Hooked

variable {cleansUp : Bool} {n : Incarnation} {purpose : Purpose} {d : Direction}
  {after calls : List JournalEntry} {turn : Turn HookRun} {state : ServiceState}
  {fault : Option Fault} {ending : Ending}

theorem Story.isTransient (h : Story cleansUp d calls ending state fault) :
    state.isTransient = false := by
  cases h with
  | activated | unready | failed | cleaned | deactivated => rfl
  | panicked | givenUp => exact Direction.isTransient_origin _

/-- A transition leads to its goal if and only if its task completes. -/
theorem Story.state_eq_goal (h : Story cleansUp d calls ending state fault) :
    state = d.goal ↔ ending = .completed := by
  cases h with
  | activated | deactivated => simp [Direction.goal]
  | unready | failed | cleaned => simp [Direction.goal]
  | @panicked purpose =>
    cases purpose <;> simp [Purpose.direction, Direction.goal, Direction.origin]
  | givenUp => cases d <;> simp [Direction.goal, Direction.origin]

/-- A hook that falls asleep has been called and has not returned. -/
theorem Hooked.begun {time : Option Nat} {run : HookRun}
    {result : Option (ServiceState × Option Fault)}
    (h : Hooked cleansUp n purpose after (.sleeps time run) result) (hbegun : Begun purpose calls) :
    Begun run.purpose (after ++ calls) := by
  generalize hturn : Turn.sleeps time run = turn at h
  induction h generalizing calls with
  | sleeps =>
    cases hturn
    exact hbegun
  | cleans number context _ _ ih =>
    rw [List.append_assoc, List.append_assoc]
    exact ih (.cleanup _ number context hbegun) hturn
  | panics | activated | failed | cleaned | deactivated => cases hturn

theorem Hooked.story_of_panic {payload : Option String}
    {result : Option (ServiceState × Option Fault)}
    (h : Hooked cleansUp n purpose after (.panics payload) result) (hbegun : Begun purpose calls) :
    Story cleansUp purpose.direction (after ++ calls) (.panicked payload) purpose.direction.origin
      (some ⟨.aborted, Ending.panicReason payload⟩) := by
  generalize hturn : Turn.panics payload = turn at h
  induction h generalizing calls with
  | panics =>
    cases hturn
    exact .panicked payload hbegun
  | cleans number context _ _ ih =>
    rw [List.append_assoc, List.append_assoc]
    exact ih (.cleanup _ number context hbegun) hturn
  | sleeps | activated | failed | cleaned | deactivated => cases hturn

theorem Hooked.story (h : Hooked cleansUp n purpose after turn (some (state, fault)))
    (hend : turn.ending? = some ending) (hbegun : Begun purpose calls) :
    Story cleansUp purpose.direction (after ++ calls) ending state fault := by
  generalize hresult : some (state, fault) = result at h
  induction h generalizing calls with
  | sleeps | panics => cases hresult
  | activated =>
    cases hresult
    cases hend
    exact .activated hbegun
  | failed failure text hcleans =>
    cases hresult
    cases hend
    exact .failed failure text hcleans hbegun
  | cleans number context _ _ ih =>
    rw [List.append_assoc, List.append_assoc]
    exact ih hend (.cleanup _ number context hbegun) hresult
  | cleaned failure text error =>
    cases hresult
    cases hend
    exact .cleaned failure text error hbegun
  | deactivated error =>
    cases hresult
    cases hend
    exact .deactivated error hbegun

end Hooked

namespace Scene

variable {S S' : Scene} {cause : Cause} {i j : TaskId} {t : Task Job HookRun} {n : Incarnation}
  {d : Direction} {calls : List JournalEntry}

theorem cleansUp_of_change (change : Change S cause S') : S'.cleansUp = S.cleansUp := by
  cases change <;> rfl

/-! ## Owners -/

/-- The task of a transition calls a hook, or goes on with the one it has called. -/
theorem Called.begun {purpose : Purpose} {before : List JournalEntry}
    (h : S.Called t n purpose before) (hjob : t.job = some (d.job n))
    (hcourse : Course d n t.stage calls) :
    Begun purpose (before ++ calls) ∧ purpose.direction = d := by
  have hdirection : purpose.direction = d :=
    (Direction.job_inj.mp (Option.some.inj (h.job.symm.trans hjob))).1
  refine ⟨?_, hdirection⟩
  have hnone : t.stage = .waiting → calls = [] :=
    fun hstage => hcourse.uncalled (by simp [hstage])
  cases h with
  | activation number context hstage =>
    rw [hnone hstage]
    exact .activation number context
  | deactivation number context hstage =>
    rw [hnone hstage]
    exact .deactivation number context
  | again hstage =>
    rw [hstage] at hcourse
    cases hcourse with
    | idle _ hnot => exact absurd rfl (hnot _ _)
    | hook _ _ hbegun => exact hbegun

/-- Only a task that has called no hook is given up. -/
theorem Hindered.uncalled (h : S.Hindered t) (halive : S.isAlive = true)
    (hcourse : Course d n t.stage calls) : calls = [] := by
  cases h with
  | gate hstage => exact hcourse.uncalled (by simp [hstage])
  | shut _ hstage => exact hcourse.uncalled (by rcases hstage with h | h <;> simp [h])
  | torn hdead =>
    rw [halive] at hdead
    cases hdead

theorem Concludes.story {entries : List JournalEntry} {state : ServiceState} {fault : Option Fault}
    {ending : Ending} (h : S.Concludes t n entries state fault ending) (halive : S.isAlive = true)
    (hjob : t.job = some (d.job n)) (hcourse : Course d n t.stage calls) :
    Story S.cleansUp d (entries ++ calls) ending state fault := by
  cases h with
  | ends hcalled hooked hend =>
    obtain ⟨hbegun, rfl⟩ := hcalled.begun hjob hcourse
    rw [List.append_assoc]
    exact hooked.story hend hbegun
  | panics hcalled hooked =>
    obtain ⟨hbegun, rfl⟩ := hcalled.begun hjob hcourse
    rw [List.append_assoc]
    exact hooked.story_of_panic hbegun
  | blocked reason hstage hup =>
    obtain ⟨rfl, -⟩ := Direction.job_inj.mp (Option.some.inj (hup.symm.trans hjob))
    rw [hcourse.uncalled (by simp [hstage])]
    exact .unready reason
  | aborts d' reason hlive hjob' hhindered =>
    obtain ⟨rfl, -⟩ := Direction.job_inj.mp (Option.some.inj (hjob'.symm.trans hjob))
    rw [hhindered.uncalled halive hcourse]
    exact .givenUp d' reason

/-- What a step of the task of a transition makes of it, with the calls so far. -/
inductive Proceeds (S S' : Scene) (i : TaskId) (t : Task Job HookRun) (d : Direction)
    (n : Incarnation) (calls : List JournalEntry) : Prop
  /-- The transition goes on. -/
  | goes {stage : Stage HookRun} {new : List JournalEntry} : S'.task? i = some { t with stage } →
      Course d n stage (new ++ calls) → (S'.service n).journal = new ++ (S.service n).journal →
      (S'.service n).history = (S.service n).history → (S'.service n).fault = none →
      Proceeds S S' i t d n calls
  /-- Task and service have come to the end of a story. -/
  | ends {ending : Ending} {state : ServiceState} {new : List JournalEntry} :
      S'.task? i = some { t with stage := .ended ending } →
      Story S.cleansUp d (new ++ calls) ending state (S'.service n).fault →
      (S'.service n).journal = new ++ (S.service n).journal →
      (S'.service n).history = state :: (S.service n).history → Proceeds S S' i t d n calls

theorem proceeds (hpresent : S.Present) (change : Change S (.task i) S') (ht : S.task? i = some t)
    (hjob : t.job = some (d.job n)) (hfault : (S.service n).fault = none)
    (hcourse : Course d n t.stage calls) : Proceeds S S' i t d n calls := by
  have hself : ∀ {T : Scene} {u : Task Job HookRun} (stage : Stage HookRun), S.task? i = some u →
      (T.stand i u stage).task? i = some { t with stage } := by
    intro T u stage hu
    obtain rfl : t = u := Option.some.inj (ht.symm.trans hu)
    rw [task?_stand, if_pos rfl]
  have hservice : ∀ {s : Service} {u : Task Job HookRun} {stage : Stage HookRun},
      ((S.put n s).stand i u stage).service n = s := service_put_self S n _
  cases change with
  | @advances _ u stage hu hadvances =>
    obtain rfl : t = u := Option.some.inj (ht.symm.trans hu)
    obtain ⟨hbefore, hafter⟩ : (∀ wake run, t.stage ≠ .running wake run) ∧
        ∀ wake run, stage ≠ .running wake run := by
      cases hadvances with
      | enters hstage | passes hstage | lines hstage => simp [hstage]
    have hidle : Course d n stage ([] ++ calls) := by
      rw [hcourse.uncalled hbefore]
      exact .idle hadvances.unpassed.2.1 hafter
    exact .goes (hself stage hu) hidle rfl rfl hfault
  | @sleeps _ u m purpose before after time wake run hu hcalled hooked =>
    obtain rfl : t = u := Option.some.inj (ht.symm.trans hu)
    obtain ⟨-, rfl⟩ := Direction.job_inj.mp (Option.some.inj (hjob.symm.trans hcalled.job))
    obtain ⟨hbegun, hdirection⟩ := hcalled.begun hjob hcourse
    obtain ⟨hrun, hsame, -⟩ := hooked.run
    have hhook : Course d n (.running wake run) (after ++ before ++ calls) := by
      rw [List.append_assoc]
      exact .hook hrun (hsame.trans hdirection) (hooked.begun hbegun)
    refine .goes (hself _ hu) hhook ?_ ?_ ?_ <;> rw [hservice]
    · rfl
    · rfl
    · exact hfault
  | @concludes _ u m entries state fault ending hu hconcludes =>
    obtain rfl : t = u := Option.some.inj (ht.symm.trans hu)
    obtain ⟨d', hjob', -⟩ := hconcludes.direction
    obtain ⟨-, rfl⟩ := Direction.job_inj.mp (Option.some.inj (hjob.symm.trans hjob'))
    -- so far the transition had no fault
    have hnone : fault.or (S.service n).fault = fault := by rw [hfault, Option.or_none]
    have hstory : Story S.cleansUp d (entries ++ calls) ending state
        (fault.or (S.service n).fault) := by
      rw [hnone]
      exact hconcludes.story hpresent.isAlive hjob hcourse
    refine .ends (hself _ hu) (?_ : Story S.cleansUp d (entries ++ calls) ending state _) ?_ ?_ <;>
      rw [hservice]
    · exact hstory
    · rfl
    · rfl
  | confirms hu _ hconfirm | denies hu _ hconfirm =>
    obtain rfl : t = _ := Option.some.inj (ht.symm.trans hu)
    exact absurd (Option.some.inj (hjob.symm.trans hconfirm)) Direction.job_ne_confirm
  | drops _ _ hdead =>
    rw [hpresent.isAlive] at hdead
    cases hdead

/-! ## Others -/

/-- A service has come no further. -/
structure Rests (n : Incarnation) (S S' : Scene) : Prop where
  history : (S'.service n).history = (S.service n).history
  journal : (S'.service n).journal = (S.service n).journal
  fault : (S.service n).past ≠ [] → (S'.service n).fault = (S.service n).fault

theorem Rests.refl (n : Incarnation) (S : Scene) : Rests n S S := ⟨rfl, rfl, fun _ => rfl⟩

theorem Rests.trans {T : Scene} (h : Rests n S S') (h' : Rests n S' T) : Rests n S T where
  history := h'.history.trans h.history
  journal := h'.journal.trans h.journal
  fault hpast := by
    have hsame : (S'.service n).past = (S.service n).past := (List.cons.inj h.history).2
    exact (h'.fault (hsame ▸ hpast)).trans (h.fault hpast)

/-- What a change makes of a service. -/
inductive Affects (S : Scene) (n : Incarnation) : Cause → Scene → Prop
  | rests {cause : Cause} {S' : Scene} : Rests n S S' → Affects S n cause S'
  | claims (d : Direction) (name : String) (gates : List TaskId) : (S.service n).state = d.origin →
      Affects S n (.claim d) (S.claimed n d.via name gates (d.job n))
  /-- The task of a transition is at work. -/
  | works {i : TaskId} {t : Task Job HookRun} {S' : Scene} (d : Direction) : S.task? i = some t →
      t.job = some (d.job n) → t.stage.isLive = true → Affects S n (.task i) S'

theorem affects (change : Change S cause S') (n : Incarnation) : Affects S n cause S' := by
  -- a change that puts one service
  have hput : ∀ {k : Incarnation} {s : Service},
      S'.service n = (if n = k then s else S.service n) →
      (n = k → s.history = (S.service k).history ∧ s.journal = (S.service k).journal ∧
        ((S.service k).past ≠ [] → s.fault = (S.service k).fault)) → Rests n S S' := by
    intro k s hservice hs
    split at hservice
    · next heq =>
      subst heq
      obtain ⟨hhistory, hjournal, hfault⟩ := hs rfl
      exact ⟨hservice ▸ hhistory, hservice ▸ hjournal, fun hpast => hservice ▸ hfault hpast⟩
    · exact ⟨hservice ▸ rfl, hservice ▸ rfl, fun _ => hservice ▸ rfl⟩
  cases change with
  | appears id typeName descriptors behaviour isRegistered hnew =>
    refine .rests ?_
    by_cases heq : n = S.size
    · subst heq
      refine ⟨?_, ?_, ?_⟩
      · rw [service_appear_self, hnew]
        rfl
      · rw [service_appear_self, hnew]
        rfl
      · rw [hnew]
        exact fun hpast => absurd rfl hpast
    · have hsame : (S.appear { id, typeName, descriptors, behaviour } isRegistered).service n =
          S.service n := service_appear_of_ne heq
      exact ⟨by rw [hsame], by rw [hsame], fun _ => by rw [hsame]⟩
  | @edits k properties => exact .rests (hput (service_put S k n _) fun _ => ⟨rfl, rfl, fun _ => rfl⟩)
  | @removes k => exact .rests (hput (service_put S k n _) fun _ => ⟨rfl, rfl, fun _ => rfl⟩)
  | blames message _ hpast =>
    exact .rests (hput (service_put S _ n _) fun _ => ⟨rfl, rfl, fun hne => absurd hpast hne⟩)
  | shuts | stops | joins | advances | confirms | denies | drops =>
    exact .rests ⟨rfl, rfl, fun _ => rfl⟩
  | @claims d k name gates _ horigin =>
    by_cases heq : n = k
    · subst heq
      exact .claims d name gates horigin
    · exact .rests (hput (service_put (S.push name gates _) k n _) fun h => absurd h heq)
  | @sleeps i t k _ _ _ _ _ _ ht hcalled =>
    by_cases heq : n = k
    · subst heq
      exact .works _ ht hcalled.job (Stage.isLive_of_isFree hcalled.isFree)
    · exact .rests (hput (service_put S k n _) fun h => absurd h heq)
  | @concludes i t k _ _ _ _ ht hconcludes =>
    by_cases heq : n = k
    · subst heq
      obtain ⟨d, hjob, hlive, -⟩ := hconcludes.direction
      exact .works d ht hjob hlive
    · exact .rests (hput (service_put S k n _) fun h => absurd h heq)

/-- Only its own moves, and its teardown, put a task at another stage. -/
theorem Gated.task_of_other (h : Gated S) (change : Change S cause S') (hcause : cause ≠ .task i)
    (ht : S.task? i = some t) : S'.task? i = some t := by
  have hne : i ≠ S.submitted := Nat.ne_of_lt (h.known i t ht)
  have hother : ∀ {j : TaskId}, cause = .task j → i ≠ j := fun hj heq => hcause (heq ▸ hj)
  cases change with
  | appears | edits | removes | blames | shuts | stops => exact ht
  | claims d name => exact (task?_push S name _ _ i).trans ((if_neg hne).trans ht)
  | joins n name => exact (task?_push S name _ _ i).trans ((if_neg hne).trans ht)
  | advances | sleeps | concludes | confirms | denies | drops =>
    rw [task?_stand, if_neg (hother rfl)]
    exact ht

/-- Nobody else moves a service that has an owner. -/
theorem Owned.rests_of_other (h : Owned S) (change : Change S cause S') (hcause : cause ≠ .task i)
    (ht : S.task? i = some t) (hjob : t.job = some (d.job n)) (hlive : t.stage.isLive = true) :
    Rests n S S' := by
  obtain ⟨hvia, howner⟩ := h.held i t d n ht hjob hlive
  cases affects change n with
  | rests hrests => exact hrests
  | claims d' name gates horigin =>
    have htransient := d.isTransient_via
    rw [← hvia, horigin, d'.isTransient_origin] at htransient
    cases htransient
  | works d' hu hjob' hlive' =>
    rw [(h.held _ _ d' n hu hjob' hlive').2] at howner
    exact absurd (congrArg Cause.task (Option.some.inj howner)) hcause

/-- A service at rest comes no further unless it is claimed. -/
theorem Owned.rests_or_claims (h : Owned S) (change : Change S cause S')
    (hrest : (S.service n).state.isTransient = false) :
    Rests n S S' ∨ ∃ (d : Direction) (name : String) (gates : List TaskId),
      (S.service n).state = d.origin ∧ S' = S.claimed n d.via name gates (d.job n) := by
  cases affects change n with
  | rests hrests => exact .inl hrests
  | claims d name gates horigin => exact .inr ⟨d, name, gates, horigin, rfl⟩
  | works d ht hjob hlive =>
    rw [(h.held _ _ d n ht hjob hlive).1, d.isTransient_via] at hrest
    cases hrest

end Scene

end ServiceLifecycle

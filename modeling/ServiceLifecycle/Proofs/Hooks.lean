import ServiceLifecycle.Proofs.Scene

/-!
# What the bodies of tasks do

A body acts on no service but its own. It calls hooks, writes down when they begin
and return, and at its end moves the service on.

* **hooked** — what may come of a hook, from the moment where it was called on, with
  all that follows in the same turn (`Hooked`, `hooked_of_continue`);
* **start** — what a body does with its first turn (`start_enable`, `start_confirm`,
  `start_disable`);
* **abort** — what is done for a body that cannot go on (`outline_giveUpJob`), which never panics
  (`Registry.isCalm_workload`).
-/

namespace ServiceLifecycle

/-- What may come of a hook called for a purpose: the calls and returns that follow in the
same turn, the latest first, the turn, and the end of the transition if it ends. -/
inductive Hooked (cleansUp : Bool) (n : Incarnation) :
    Purpose → List JournalEntry → Turn HookRun → Option (ServiceState × Option Fault) → Prop
  | sleeps (purpose : Purpose) (time : Option Nat) (context : Context) (rest : List HookAction) :
      Hooked cleansUp n purpose [] (.sleeps time ⟨n, purpose, context, rest⟩) none
  | panics (purpose : Purpose) (payload : Option String) :
      Hooked cleansUp n purpose [] (.panics payload) none
  | activated :
      Hooked cleansUp n .activation [.returned .activate none] .returns (some (.enabled, none))
  | failed (failure text : String) : cleansUp = false →
      Hooked cleansUp n .activation [.returned .activate (some failure)] (.fails text)
        (some (.disabled, some ⟨.activation, failure⟩))
  /-- The activation failed and the other hook is called to clean up. -/
  | cleans {failure : String} {entries : List JournalEntry} {turn : Turn HookRun}
      {ending : Option (ServiceState × Option Fault)} (number : Nat) (context : Context) :
      cleansUp = true → Hooked cleansUp n (.cleanup failure) entries turn ending →
      Hooked cleansUp n .activation
        (entries ++ [.began .deactivate number context.id context.properties] ++
          [.returned .activate (some failure)]) turn ending
  | cleaned (failure text : String) (error : Option String) :
      Hooked cleansUp n (.cleanup failure) [.returned .deactivate error] (.fails text)
        (some (.disabled, some ⟨.activation, failure⟩))
  | deactivated (error : Option String) :
      Hooked cleansUp n .deactivation [.returned .deactivate error] .returns
        (some (.disabled, error.map fun message => ⟨.deactivation, message⟩))

/-- The state of a service one of whose hooks was called for a purpose. -/
def Purpose.source : Purpose → ServiceState
  | .activation | .cleanup _ => .enabling
  | .deactivation => .disabling

/-- The service is where a job that has not been done yet should find it. -/
def Job.Underway (o : Outline) : Job → Prop
  | .enable n => (o.service n).state = .enabling
  | .confirm _ => True
  | .disable n => (o.service n).state = .disabling

/-- What is done for a job that cannot be done. -/
def Outline.giveUp (o : Outline) (reason : String) : Job → Outline
  | .enable n => o.settle n (some (.disabled, some ⟨.aborted, reason⟩))
  | .confirm _ => o
  | .disable n => o.settle n (some (.enabled, some ⟨.aborted, reason⟩))

namespace Registry

variable {r : Registry} {n : Incarnation}

/-- Whatever a hook does, it leaves the outline as it is. -/
theorem outline_play (n : Incarnation) (c : Context) (script : List HookAction) (r : Registry) :
    (play n c script r).2.outline = r.outline := by
  fun_induction play n c script r with
  | case1 | case3 | case4 | case5 | case6 | case8 | case9 => rfl
  | case2 | case7 => assumption
  | case10 rest r entries memory hset ih => exact ih
  | case11 r rest ih =>
    rw [ih]
    refine outline_modify_eq _ fun s => ?_
    rw [Service.outline_record]
    rfl
  | case12 r remark rest ih => rw [ih, outline_say]

theorem state_play {c : Context} {script : List HookAction} :
    ((play n c script r).2.service n).state = (r.service n).state :=
  congrArg (fun o : Outline => (o.service n).state) (outline_play n c script r)

theorem cleansUp_play {c : Context} {script : List HookAction} :
    (play n c script r).2.outline.cleansUp = r.outline.cleansUp :=
  congrArg Outline.cleansUp (outline_play n c script r)

theorem outline_record_call (hn : n < r.services.size) {e : JournalEntry} (he : e.isCall = true) :
    (r.modify n fun s => s.record e).outline = r.outline.record n [e] := by
  rw [outline_modify hn, Service.outline_record, if_pos he]
  rfl

/-- Neither saying something nor writing something down moves a service on. -/
theorem state_of_outline_record {r' : Registry} {es : List JournalEntry}
    (h : r'.outline = r.outline.record n es) :
    (r'.service n).state = (r.service n).state := by
  have := congrArg (fun o : Outline => (o.service n).state) h
  simpa [Outline.record, Outline.service_put, Service.recordAll, outline, Service.outline] using this

theorem outline_failActivation (failure : String) (h : (r.service n).state = .enabling) :
    (r.failActivation n failure).2.outline =
      r.outline.settle n (some (.disabled, some ⟨.activation, failure⟩)) :=
  (outline_complete _ _ h (by simp)).2

theorem outline_finishDeactivation (fault : Option Fault)
    (h : (r.service n).state = .disabling) :
    (r.finishDeactivation n fault).1 = .returns ∧
      (r.finishDeactivation n fault).2.outline = r.outline.settle n (some (.disabled, fault)) := by
  refine ⟨rfl, Eq.trans ?_ (outline_complete .disabled fault h (by simp)).2⟩
  simp only [finishDeactivation]
  split <;> rfl

theorem hooked_afterCleanup (c : Context) (failure : String) (turn : Turn (List HookAction))
    (h : (r.service n).state = .enabling) :
    ∃ entries ending,
      Hooked r.outline.cleansUp n (.cleanup failure) entries (afterCleanup n c failure (turn, r)).1 ending ∧
      (afterCleanup n c failure (turn, r)).2.outline =
        (r.outline.record n entries).settle n ending := by
  have hn := lt_of_state (n := n) (r := r) (by simp [h])
  cases turn with
  | sleeps time rest =>
    exact ⟨[], none, .sleeps _ _ _ _, by simp [afterCleanup, Outline.settle]⟩
  | panics payload => exact ⟨[], none, .panics _ _, by simp [afterCleanup, Outline.settle]⟩
  | returns =>
    have hreturn := outline_record_call hn (e := .returned .deactivate none) rfl
    refine ⟨_, _, .cleaned failure _ none, ?_⟩
    rw [← hreturn]
    exact outline_failActivation failure ((state_of_outline_record hreturn).trans h)
  | fails message =>
    have hreturn := outline_record_call hn (e := .returned .deactivate (some message)) rfl
    refine ⟨_, _, .cleaned failure _ (some message), ?_⟩
    rw [← hreturn]
    exact outline_failActivation failure ((state_of_outline_record hreturn).trans h)

theorem hooked_afterActivation (c : Context) (turn : Turn (List HookAction))
    (h : (r.service n).state = .enabling) :
    ∃ entries ending,
      Hooked r.outline.cleansUp n .activation entries (afterActivation n c (turn, r)).1 ending ∧
      (afterActivation n c (turn, r)).2.outline =
        (r.outline.record n entries).settle n ending := by
  have hn := lt_of_state (n := n) (r := r) (by simp [h])
  cases turn with
  | sleeps time rest =>
    exact ⟨[], none, .sleeps _ _ _ _, by simp [afterActivation, Outline.settle]⟩
  | panics payload => exact ⟨[], none, .panics _ _, by simp [afterActivation, Outline.settle]⟩
  | returns =>
    have hreturn := outline_record_call hn (e := .returned .activate none) rfl
    have hcomplete := (outline_complete (r := r.recordReturn n .activate none) .enabled
      none ((state_of_outline_record hreturn).trans h) (by simp)).2
    refine ⟨_, _, .activated, ?_⟩
    rw [← hreturn]
    refine Eq.trans ?_ hcomplete
    simp only [afterActivation]
    split <;> rfl
  | fails message =>
    have hreturn := outline_record_call hn (e := .returned .activate (some message)) rfl
    have hstate := (state_of_outline_record hreturn).trans h
    by_cases hcleans : r.config.deactivateOnFailedActivation = true
    · -- the cleanup goes on from where the other hook was called
      let q := (r.recordReturn n .activate (some message)).say
        ⟨.warn, s!"Failed to enable controller service {r.nameOf n}: {message}"⟩
      have hqn : n < q.services.size := by
        simpa [q, recordReturn, modify, say] using hn
      have hcall := outline_record_call hqn (e := .began .deactivate
        ((q.service n).calls .deactivate + 1) c.id c.properties) rfl
      have hplay := outline_play n c (q.callHook n .deactivate c).1 (q.callHook n .deactivate c).2
      obtain ⟨entries, ending, hooked, houtline⟩ := hooked_afterCleanup c message
        (play n c (q.callHook n .deactivate c).1 (q.callHook n .deactivate c).2).1
        (r := (play n c (q.callHook n .deactivate c).1 (q.callHook n .deactivate c).2).2)
        (state_play.trans ((state_of_outline_record hcall).trans hstate))
      have heq : afterActivation n c (.fails message, r) = afterCleanup n c message
          (play n c (q.callHook n .deactivate c).1 (q.callHook n .deactivate c).2) :=
        if_pos hcleans
      rw [heq]
      rw [cleansUp_play] at hooked
      refine ⟨_, _, .cleans ((q.service n).calls .deactivate + 1) c hcleans hooked, ?_⟩
      rw [houtline, hplay, ← Outline.record_record, ← Outline.record_record, ← hreturn]
      exact congrArg (fun o => (Outline.record o n entries).settle n ending) hcall
    · have heq : afterActivation n c (.fails message, r) =
          ((r.recordReturn n .activate (some message)).say _).failActivation n message :=
        if_neg hcleans
      rw [heq]
      refine ⟨_, _, .failed message _ (Bool.eq_false_iff.mpr hcleans), ?_⟩
      rw [← hreturn]
      exact outline_failActivation message hstate

theorem hooked_afterDeactivation (c : Context) (turn : Turn (List HookAction))
    (h : (r.service n).state = .disabling) :
    ∃ entries ending,
      Hooked r.outline.cleansUp n .deactivation entries (afterDeactivation n c (turn, r)).1 ending ∧
      (afterDeactivation n c (turn, r)).2.outline =
        (r.outline.record n entries).settle n ending := by
  have hn := lt_of_state (n := n) (r := r) (by simp [h])
  cases turn with
  | sleeps time rest =>
    exact ⟨[], none, .sleeps _ _ _ _, by simp [afterDeactivation, Outline.settle]⟩
  | panics payload => exact ⟨[], none, .panics _ _, by simp [afterDeactivation, Outline.settle]⟩
  | returns =>
    have hreturn := outline_record_call hn (e := .returned .deactivate none) rfl
    have hfinish := outline_finishDeactivation none ((state_of_outline_record hreturn).trans h)
    refine ⟨_, _, .deactivated none, ?_⟩
    rw [← hreturn]
    exact hfinish.2
  | fails message =>
    have hreturn := outline_record_call hn (e := .returned .deactivate (some message)) rfl
    refine ⟨_, _, .deactivated (some message), ?_⟩
    rw [← hreturn]
    exact (outline_finishDeactivation (r := (r.recordReturn n .deactivate (some message)).say _)
      (some ⟨.deactivation, message⟩) ((state_of_outline_record hreturn).trans h)).2

/-- What a body does when it goes on after a sleep. -/
theorem hooked_of_continue (run : HookRun)
    (h : (r.service run.service).state = run.purpose.source) :
    ∃ entries ending,
      Hooked r.outline.cleansUp run.service run.purpose entries (continueHook run r).1 ending ∧
      (continueHook run r).2.outline =
        (r.outline.record run.service entries).settle run.service ending := by
  have hplay := outline_play run.service run.context run.rest r
  have hstate : ((play run.service run.context run.rest r).2.service run.service).state =
      (r.service run.service).state := state_play
  unfold continueHook
  rw [← hplay]
  cases hpurpose : run.purpose with
  | activation =>
    exact hooked_afterActivation run.context _ (hstate.trans (by rw [h, hpurpose]; rfl))
  | cleanup failure =>
    exact hooked_afterCleanup run.context failure _ (hstate.trans (by rw [h, hpurpose]; rfl))
  | deactivation =>
    exact hooked_afterDeactivation run.context _ (hstate.trans (by rw [h, hpurpose]; rfl))

/-! ## First turns -/

theorem missingDependency?_eq_none :
    r.missingDependency? n = none ↔
      ∀ y ∈ (r.service n).references, r.stateOf? y = some .enabled := by
  unfold missingDependency?
  rw [List.findSome?_eq_none_iff]
  refine forall₂_congr fun y _ => ?_
  cases hstate : r.stateOf? y with
  | none => simp
  | some state => cases state <;> simp

/-- A body that is to bring its service up: it finds something missing, or calls the hook. -/
theorem start_enable (h : (r.service n).state = .enabling) :
    (∃ reason, ¬ (∀ y ∈ (r.service n).references, r.stateOf? y = some .enabled) ∧
      (startJob (.enable n) r).1 = .fails reason ∧
      (startJob (.enable n) r).2.outline =
        r.outline.settle n (some (.disabled, some ⟨.activation, reason⟩))) ∨
    (∀ y ∈ (r.service n).references, r.stateOf? y = some .enabled) ∧
      ∃ number, ∃ context : Context, ∃ entries ending,
        Hooked r.outline.cleansUp n .activation entries (startJob (.enable n) r).1 ending ∧
        (startJob (.enable n) r).2.outline = (r.outline.record n
          (entries ++ [.began .activate number context.id context.properties])).settle n ending := by
  rw [← missingDependency?_eq_none]
  cases hmissing : r.missingDependency? n with
  | some reason =>
    simp only [startJob, hmissing]
    exact .inl ⟨reason, by simp, rfl, (outline_complete (r := r.say _) _ _ h (by simp)).2⟩
  | none =>
    have hn := lt_of_state (n := n) (r := r) (by simp [h])
    have hcall := outline_record_call (r := (r.contextFor n).2) hn (e := .began .activate
      (((r.contextFor n).2.service n).calls .activate + 1) (r.contextFor n).1.id
        (r.contextFor n).1.properties) rfl
    obtain ⟨entries, ending, hooked, houtline⟩ := hooked_afterActivation
      (r.contextFor n).1 _ (state_play.trans ((state_of_outline_record hcall).trans h))
    rw [cleansUp_play] at hooked
    simp only [startJob, hmissing]
    refine .inr ⟨trivial, ((r.contextFor n).2.service n).calls .activate + 1, (r.contextFor n).1,
      entries, ending, hooked, ?_⟩
    rw [← Outline.record_record]
    refine houtline.trans ?_
    rw [outline_play]
    exact congrArg (fun o => (Outline.record o n entries).settle n ending) hcall

/-- A body that is to see whether its service is up. -/
theorem start_confirm (n : Incarnation) (r : Registry) :
    (startJob (.confirm n) r).2 = r ∧
      ((r.service n).state = .enabled ∧ (startJob (.confirm n) r).1 = .returns ∨
       (r.service n).state ≠ .enabled ∧ ∃ text, (startJob (.confirm n) r).1 = .fails text) := by
  cases h : (r.service n).state <;> simp [startJob, h]

/-- A body that is to take its service down. -/
theorem start_disable (h : (r.service n).state = .disabling) :
    ∃ number, ∃ context : Context, ∃ entries ending,
      Hooked r.outline.cleansUp n .deactivation entries (startJob (.disable n) r).1 ending ∧
      (startJob (.disable n) r).2.outline = (r.outline.record n
        (entries ++ [.began .deactivate number context.id context.properties])).settle n ending := by
  have hn := lt_of_state (n := n) (r := r) (by simp [h])
  have hcall := outline_record_call (r := (r.contextFor n).2) hn (e := .began .deactivate
    (((r.contextFor n).2.service n).calls .deactivate + 1) (r.contextFor n).1.id
      (r.contextFor n).1.properties) rfl
  obtain ⟨entries, ending, hooked, houtline⟩ := hooked_afterDeactivation
    (r.contextFor n).1 _ (state_play.trans ((state_of_outline_record hcall).trans h))
  rw [cleansUp_play] at hooked
  refine ⟨((r.contextFor n).2.service n).calls .deactivate + 1, (r.contextFor n).1, entries, ending,
    hooked, ?_⟩
  rw [← Outline.record_record]
  refine houtline.trans ?_
  rw [outline_play]
  exact congrArg (fun o => (Outline.record o n entries).settle n ending) hcall

/-- Giving a job up puts the service back where it was. -/
theorem outline_giveUpJob {job : Job} (reason : String) (h : job.Underway r.outline) :
    (giveUpJob job reason r).outline = r.outline.giveUp reason job := by
  cases job with
  | enable n => exact (outline_complete (r := say _ _) _ _ h (by simp)).2
  | confirm n => rfl
  | disable n => exact (outline_complete (r := say _ _) _ _ h (by simp)).2

/-- Nothing panics when a job is given up. -/
theorem isCalm_workload : workload.IsCalm := fun _ _ _ => rfl

end Registry

end ServiceLifecycle

import ServiceLifecycle.Proofs.Handles
import ServiceLifecycle.Proofs.Orderly

/-!
# Footprints

The body of a task works for one service. It may write to the journal of that service, move it
on, and use the memory that its hooks were given, which is that of the service. It leaves every
other service as it is, and the memory of every other component.

* **footprint** — what may become of a registry on behalf of a service (`Registry.Tends`,
  `Registry.Spares`), and that bodies do no more (`Registry.works_startJob`,
  `Registry.works_continueHook`, `Registry.tends_giveUpJob`);
* **moves** — a task leaves alone what does not belong to its service, whether it moves
  (`Scheduler.Moves.tends`) or is torn down (`Scheduler.Torn.tends`).
-/

namespace ServiceLifecycle

/-! ## Footprint -/

namespace Registry

open Memory

variable {r r' r'' : Registry} {n : Incarnation} {c : Context}

/-- What may become of a registry on behalf of a service. -/
structure Tends (n : Incarnation) (r r' : Registry) : Prop where
  others : ∀ m, m ≠ n → r'.service m = r.service m
  id : (r'.service n).id = (r.service n).id
  memory : Uses (r.service n).id.text r.memory r'.memory
  components : r'.components = r.components

/-- Nothing becomes of services, memory and components. -/
structure Spares (r r' : Registry) : Prop where
  services : r'.services = r.services
  memory : r'.memory = r.memory
  components : r'.components = r.components

theorem Tends.refl (n : Incarnation) (r : Registry) : Tends n r r :=
  ⟨fun _ _ => rfl, rfl, .refl, rfl⟩

theorem Tends.trans (h : Tends n r r') (h' : Tends n r' r'') : Tends n r r'' :=
  ⟨fun m hm => (h'.others m hm).trans (h.others m hm), h'.id.trans h.id,
    h.memory.trans (h.id ▸ h'.memory), h'.components.trans h.components⟩

theorem Tends.modify (h : Tends n r r') {f : Service → Service} (hf : ∀ s, (f s).id = s.id) :
    Tends n r (r'.modify n f) := by
  have hlook : ∀ m, (r'.modify n f).service m = r'.service m ∨
      m = n ∧ (r'.modify n f).service m = f (r'.service m) := by
    intro m
    unfold Registry.modify Registry.service
    rw [Array.getElem?_modify]
    split
    · next heq =>
      cases hm : r'.services[m]? with
      | none => exact .inl rfl
      | some s => exact .inr ⟨heq.symm, rfl⟩
    · exact .inl rfl
  refine ⟨fun m hm => ?_, ?_, h.memory, h.components⟩
  · rcases hlook m with heq | ⟨heq, -⟩
    · exact heq.trans (h.others m hm)
    · exact absurd heq hm
  · rcases hlook n with heq | ⟨-, heq⟩
    · rw [heq, h.id]
    · rw [heq, hf, h.id]

theorem Tends.say (h : Tends n r r') (remark : Remark) : Tends n r (r'.say remark) :=
  ⟨h.others, h.id, h.memory, h.components⟩

theorem Tends.complete (h : Tends n r r') (source target : ServiceState) (fault : Option Fault) :
    Tends n r (r'.complete n source target fault).2 := by
  unfold Registry.complete
  dsimp only
  split
  · exact h.modify fun _ => rfl
  · exact h.say _

/-- The memory that a hook was given goes on belonging to its service. -/
theorem Tends.component? (h : Tends n r r') {k : Handle}
    (hk : r.memory.component? k = some (r.service n).id.text) :
    r'.memory.component? k = some (r'.service n).id.text := by
  rw [h.id]
  exact h.memory.component? hk

theorem Tends.callHook (h : Tends n r r') (hook : Hook) (c : Context) :
    Tends n r (r'.callHook n hook c).2 := h.modify fun _ => rfl

theorem Tends.recordReturn (h : Tends n r r') (hook : Hook) (error : Option String) :
    Tends n r (r'.recordReturn n hook error) := h.modify fun _ => rfl

/-- A hook uses the memory that it was given. -/
theorem tends_play (n : Incarnation) (c : Context) (script : List HookAction) (r : Registry)
    (hc : r.memory.component? c.memory = some (r.service n).id.text) :
    Tends n r (play n c script r).2 := by
  fun_induction play n c script r with
  | case1 | case3 | case4 | case5 | case6 | case8 | case9 => exact .refl n _
  | case2 _ _ ih | case7 _ _ _ _ ih => exact ih hc
  | case10 entries rest r memory hset ih =>
    have hstored : Tends n r { r with memory } := ⟨fun _ _ => rfl, rfl, uses_set hc hset, rfl⟩
    exact hstored.trans (ih (hstored.component? hc))
  | case11 rest r ih =>
    have hnoted : Tends n r (r.modify n fun s => s.record (.noted c.description)) :=
      (Tends.refl n r).modify fun _ => rfl
    exact hnoted.trans (ih (hnoted.component? hc))
  | case12 remark rest r ih => exact ((Tends.refl n r).say remark).trans (ih hc)

theorem Tends.play (h : Tends n r r') (c : Context) (script : List HookAction)
    (hc : r.memory.component? c.memory = some (r.service n).id.text) :
    Tends n r (play n c script r').2 := h.trans (tends_play n c script r' (h.component? hc))

theorem Tends.failActivation (h : Tends n r r') (failure : String) :
    Tends n r (r'.failActivation n failure).2 := h.complete ..

theorem Tends.finishDeactivation (h : Tends n r r') (fault : Option Fault) :
    Tends n r (r'.finishDeactivation n fault).2 := by
  have hdone := h.complete .disabling .disabled fault
  unfold Registry.finishDeactivation
  dsimp only
  split
  · exact hdone.say _
  · exact hdone

/-- What a turn of a body makes of a registry on behalf of a service. A hook that falls asleep
has the memory of the service. -/
structure Works (n : Incarnation) (r : Registry) (result : Turn HookRun × Registry) : Prop where
  tends : Tends n r result.2
  asleep : ∀ time run, result.1 = .sleeps time run →
    result.2.memory.component? run.context.memory = some (r.service n).id.text

theorem Tends.works {turn : Turn HookRun} (h : Tends n r r')
    (hawake : ∀ time run, turn ≠ .sleeps time run) : Works n r (turn, r') :=
  ⟨h, fun time run heq => absurd heq (hawake time run)⟩

section Given

/-! The hook was given the memory of its service. -/

variable (hc : r.memory.component? c.memory = some (r.service n).id.text)

include hc

theorem Tends.asleep (h : Tends n r r') (time : Option Nat) (purpose : Purpose)
    (rest : List HookAction) : Works n r (.sleeps time ⟨n, purpose, c, rest⟩, r') where
  tends := h
  asleep _ run heq := by
    obtain rfl := (Turn.sleeps.inj heq).2
    exact h.memory.component? hc

theorem Tends.afterCleanup (h : Tends n r r') (failure : String)
    (turn : Turn (List HookAction)) : Works n r (afterCleanup n c failure (turn, r')) := by
  cases turn with
  | sleeps time rest => exact h.asleep hc time (.cleanup failure) rest
  | panics => exact h.works (by simp)
  | returns =>
    exact ((h.recordReturn .deactivate none).failActivation failure).works (by simp)
  | fails message =>
    exact (((h.recordReturn .deactivate (some message)).say _).failActivation failure).works
      (by simp)

theorem Tends.afterActivation (h : Tends n r r') (turn : Turn (List HookAction)) :
    Works n r (afterActivation n c (turn, r')) := by
  cases turn with
  | sleeps time rest => exact h.asleep hc time .activation rest
  | panics => exact h.works (by simp)
  | returns =>
    have hdone := (h.recordReturn .activate none).complete .enabling .enabled none
    refine Tends.works ?_ (by simp)
    split
    · exact hdone.say _
    · exact hdone
  | fails message =>
    have hfailed := (h.recordReturn .activate (some message)).say
    unfold Registry.afterActivation
    dsimp only
    split
    · exact (((hfailed _).callHook .deactivate c).play c _ hc).afterCleanup hc message _
    · exact ((hfailed _).failActivation message).works (by simp)

theorem Tends.afterDeactivation (h : Tends n r r') (turn : Turn (List HookAction)) :
    Works n r (afterDeactivation n c (turn, r')) := by
  cases turn with
  | sleeps time rest => exact h.asleep hc time .deactivation rest
  | panics => exact h.works (by simp)
  | returns => exact ((h.recordReturn .deactivate none).finishDeactivation none).works (by simp)
  | fails message =>
    exact (((h.recordReturn .deactivate (some message)).say _).finishDeactivation _).works
      (by simp)

end Given

theorem works_continueHook (run : HookRun) (r : Registry)
    (hrun : r.memory.component? run.context.memory = some (r.service run.service).id.text) :
    Works run.service r (continueHook run r) := by
  have hplay := tends_play run.service run.context run.rest r hrun
  unfold continueHook
  dsimp only
  split
  · exact hplay.afterActivation hrun _
  · exact hplay.afterCleanup hrun _ _
  · exact hplay.afterDeactivation hrun _

theorem tends_contextFor (r : Registry) (n : Incarnation) : Tends n r (r.contextFor n).2 :=
  ⟨fun _ _ => rfl, rfl, uses_acquire _ _, rfl⟩

/-- What comes after may be looked at from before. -/
theorem Works.from {result : Turn HookRun × Registry} (h : Works n r' result)
    (htends : Tends n r r') : Works n r result :=
  ⟨htends.trans h.tends, fun time run heq => htends.id ▸ h.asleep time run heq⟩

theorem works_startJob (hsound : r.memory.Sound) (d : Direction) (n : Incarnation) :
    Works n r (startJob (d.job n) r) := by
  have hcontext := tends_contextFor r n
  have hc : (r.contextFor n).2.memory.component? (r.contextFor n).1.memory =
      some ((r.contextFor n).2.service n).id.text := hsound.component?_acquire _
  have hplay := fun hook => ((Tends.refl n (r.contextFor n).2).callHook hook
    (r.contextFor n).1).play (r.contextFor n).1 ((r.contextFor n).2.callHook n hook
      (r.contextFor n).1).1 hc
  cases d with
  | up =>
    show Works n r (startJob (.enable n) r)
    unfold startJob
    dsimp only
    split
    · exact (((Tends.refl n r).say _).complete ..).works (by simp)
    · exact ((hplay .activate).afterActivation hc _).from hcontext
  | down => exact ((hplay .deactivate).afterDeactivation hc _).from hcontext

theorem tends_giveUpJob (d : Direction) (n : Incarnation) (reason : String) (r : Registry) :
    Tends n r (giveUpJob (d.job n) reason r) := by
  cases d with
  | up | down => exact ((Tends.refl n r).say _).complete ..

end Registry

/-! ## Moves -/

namespace Scheduler

open Registry

variable {i : TaskId} {s : Scheduler Job HookRun} {r r' : Registry} {t : Task Job HookRun}
  {d : Direction} {n : Incarnation} {tasks tasks' : Array (Task Job HookRun)}

theorem tends_told (hjob : t.job = some (d.job n)) (ending : Ending) (h : Tends n r r') :
    Tends n r (told workload t ending r') := by
  unfold told
  split
  · next job reason hjob' _ _ =>
    obtain rfl := Option.some.inj (hjob'.symm.trans hjob)
    exact h.trans (tends_giveUpJob d n reason r')
  · exact h

theorem tends_remarked (t : Task Job HookRun) (ending : Ending) (h : Tends n r r') :
    Tends n r (remarked workload t ending r') := by
  unfold remarked
  split
  · exact h.say _
  · exact h

theorem works_turn {turn : Turn HookRun} (hjob : t.job = some (d.job n))
    (hturn : t.turn? workload r = some (turn, r')) (hsound : r.memory.Sound)
    (hrun : ∀ wake run, t.stage = .running wake run → run.service = n ∧
      r.memory.component? run.context.memory = some (r.service n).id.text) :
    Works n r (turn, r') := by
  unfold Task.turn? at hturn
  split at hturn
  · next job _ hjob' =>
    obtain rfl := Option.some.inj (hjob'.symm.trans hjob)
    exact Option.some.inj hturn ▸ works_startJob hsound d n
  · next wake run hstage =>
    obtain ⟨rfl, hcomponent⟩ := hrun _ _ hstage
    exact Option.some.inj hturn ▸ works_continueHook run r hcomponent
  · cases hturn

/-- A move of the task of a transition leaves alone what does not belong to its service, and a hook
that is asleep afterwards has the memory of the service. -/
theorem Moves.tends (hmoves : Moves workload i s r tasks r') (ht : s.tasks[i]? = some t)
    (hjob : t.job = some (d.job n)) (hsound : r.memory.Sound)
    (hrun : ∀ wake run, t.stage = .running wake run → run.service = n ∧
      r.memory.component? run.context.memory = some (r.service n).id.text) :
    Tends n r r' ∧ ∀ t' wake run, tasks[i]? = some t' → t'.stage = .running wake run →
      r'.memory.component? run.context.memory = some (r.service n).id.text := by
  have hsame : ∀ {u : Task Job HookRun}, s.tasks[i]? = some u → u = t :=
    fun hu => Option.some.inj (hu.symm.trans ht)
  -- what is at another stage than a hook is not asleep
  have hawake : ∀ {stage : Stage HookRun} {P : HookRun → Prop},
      (∀ wake run, stage ≠ .running wake run) → ∀ t' wake run,
        (putStage s.tasks i stage)[i]? = some t' → t'.stage = .running wake run → P run := by
    intro stage P hstage t' wake run ht' hwake
    rw [getElem?_putStage, if_pos rfl, ht] at ht'
    obtain rfl := Option.some.inj ht'
    exact absurd hwake (hstage wake run)
  cases hmoves with
  | enters | passes | lines => exact ⟨.refl n r, hawake (by simp)⟩
  | gateFails hu _ _ _ _ hcloses | refused hu _ _ hcloses =>
    obtain ⟨rfl, rfl⟩ := hcloses.calm isCalm_workload
    obtain rfl := hsame hu
    exact ⟨tends_told hjob _ (tends_remarked _ _ (.refl n r)), hawake (by simp)⟩
  | sleeps hu hturn =>
    obtain rfl := hsame hu
    have hworks := works_turn hjob hturn hsound hrun
    refine ⟨hworks.tends, fun t' wake run ht' hwake => ?_⟩
    rw [getElem?_putStage, if_pos rfl, ht] at ht'
    obtain rfl := Option.some.inj ht'
    obtain ⟨-, rfl⟩ := Stage.running.inj hwake
    exact hworks.asleep _ _ rfl
  | ends hu hturn _ _ hcloses =>
    obtain ⟨rfl, rfl⟩ := hcloses.calm isCalm_workload
    obtain rfl := hsame hu
    have hworks := works_turn hjob hturn hsound hrun
    exact ⟨tends_told hjob _ (tends_remarked _ _ hworks.tends), hawake (by simp)⟩

/-- So does its teardown. -/
theorem Torn.tends (htorn : Torn workload i tasks r tasks' r') (ht : tasks[i]? = some t)
    (hjob : t.job = some (d.job n)) : Tends n r r' := by
  cases htorn with
  | idle | dropped => exact .refl n r
  | aborted hu =>
    obtain rfl := Option.some.inj (hu.symm.trans ht)
    exact tends_told hjob _ ((Tends.refl n r).say _)
  | stranded _ _ hpanics => exact absurd hpanics (not_panicsOver isCalm_workload _ _ _)

/-- A task that is to see whether a service is up does nothing to services, memory and
components. -/
theorem Moves.confirms (hmoves : Moves workload i s r tasks r') (ht : s.tasks[i]? = some t)
    (hjob : t.job = some (.confirm n)) (hidle : ∀ wake run, t.stage ≠ .running wake run) :
    Spares r r' := by
  have htold : ∀ {u : Task Job HookRun} (ending : Ending) (q : Registry), s.tasks[i]? = some u →
      Spares q (told workload u ending (remarked workload u ending q)) := by
    intro u ending q hu
    obtain rfl := Option.some.inj (hu.symm.trans ht)
    have hremarked : Spares q (remarked workload u ending q) := by
      unfold remarked
      split <;> exact ⟨rfl, rfl, rfl⟩
    unfold told
    split
    · next job reason hjob' _ _ =>
      obtain rfl := Option.some.inj (hjob'.symm.trans hjob)
      exact hremarked
    · exact hremarked
  have hturn : ∀ {u : Task Job HookRun} {turn : Turn HookRun} {q : Registry},
      s.tasks[i]? = some u → u.turn? workload r = some (turn, q) → q = r := by
    intro u turn q hu hturn
    obtain rfl := Option.some.inj (hu.symm.trans ht)
    unfold Task.turn? at hturn
    split at hturn
    · next job _ hjob' =>
      obtain rfl := Option.some.inj (hjob'.symm.trans hjob)
      obtain rfl : (startJob (.confirm n) r).2 = q := congrArg Prod.snd (Option.some.inj hturn)
      exact (start_confirm n r).1
    · next hstage => exact absurd hstage (hidle _ _)
    · cases hturn
  cases hmoves with
  | enters | passes | lines => exact ⟨rfl, rfl, rfl⟩
  | gateFails hu _ _ _ _ hcloses | refused hu _ _ hcloses =>
    obtain ⟨rfl, rfl⟩ := hcloses.calm isCalm_workload
    exact htold _ r hu
  | sleeps hu hq =>
    obtain rfl := hturn hu hq
    exact ⟨rfl, rfl, rfl⟩
  | @ends u turn _ ending q _ hu hq _ _ hcloses =>
    obtain ⟨rfl, rfl⟩ := hcloses.calm isCalm_workload
    obtain rfl := hturn hu hq
    exact htold ending q hu

theorem Torn.confirms (htorn : Torn workload i tasks r tasks' r') (ht : tasks[i]? = some t)
    (hjob : t.job = some (.confirm n)) : Spares r r' := by
  cases htorn with
  | idle | dropped => exact ⟨rfl, rfl, rfl⟩
  | aborted hu =>
    obtain rfl := Option.some.inj (hu.symm.trans ht)
    unfold told
    split
    · next job reason hjob' _ _ =>
      obtain rfl := Option.some.inj (hjob'.symm.trans hjob)
      exact ⟨rfl, rfl, rfl⟩
    · exact ⟨rfl, rfl, rfl⟩
  | stranded _ _ hpanics => exact absurd hpanics (not_panicsOver isCalm_workload _ _ _)

/-! What a teardown does to the tasks. -/

theorem Torn.other (htorn : Torn workload i tasks r tasks' r') {j : TaskId} (hj : j ≠ i) :
    tasks'[j]? = tasks[j]? := by
  cases htorn with
  | idle => rfl
  | dropped | aborted | stranded => rw [getElem?_putStage, if_neg (Ne.symm hj)]

theorem Torn.aborts (htorn : Torn workload i tasks r tasks' r') :
    r' = r ∨ ∃ t, tasks[i]? = some t ∧ t.stage.isLive = true := by
  cases htorn with
  | idle | dropped => exact .inl rfl
  | aborted ht hlive | stranded ht hlive => exact .inr ⟨_, ht, hlive⟩

/-- Where a hook is still asleep there was nothing to tear down. -/
theorem Torn.awake (htorn : Torn workload i tasks r tasks' r') {wake : Option Nat} {run : HookRun}
    (ht : tasks'[i]? = some t) (hstage : t.stage = .running wake run) :
    tasks[i]? = some t ∧ r' = r := by
  cases htorn with
  | idle => exact ⟨ht, rfl⟩
  | dropped hu | aborted hu | stranded hu =>
    rw [getElem?_putStage, if_pos rfl, hu] at ht
    rw [← Option.some.inj ht] at hstage
    cases hstage

end Scheduler

end ServiceLifecycle

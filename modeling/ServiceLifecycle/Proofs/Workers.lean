import ServiceLifecycle.Proofs.Moves
import ServiceLifecycle.Task.Drive

/-!
# Workers and the line for them

Only a task whose body is under way has a worker, so waiting for gates or in line takes
none away from others. The tasks in line are those that wait for a worker, each of them
once. Where tasks wait behind earlier ones only, this leaves no way to be stuck: as long
as some task has not come to its end, one can move or a body is under way.

* **staff** — the line and the workers are accounted for, whatever the bodies do
  (`Staffed`, `Staffed.move`);
* **progress** — no scheduler gets stuck (`Staffed.all_ended`).
-/

namespace ServiceLifecycle

variable {ι κ σ : Type}

/-- Whether the body of the task is under way. -/
def Stage.isRunning : Stage κ → Bool
  | .running _ _ => true
  | .queued | .gated _ | .waiting | .ended _ | .external _ | .dropped _ => false

/-- Whether the task is in line for a worker. -/
def Stage.isWaiting : Stage κ → Bool
  | .waiting => true
  | .queued | .gated _ | .running _ _ | .ended _ | .external _ | .dropped _ => false

/-- One task put at another stage changes the number of tasks at stages of a kind by one at most. -/
theorem countP_putStage {tasks : Array (Task ι κ)} {i : TaskId} {t : Task ι κ}
    (kind : Stage κ → Bool) (ht : tasks[i]? = some t) (stage : Stage κ) :
    (putStage tasks i stage).countP (kind ·.stage) + (kind t.stage).toNat =
      tasks.countP (kind ·.stage) + (kind stage).toNat := by
  obtain ⟨hi, rfl⟩ := Array.getElem?_eq_some_iff.mp ht
  have hset : putStage tasks i stage = tasks.set i { tasks[i] with stage } hi := by
    refine Array.ext_getElem? fun j => ?_
    rw [getElem?_putStage, Array.getElem?_set hi]
    split
    · next heq => rw [← heq, Array.getElem?_eq_getElem hi, Option.map_some]
    · rfl
  have hpos : kind tasks[i].stage = true → 0 < tasks.countP (kind ·.stage) :=
    fun hkind => Array.countP_pos_iff.mpr ⟨tasks[i], Array.getElem_mem hi, hkind⟩
  rw [hset, Array.countP_set hi]
  cases hbefore : kind tasks[i].stage <;> cases hafter : kind stage <;>
    simp_all

namespace Scheduler

/-! ## Staff -/

/-- The line and the workers are accounted for. -/
structure Staffed (s : Scheduler ι κ) : Prop where
  nodup : s.line.Nodup
  lined : ∀ i, i ∈ s.line ↔ ∃ t, s.tasks[i]? = some t ∧ t.stage.isWaiting = true
  /-- Each worker is free or has one body under way. -/
  manned : s.free + s.tasks.countP (·.stage.isRunning) = workers s.configured
  /-- A task waits for gates of its own only. -/
  behind : ∀ (i : TaskId) t remaining, s.tasks[i]? = some t → t.stage = .gated remaining →
    remaining ⊆ t.gates

variable {work : Workload ι κ σ} {s s' s₁ : Scheduler ι κ} {env env' : σ} {i : TaskId}
  {t : Task ι κ}

theorem staffed_new (name : String) (configured : Nat) :
    Staffed (new name configured : Scheduler ι κ) where
  nodup := List.nodup_nil
  lined := by simp [new]
  manned := rfl
  behind := by simp [new]

/-- A task is put at another stage, and the line and the workers follow. -/
theorem Staffed.stand (h : Staffed s) (ht : s.tasks[i]? = some t) (stage : Stage κ)
    (htasks : s'.tasks = putStage s.tasks i stage) (hconfigured : s'.configured = s.configured)
    (hnodup : s'.line.Nodup)
    (hline : ∀ j, j ∈ s'.line ↔ if j = i then stage.isWaiting = true else j ∈ s.line)
    (hfree : s'.free + stage.isRunning.toNat = s.free + t.stage.isRunning.toNat)
    (hgates : ∀ remaining, stage = .gated remaining → remaining ⊆ t.gates) : Staffed s' where
  nodup := hnodup
  lined := by
    intro j
    rw [hline, htasks, getElem?_putStage]
    by_cases hj : j = i
    · subst hj
      simp [ht]
    · rw [if_neg hj, if_neg (Ne.symm hj), h.lined]
  manned := by
    have hcount := countP_putStage Stage.isRunning ht stage
    have hmanned := h.manned
    rw [htasks, hconfigured]
    omega
  behind := by
    intro j u remaining hu hstage
    rw [htasks, getElem?_putStage] at hu
    split at hu
    · next heq =>
      subst heq
      rw [ht] at hu
      obtain rfl := Option.some.inj hu
      exact hgates remaining hstage
    · exact h.behind j u remaining hu hstage

/-- A task that is not in line moves on without getting in line. -/
theorem Staffed.aside (h : Staffed s) (ht : s.tasks[i]? = some t) (stage : Stage κ)
    (htasks : s'.tasks = putStage s.tasks i stage) (hconfigured : s'.configured = s.configured)
    (hline : s'.line = s.line) (hbefore : t.stage.isWaiting = false)
    (hafter : stage.isWaiting = false)
    (hfree : s'.free + stage.isRunning.toNat = s.free + t.stage.isRunning.toNat)
    (hgates : ∀ remaining, stage = .gated remaining → remaining ⊆ t.gates) : Staffed s' := by
  refine h.stand ht stage htasks hconfigured (hline ▸ h.nodup) (fun j => ?_) hfree hgates
  rw [hline]
  split
  · next heq =>
    subst heq
    simp [h.lined, ht, hbefore, hafter]
  · exact Iff.rfl

/-- A task leaves the line, if it was in it. -/
theorem Staffed.not_mem_line (h : Staffed s) (ht : s.tasks[i]? = some t)
    (hstage : t.stage.isWaiting = false) (j : TaskId) : j ∈ s.line ↔ j ≠ i ∧ j ∈ s.line := by
  refine (and_iff_right_of_imp ?_).symm
  rintro hj rfl
  obtain ⟨u, hu, hwaiting⟩ := (h.lined j).mp hj
  obtain rfl : t = u := Option.some.inj (ht.symm.trans hu)
  rw [hstage] at hwaiting
  cases hwaiting

/-- A task that has left the line is given up. -/
theorem Staffed.abort (h : Staffed s) (ht : s.tasks[i]? = some t)
    (hrunning : t.stage.isRunning = false) (htasks : s₁.tasks = s.tasks)
    (hconfigured : s₁.configured = s.configured) (hfree : s₁.free = s.free)
    (hnodup : s₁.line.Nodup) (hline : ∀ j, j ∈ s₁.line ↔ j ≠ i ∧ j ∈ s.line) (reason : String) :
    Staffed (abort work i t reason s₁ env).1 := by
  obtain ⟨callbacks, ending, env', -, heq⟩ := closes_abort work i t reason s₁ env
  rw [heq]
  refine h.stand ht (.ended ending) ?_ hconfigured hnodup (fun j => ?_) ?_ (by simp)
  · rw [← htasks]
    rfl
  · show j ∈ s₁.line ↔ _
    rw [hline]
    split <;> simp_all [Stage.isWaiting]
  · rw [hrunning]
    exact hfree

/-- The body of a task that has left the line takes a turn. -/
theorem Staffed.settleTurn (h : Staffed s) (ht : s.tasks[i]? = some t) (htasks : s₁.tasks = s.tasks)
    (hconfigured : s₁.configured = s.configured)
    (hfree : s₁.free + 1 = s.free + t.stage.isRunning.toNat) (hnodup : s₁.line.Nodup)
    (hline : ∀ j, j ∈ s₁.line ↔ j ≠ i ∧ j ∈ s.line) (turn : Turn κ × σ) :
    Staffed (settleTurn work i t s₁ turn).1 := by
  obtain ⟨turn, env₁⟩ := turn
  have hstand : ∀ (stage : Stage κ) {u : Scheduler ι κ}, stage.isWaiting = false →
      (∀ remaining, stage ≠ .gated remaining) → u.tasks = putStage s.tasks i stage →
      u.line = s₁.line → u.configured = s₁.configured →
      u.free + stage.isRunning.toNat = s₁.free + 1 → Staffed u := by
    intro stage u hwaiting hgated hutasks huline huconfigured hufree
    refine h.stand ht stage hutasks (huconfigured.trans hconfigured) (huline ▸ hnodup) (fun j => ?_)
      (hufree.trans hfree) fun remaining heq => absurd heq (hgated remaining)
    rw [huline, hline]
    split <;> simp_all
  cases hend : turn.ending? with
  | none =>
    cases turn with
    | sleeps time rest =>
      exact hstand (.running _ rest) rfl (by simp)
        (htasks ▸ setStage_tasks s₁ i _) rfl rfl rfl
    | returns | fails | panics => simp [Turn.ending?] at hend
  | some ending =>
    obtain ⟨callbacks, ending', env₂, -, heq⟩ := closes_leave work i t ending s₁ env₁
    rw [settleTurn_ends env₁ hend, heq]
    exact hstand (.ended ending') rfl (by simp) (htasks ▸ setStage_tasks s₁ i _) rfl rfl rfl

/-- Every move keeps account of the line and the workers. -/
theorem Staffed.movesTo (h : Staffed s) {p : Scheduler ι κ × σ} (hmove : MovesTo work i s env p) :
    Staffed p.1 := by
  cases hmove with
  | @enters t ht hstage =>
    refine h.aside ht (.gated t.gates) rfl rfl rfl (by rw [hstage]; rfl) rfl (by rw [hstage]; rfl)
      fun remaining heq => ?_
    obtain rfl := Stage.gated.inj heq
    exact List.Subset.refl _
  | @passes t g later gate ht hstage =>
    refine h.aside ht (.gated later) rfl rfl rfl (by rw [hstage]; rfl) rfl (by rw [hstage]; rfl)
      fun remaining heq => ?_
    obtain rfl := Stage.gated.inj heq
    exact List.Subset.trans (List.subset_cons_self g later) (h.behind i t _ ht hstage)
  | @lines t ht hstage =>
    have hout : i ∉ s.line := fun hi =>
      ((h.not_mem_line ht (by rw [hstage]; rfl) i).mp hi).1 rfl
    refine h.stand ht .waiting rfl rfl ?_ (fun j => ?_) (by rw [hstage]; rfl) (by simp)
    · simpa using h.nodup.concat hout
    · split <;> simp_all [Stage.isWaiting]
  | gateFails ht hstage | refused ht hstage =>
    exact h.abort ht (by rw [hstage]; rfl) rfl rfl rfl h.nodup
      (h.not_mem_line ht (by rw [hstage]; rfl)) _
  | sentAway ht hstage =>
    exact h.abort ht (by rw [hstage]; rfl) (by rfl) (by rfl) (by rfl) (h.nodup.erase i)
      (fun j => h.nodup.mem_erase_iff) s.shutdownReason
  | starts ht hstage hjob hopen hhead hfree =>
    obtain ⟨rest, hrest⟩ := List.head?_eq_some_iff.mp hhead
    obtain ⟨hout, hnodup⟩ : i ∉ rest ∧ rest.Nodup := List.nodup_cons.mp (hrest ▸ h.nodup)
    refine h.settleTurn ht (by rfl) (by rfl) ?_ ?_ (fun j => ?_) _
    · rw [hstage]
      exact Nat.sub_add_cancel hfree
    · rw [hrest]
      exact hnodup
    · rw [hrest, List.tail_cons, List.mem_cons]
      constructor
      · intro hj
        exact ⟨fun heq => hout (heq ▸ hj), .inr hj⟩
      · rintro ⟨hne, rfl | hj⟩
        · exact absurd rfl hne
        · exact hj
  | resumes ht hstage =>
    exact h.settleTurn ht rfl rfl (by rw [hstage]; rfl) h.nodup
      (h.not_mem_line ht (by rw [hstage]; rfl)) _

theorem Staffed.move (h : Staffed s) (hmove : move work i s env = some (s', env')) :
    Staffed s' := h.movesTo (movesTo_of_move hmove)

/-! ## Requests and time -/

/-- What a request can do to a scheduler. -/
inductive Receives : Scheduler ι κ → Scheduler ι κ → Prop
  | submits {s : Scheduler ι κ} (name : String) (gates : OrderedSet TaskId) (job : ι)
      (hasCallback : Bool) : Receives s (s.submit name gates job hasCallback).2
  | shuts {s : Scheduler ι κ} : Receives s s.shutdown

/-- A newcomer that is neither in line nor under way changes nothing. -/
theorem Staffed.push (h : Staffed s) {t : Task ι κ} (hwaiting : t.stage.isWaiting = false)
    (hrunning : t.stage.isRunning = false) (hgated : ∀ remaining, t.stage ≠ .gated remaining)
    (pending : Nat) : Staffed { s with pending, tasks := s.tasks.push t } where
  nodup := h.nodup
  lined i := by
    show i ∈ s.line ↔ ∃ u, (s.tasks.push t)[i]? = some u ∧ _
    rw [h.lined, Array.getElem?_push]
    split
    · next heq =>
      subst heq
      simp [hwaiting]
    · exact Iff.rfl
  manned := by
    show s.free + (s.tasks.push t).countP _ = _
    rw [Array.countP_push, if_neg (by simp [hrunning])]
    exact h.manned
  behind i u remaining hu hstage := by
    replace hu : (s.tasks.push t)[i]? = some u := hu
    rw [Array.getElem?_push] at hu
    split at hu
    · obtain rfl := Option.some.inj hu
      exact absurd hstage (hgated remaining)
    · exact h.behind i u remaining hu hstage

theorem Staffed.submit (h : Staffed s) (name : String) (gates : OrderedSet TaskId) (job : ι)
    (hasCallback : Bool) : Staffed (s.submit name gates job hasCallback).2 := by
  refine h.push ?_ ?_ (fun remaining => ?_) (s.pending + 1) <;> cases s.isAlive <;> simp <;> rfl

theorem Staffed.receives (h : Staffed s) (hreceives : Receives s s') : Staffed s' := by
  cases hreceives with
  | submits name gates job hasCallback => exact h.submit name gates job hasCallback
  | shuts => exact ⟨h.nodup, h.lined, h.manned, h.behind⟩

theorem Staffed.passTo (h : Staffed s) (moment : Nat) : Staffed (s.passTo moment) :=
  ⟨h.nodup, h.lined, h.manned, h.behind⟩

/-! ## Progress -/

/-- The task can take a step. -/
def CanMove (work : Workload ι κ σ) (s : Scheduler ι κ) (env : σ) (i : TaskId) : Prop :=
  (move work i s env).isSome = true

theorem MovesTo.canMove {p : Scheduler ι κ × σ} (h : MovesTo work i s env p) :
    CanMove work s env i := by
  unfold CanMove
  rw [h.move_eq]
  rfl

/-- A body that sleeps goes on once it is time to wake. -/
theorem canMove_of_asleep (work : Workload ι κ σ) (env : σ) (ht : s.tasks[i]? = some t)
    {wake : Nat} {rest : κ} (hstage : t.stage = .running (some wake) rest) :
    (s.passTo wake).CanMove work env i := by
  have ht : (s.passTo wake).tasks[i]? = some t := ht
  have hnow : wake ≤ (s.passTo wake).now := Nat.le_max_right _ _
  exact (MovesTo.resumes ht hstage hnow).canMove

/-- As long as no body is under way, the first task in line can move. -/
theorem Staffed.canMove_of_waiting (h : Staffed s) (ht : s.tasks[i]? = some t)
    (hstage : t.stage = .waiting) (hjobs : ∀ (j : TaskId) u, s.tasks[j]? = some u → ∃ job, u.job = some job)
    (hidle : ∀ t ∈ s.tasks, t.stage.isRunning = false) (env : σ) :
    ∃ j < s.tasks.size, CanMove work s env j := by
  have hin : i ∈ s.line := (h.lined i).mpr ⟨t, ht, by rw [hstage]; rfl⟩
  obtain ⟨j, rest, hline⟩ := List.exists_cons_of_ne_nil (List.ne_nil_of_mem hin)
  obtain ⟨u, hu, hwaiting⟩ := (h.lined j).mp (hline ▸ List.mem_cons_self)
  obtain ⟨job, hjob⟩ := hjobs j u hu
  have hfree : 0 < s.free := by
    have hnone : s.tasks.countP (·.stage.isRunning) = 0 :=
      Array.countP_eq_zero.mpr fun t ht => by simp [hidle t ht]
    have hmanned := h.manned
    unfold workers at hmanned
    omega
  have hustage : u.stage = .waiting := by
    cases hcase : u.stage <;> rw [hcase] at hwaiting <;> first | rfl | cases hwaiting
  refine ⟨j, (Array.getElem?_eq_some_iff.mp hu).1, ?_⟩
  cases hshut : s.isShutdown with
  | true => exact (MovesTo.sentAway hu hustage hjob hshut).canMove
  | false =>
    have hhead : s.line.head? = some j := by rw [hline, List.head?_cons]
    exact (MovesTo.starts hu hustage hjob hshut hhead hfree).canMove

/-- A scheduler whose tasks wait behind earlier ones does not get stuck: if no task can move
and no body is under way, all have come to their ends. -/
theorem Staffed.all_ended (h : Staffed s)
    (hlive : ∀ (i : TaskId) t, s.tasks[i]? = some t →
      t.stage.isLive = true ∨ ∃ ending, t.stage = .ended ending)
    (hjobs : ∀ (i : TaskId) t, s.tasks[i]? = some t → ∃ job, t.job = some job)
    (hgates : ∀ (i : TaskId) t, s.tasks[i]? = some t → ∀ g ∈ t.gates, g < i)
    (hstill : ∀ i < s.tasks.size, ¬ CanMove work s env i)
    (hidle : ∀ t ∈ s.tasks, t.stage.isRunning = false) :
    ∀ (i : TaskId) t, s.tasks[i]? = some t → ∃ ending, t.stage = .ended ending := by
  -- by induction on the order of submission, in which gates come first
  intro i
  induction i using Nat.strongRecOn with
  | _ i ih =>
    intro t ht
    have hlt : i < s.tasks.size := (Array.getElem?_eq_some_iff.mp ht).1
    refine (hlive i t ht).resolve_left fun htlive => hstill i hlt ?_
    cases hstage : t.stage with
    | queued => exact (MovesTo.enters ht hstage).canMove
    | gated remaining =>
      cases remaining with
      | nil =>
        cases hshut : s.isShutdown with
        | true => exact (MovesTo.refused ht hstage hshut).canMove
        | false => exact (MovesTo.lines ht hstage hshut).canMove
      | cons g later =>
        have hg : g < i := hgates i t ht g (h.behind i t _ ht hstage List.mem_cons_self)
        obtain ⟨gate, hfound⟩ : ∃ gate, s.tasks[g]? = some gate :=
          ⟨_, Array.getElem?_eq_getElem (Nat.lt_trans hg hlt)⟩
        obtain ⟨ending, hended⟩ := ih g hg gate hfound
        have hresult : gate.result? = some ending.outcome := by
          simp [Task.result?, hended]
        by_cases hdone : ending.outcome = .completed
        · exact (MovesTo.passes ht hstage hfound (hdone ▸ hresult)).canMove
        · exact (MovesTo.gateFails ht hstage hfound hresult hdone).canMove
    | waiting =>
      obtain ⟨j, hj, hmove⟩ := h.canMove_of_waiting ht hstage hjobs hidle env
      exact absurd hmove (hstill j hj)
    | running wake rest =>
      have hrunning := hidle t (Array.mem_of_getElem? ht)
      rw [hstage] at hrunning
      cases hrunning
    | ended | external | dropped =>
      rw [hstage] at htlive
      cases htlive

end Scheduler

end ServiceLifecycle

import ServiceLifecycle.Proofs.Change

/-!
# Names, gates and owners

Three invariants that every change keeps, and on which the others are built.

* **names** — names and references are in order: what is registered under a name has
  that name, what is up is registered, and the record of references is that of the
  registered services (`Named`);
* **gates** — every gate that a task is past has completed (`Gated`);
* **owners** — a service is in transit exactly as long as it has a task for that, which
  has not ended, and no other task that has not ended moves it (`Owned`).
-/

namespace ServiceLifecycle.Scene

open Relation

variable {S S' : Scene} {cause : Cause} {i j : TaskId} {t : Task Job HookRun} {n m : Incarnation}

/-! ## Names -/

/-- Names and references are in order. -/
structure Named (S : Scene) : Prop where
  within : ∀ id n, S.find? id = some n → n < S.size
  own : ∀ id n, S.find? id = some n → (S.service n).id = id ∧ (S.service n).removed = false
  housed : ∀ n, (S.service n).state ≠ .disabled → S.find? (S.service n).id = some n
  indexed : ∀ y x, S.recorded y x ↔ ∃ n, S.find? x = some n ∧ y ∈ (S.service n).references
  coherent : ∀ n, (S.service n).properties.Coherent

/-- Two services registered under one name are one. -/
theorem Named.eq_of_id (h : Named S) {x y : ServiceId} (hn : S.find? x = some n)
    (hm : S.find? y = some m) (heq : (S.service n).id = (S.service m).id) : n = m := by
  rw [(h.own x n hn).1, (h.own y m hm).1] at heq
  rw [heq, hm] at hn
  exact (Option.some.inj hn).symm

/-- Names and references stay in order where only states, faults and journals change. -/
theorem Named.put (h : Named S) (s : Service) (hid : s.id = (S.service n).id)
    (hremoved : s.removed = (S.service n).removed)
    (hproperties : s.properties = (S.service n).properties)
    (hstate : s.state ≠ .disabled → S.find? (S.service n).id = some n) : Named (S.put n s) where
  within := h.within
  own := by
    intro id m hm
    rw [service_put]
    split
    · next heq =>
      subst heq
      rw [hid, hremoved]
      exact h.own id m hm
    · exact h.own id m hm
  housed := by
    intro m hm
    rw [service_put] at hm ⊢
    split at hm
    · next heq =>
      subst heq
      rw [if_pos rfl, hid]
      exact hstate hm
    · next hne =>
      rw [if_neg hne]
      exact h.housed m hm
  indexed := by
    intro y x
    have href : ∀ m, ((S.put n s).service m).references = (S.service m).references := by
      intro m
      rw [service_put]
      split
      · next heq =>
        subst heq
        rw [Service.references, hproperties]
        rfl
      · rfl
    simp only [href]
    exact h.indexed y x
  coherent := by
    intro m
    rw [service_put]
    split
    · rw [hproperties]
      exact h.coherent n
    · exact h.coherent m

theorem Named.appear (h : Named S) {s : Service} {isRegistered : Bool}
    (hstate : s.state = .disabled) (hremoved : s.removed = false)
    (hproperties : s.properties = .empty)
    (hfree : isRegistered = true → S.find? s.id = none) : Named (S.appear s isRegistered) := by
  have hold : ∀ m, m ≠ S.size → (S.appear s isRegistered).service m = S.service m :=
    fun m hm => service_appear_of_ne hm
  have hnew := service_appear_self S s isRegistered
  have hkeep : ∀ id m, S.find? id = some m → (S.appear s isRegistered).find? id = some m :=
    fun id m hm => find?_appear hfree hm
  have hne : ∀ id m, S.find? id = some m → m ≠ S.size :=
    fun id m hm => Nat.ne_of_lt (h.within id m hm)
  exact {
    within id m hm := by
      rcases find?_of_appear hm with ⟨-, rfl⟩ | hm
      · exact Nat.lt_succ_self _
      · exact Nat.lt_succ_of_lt (h.within id m hm)
    own id m hm := by
      rcases find?_of_appear hm with ⟨rfl, rfl⟩ | hm
      · rw [hnew]
        exact ⟨rfl, hremoved⟩
      · rw [hold m (hne id m hm)]
        exact h.own id m hm
    housed m hm := by
      by_cases heq : m = S.size
      · subst heq
        rw [hnew] at hm
        exact absurd hstate hm
      · rw [hold m heq] at hm ⊢
        exact hkeep _ m (h.housed m hm)
    indexed y x := by
      show S.recorded y x ↔ _
      rw [h.indexed y x]
      constructor
      · rintro ⟨m, hm, hy⟩
        refine ⟨m, hkeep x m hm, ?_⟩
        rw [hold m (hne x m hm)]
        exact hy
      · rintro ⟨m, hm, hy⟩
        rcases find?_of_appear hm with ⟨-, rfl⟩ | hm
        · rw [hnew, Service.references, hproperties] at hy
          cases hy
        · rw [hold m (hne x m hm)] at hy
          exact ⟨m, hm, hy⟩
    coherent m := by
      by_cases heq : m = S.size
      · subst heq
        rw [hnew, hproperties]
        intro y
        simp [PropertyStore.empty, OrderedSet.empty, Table.empty, Table.values]
      · rw [hold m heq]
        exact h.coherent m }

/-- The record of references after an edit is that of the new ones. -/
theorem Named.indexed_edit (h : Named S) {properties : PropertyStore}
    (hfind : S.find? (S.service n).id = some n) (y x : ServiceId) :
    (S.edit n properties).recorded y x ↔
      ∃ m, (S.edit n properties).find? x = some m ∧
        y ∈ ((S.edit n properties).service m).references := by
  have hself : (S.edit n properties).service n = { S.service n with properties } :=
    service_put_self S n _
  have hold : ∀ m, m ≠ n → (S.edit n properties).service m = S.service m :=
    fun m hm => service_put_of_ne S _ hm
  show (_ ∨ S.recorded y x) ∧ _ ↔ ∃ m, S.find? x = some m ∧ _
  rw [h.indexed y x]
  by_cases hx : x = (S.service n).id
  · subst hx
    simp only [hfind, Option.some.injEq, exists_eq_left', hself, Service.references]
    tauto
  · have hne : ∀ m, S.find? x = some m → m ≠ n := by
      rintro m hm rfl
      exact hx (h.own x m hm).1.symm
    have hiff : (∃ m, S.find? x = some m ∧ y ∈ (S.service m).references) ↔
        ∃ m, S.find? x = some m ∧ y ∈ ((S.edit n properties).service m).references := by
      refine exists_congr fun m => and_congr_right fun hm => ?_
      rw [hold m (hne m hm)]
    refine Iff.trans ?_ hiff
    tauto

theorem Named.edit (h : Named S) {properties : PropertyStore}
    (hfind : S.find? (S.service n).id = some n) (hstate : (S.service n).state = .disabled)
    (hcoherent : properties.Coherent) : Named (S.edit n properties) := by
  have hservice : ∀ m, (S.edit n properties).service m =
      if m = n then { S.service n with properties } else S.service m :=
    fun m => service_put S n m _
  exact {
    within := h.within
    own id m hm := by
      rw [hservice]
      split
      · next heq =>
        subst heq
        exact h.own id m hm
      · exact h.own id m hm
    housed m hm := by
      rw [hservice] at hm ⊢
      split at hm
      · exact absurd hstate hm
      · next hne =>
        rw [if_neg hne]
        exact h.housed m hm
    indexed := h.indexed_edit hfind
    coherent m := by
      rw [hservice]
      split
      · exact hcoherent
      · exact h.coherent m }

/-- After its removal a service is the only one that is no longer found. -/
theorem Named.find?_remove_iff (h : Named S) (hfind : S.find? (S.service n).id = some n)
    {id : ServiceId} : (S.remove n).find? id = some m ↔ S.find? id = some m ∧ m ≠ n := by
  show Function.update S.find? (S.service n).id none id = some m ↔ _
  rw [Function.update_apply]
  split
  · next heq =>
    subst heq
    simp [hfind, eq_comm]
  · next hne =>
    refine ⟨fun hm => ⟨hm, ?_⟩, And.left⟩
    rintro rfl
    exact hne (h.own id m hm).1.symm

theorem Named.remove (h : Named S) (hfind : S.find? (S.service n).id = some n)
    (hstate : (S.service n).state = .disabled) : Named (S.remove n) := by
  have hold : ∀ m, m ≠ n → (S.remove n).service m = S.service m :=
    fun m hm => service_put_of_ne S _ hm
  have hself : (S.remove n).service n = { S.service n with removed := true } :=
    service_put_self S n _
  exact {
    within id m hm := h.within id m ((h.find?_remove_iff hfind).mp hm).1
    own id m hm := by
      obtain ⟨hm, hne⟩ := (h.find?_remove_iff hfind).mp hm
      rw [hold m hne]
      exact h.own id m hm
    housed m hm := by
      have hne : m ≠ n := by
        rintro rfl
        rw [hself] at hm
        exact hm hstate
      rw [hold m hne] at hm ⊢
      exact (h.find?_remove_iff hfind).mpr ⟨h.housed m hm, hne⟩
    indexed y x := by
      show S.recorded y x ∧ _ ↔ _
      rw [h.indexed y x]
      constructor
      · rintro ⟨⟨m, hm, hy⟩, hnot⟩
        have hne : m ≠ n := by
          rintro rfl
          exact hnot ⟨(h.own x m hm).1.symm, hy⟩
        refine ⟨m, (h.find?_remove_iff hfind).mpr ⟨hm, hne⟩, ?_⟩
        rw [hold m hne]
        exact hy
      · rintro ⟨m, hm, hy⟩
        obtain ⟨hm, hne⟩ := (h.find?_remove_iff hfind).mp hm
        rw [hold m hne] at hy
        refine ⟨⟨m, hm, hy⟩, ?_⟩
        rintro ⟨rfl, -⟩
        exact hne (Option.some.inj (hm.symm.trans hfind))
    coherent m := by
      by_cases hm : m = n
      · rw [hm, hself]
        exact h.coherent n
      · rw [hold m hm]
        exact h.coherent m }

theorem Named.of_outline (h : Named S) (heq : S'.toOutline = S.toOutline) : Named S' := by
  obtain ⟨o', _, _, _, _⟩ := S'
  obtain rfl : o' = S.toOutline := heq
  exact ⟨h.within, h.own, h.housed, h.indexed, h.coherent⟩

/-! ## Gates -/

/-- Tasks wait behind earlier ones, and every gate that a task is past has completed. -/
structure Gated (S : Scene) : Prop where
  known : ∀ i t, S.task? i = some t → i < S.submitted
  gates : ∀ i t, S.task? i = some t → ∀ g ∈ t.gates,
    g < i ∧ (g ∈ t.stage.unpassed t.gates ∨ S.Completed g)
  employed : ∀ i t, S.task? i = some t → ∃ job, t.job = some job ∧ t.hasCallback = job.hasCallback

theorem Completed.stand (h : S.Completed j) (ht : S.task? i = some t)
    (hne : t.stage ≠ .ended .completed) (stage : Stage HookRun) :
    (S.stand i t stage).Completed j := by
  obtain ⟨t', ht', hstage⟩ := h
  refine ⟨t', ?_, hstage⟩
  rw [task?_stand]
  split
  · next heq =>
    subst heq
    rw [ht] at ht'
    exact absurd (Option.some.inj ht' ▸ hstage) hne
  · exact ht'

theorem Completed.push (h : S.Completed j) (hgated : Gated S) (name : String)
    (gates : List TaskId) (job : Job) : (S.push name gates job).Completed j := by
  obtain ⟨t, ht, hstage⟩ := h
  refine ⟨t, ?_, hstage⟩
  rw [task?_push, if_neg (Nat.ne_of_lt (hgated.known j t ht))]
  exact ht

theorem not_completed_of_live (ht : S.task? i = some t) (h : t.stage.isLive = true) :
    ¬ S.Completed i := by
  rintro ⟨t', ht', hstage⟩
  rw [ht] at ht'
  rw [Option.some.inj ht', hstage] at h
  cases h

/-- Whatever a task waits behind has completed once the task is past its gates. -/
theorem Gated.completed_of_behind (h : Gated S) (hbehind : S.Behind i j)
    (hpast : ∀ t, S.task? i = some t → t.stage.unpassed t.gates = []) : S.Completed j := by
  induction hbehind using TransGen.head_induction_on with
  | @single i hgate =>
    obtain ⟨t, ht, hg⟩ := hgate
    rcases (h.gates i t ht j hg).2 with hin | hdone
    · rw [hpast t ht] at hin
      cases hin
    · exact hdone
  | @head i g hgate _ ih =>
    obtain ⟨t, ht, hg⟩ := hgate
    refine ih fun t' ht' => ?_
    rcases (h.gates i t ht g hg).2 with hin | ⟨t'', ht'', hstage⟩
    · rw [hpast t ht] at hin
      cases hin
    · rw [ht'] at ht''
      rw [Option.some.inj ht'', hstage]
      rfl

theorem Gated.push (h : Gated S) {name : String} {gates : List TaskId} {job : Job}
    (hgates : ∀ g ∈ gates, g < S.submitted) : Gated (S.push name gates job) where
  known := by
    intro i t ht
    rw [task?_push] at ht
    split at ht
    · next heq => exact heq ▸ Nat.lt_succ_self _
    · exact Nat.lt_succ_of_lt (h.known i t ht)
  gates := by
    intro i t ht g hg
    rw [task?_push] at ht
    split at ht
    · next heq =>
      obtain rfl := Option.some.inj ht
      refine ⟨heq ▸ hgates g hg, .inl ?_⟩
      unfold newcomer
      split <;> exact hg
    · obtain ⟨hlt, hin | hdone⟩ := h.gates i t ht g hg
      · exact ⟨hlt, .inl hin⟩
      · exact ⟨hlt, .inr (hdone.push h _ _ _)⟩
  employed := by
    intro i t ht
    rw [task?_push] at ht
    split at ht
    · obtain rfl := Option.some.inj ht
      exact ⟨job, rfl, rfl⟩
    · exact h.employed i t ht

/-- A task that has not ended may be put at a stage at which it is past no more gates than
have completed. -/
theorem Gated.stand (h : Gated S) (ht : S.task? i = some t) (hlive : t.stage.isLive = true)
    {stage : Stage HookRun}
    (hpast : ∀ g ∈ t.gates, g ∈ t.stage.unpassed t.gates →
      g ∈ stage.unpassed t.gates ∨ S.Completed g) :
    Gated (S.stand i t stage) := by
  have hne : t.stage ≠ .ended .completed := fun heq => by rw [heq] at hlive; cases hlive
  exact {
    known j u hu := by
      rw [task?_stand] at hu
      split at hu
      · next heq => exact heq ▸ h.known i t ht
      · exact h.known j u hu
    gates j u hu g hg := by
      rw [task?_stand] at hu
      split at hu
      · next heq =>
        subst heq
        obtain rfl := Option.some.inj hu
        obtain ⟨hlt, hin | hdone⟩ := h.gates j t ht g hg
        · exact ⟨hlt, (hpast g hg hin).imp_right fun hdone => hdone.stand ht hne _⟩
        · exact ⟨hlt, .inr (hdone.stand ht hne _)⟩
      · obtain ⟨hlt, hin | hdone⟩ := h.gates j u hu g hg
        · exact ⟨hlt, .inl hin⟩
        · exact ⟨hlt, .inr (hdone.stand ht hne _)⟩
    employed j u hu := by
      rw [task?_stand] at hu
      split at hu
      · obtain rfl := Option.some.inj hu
        exact h.employed i t ht
      · exact h.employed j u hu }

theorem Gated.of_tasks (h : Gated S) (htask : S'.task? = S.task?)
    (hsubmitted : S'.submitted = S.submitted) : Gated S' := by
  have hdone : ∀ g, S.Completed g → S'.Completed g := by
    rintro g ⟨t, ht, hstage⟩
    exact ⟨t, htask ▸ ht, hstage⟩
  exact {
    known := by
      rw [htask, hsubmitted]
      exact h.known
    gates i t ht g hg := by
      rw [htask] at ht
      exact ⟨(h.gates i t ht g hg).1, (h.gates i t ht g hg).2.imp_right (hdone g)⟩
    employed := by
      rw [htask]
      exact h.employed }

/-- A task that moves on by itself is past no more gates than have completed. -/
theorem Advances.unpassed {stage : Stage HookRun} (h : S.Advances t stage) :
    t.stage.isLive = true ∧ stage.isLive = true ∧
      ∀ g ∈ t.stage.unpassed t.gates, g ∈ stage.unpassed t.gates ∨ S.Completed g := by
  cases h with
  | enters hstage =>
    rw [hstage]
    exact ⟨rfl, rfl, fun g hg => .inl hg⟩
  | @passes g later hstage hdone =>
    rw [hstage]
    refine ⟨rfl, rfl, fun x hx => ?_⟩
    rcases List.mem_cons.mp hx with rfl | hx
    · exact .inr hdone
    · exact .inl hx
  | lines hstage =>
    rw [hstage]
    exact ⟨rfl, rfl, fun g hg => .inl hg⟩

theorem Gated.stand_free (h : Gated S) (ht : S.task? i = some t) (hfree : t.stage.isFree = true)
    (stage : Stage HookRun) : Gated (S.stand i t stage) :=
  h.stand ht (Stage.isLive_of_isFree hfree) fun g _ hin => by
    rw [Stage.unpassed_of_isFree _ hfree] at hin
    cases hin

theorem Gated.stand_ended (h : Gated S) (ht : S.task? i = some t) (hlive : t.stage.isLive = true)
    {ending : Ending} (hne : ending ≠ .completed) : Gated (S.stand i t (.ended ending)) :=
  h.stand ht hlive fun g hg _ => .inl (by rwa [Stage.unpassed_ended _ hne])

/-- Every change keeps the gates in order. -/
theorem Gated.step (h : Gated S) (change : Change S cause S') : Gated S' := by
  cases change with
  | appears | edits | removes | blames | shuts | stops => exact h.of_tasks rfl rfl
  | claims d name _ _ hgates => exact (h.push hgates).of_tasks rfl rfl
  | joins n name hgates => exact h.push hgates
  | advances ht hadvances =>
    obtain ⟨hlive, -, hpast⟩ := hadvances.unpassed
    exact h.stand ht hlive fun g _ => hpast g
  | @sleeps i t n _ before after _ _ _ ht hcalled =>
    have hput : Gated (S.put n ((S.service n).recordAll (after ++ before))) := h.of_tasks rfl rfl
    exact hput.stand_free ht hcalled.isFree _
  | @concludes i t n entries state fault ending ht hconcludes =>
    have hput : Gated (S.put n (((S.service n).recordAll entries).settle state fault)) :=
      h.of_tasks rfl rfl
    obtain ⟨d, -, hlive, ⟨-, -, hfree, -⟩ | ⟨hend, -⟩⟩ := hconcludes.direction
    · exact hput.stand_free ht hfree _
    · exact hput.stand_ended ht hlive hend
  | confirms ht hstage => exact h.stand_free ht (by rw [hstage]; rfl) _
  | denies ht hlive _ _ hend => exact h.stand_ended ht hlive hend
  | drops ht hstage =>
    refine h.stand ht (by rw [hstage]; rfl) fun g _ hin => .inl ?_
    rw [hstage] at hin
    exact hin

/-! ## Owners -/

/-- A service is in transit exactly as long as it has a task for that. Only the teardown lets
go of the task and leaves the service in transit. -/
structure Owned (S : Scene) : Prop where
  held : ∀ i t (d : Direction) n, S.task? i = some t → t.job = some (d.job n) →
    t.stage.isLive = true → (S.service n).state = d.via ∧ (S.service n).transition = some i
  holds : ∀ n (d : Direction), (S.service n).state = d.via →
    ∃ i t, (S.service n).transition = some i ∧ S.task? i = some t ∧ t.job = some (d.job n) ∧
      (t.stage.isLive = true ∨ ∃ started, t.stage = .dropped started)
  rests : ∀ n, (S.service n).state.isTransient = false → (S.service n).transition = none
  matched : ∀ i t wake run, S.task? i = some t → t.stage = .running wake run →
    t.job = some (run.purpose.direction.job run.service)

/-- The task of a transition under way has not ended. -/
theorem Owned.not_ended (h : Owned S) {d : Direction} (hvia : (S.service n).state = d.via) :
    ∃ i t, (S.service n).transition = some i ∧ S.task? i = some t ∧ t.job = some (d.job n) ∧
      ∀ ending, t.stage ≠ .ended ending := by
  obtain ⟨i, t, htransition, ht, hjob, hstage⟩ := h.holds n d hvia
  refine ⟨i, t, htransition, ht, hjob, fun ending hended => ?_⟩
  rw [hended] at hstage
  rcases hstage with hlive | ⟨started, hdropped⟩
  · cases hlive
  · cases hdropped

theorem Owned.not_completed (h : Owned S) {d : Direction} (hvia : (S.service n).state = d.via)
    (hi : (S.service n).transition = some i) : ¬ S.Completed i := by
  obtain ⟨j, t, hj, ht, -, hopen⟩ := h.not_ended hvia
  obtain rfl : i = j := Option.some.inj (hi.symm.trans hj)
  rintro ⟨u, hu, hcompleted⟩
  obtain rfl : t = u := Option.some.inj (ht.symm.trans hu)
  exact hopen _ hcompleted

/-- Once all tasks have ended no service is in transit. -/
theorem Owned.resting (h : Owned S)
    (hended : ∀ i t, S.task? i = some t → ∃ ending, t.stage = .ended ending) (n : Incarnation)
    (d : Direction) : (S.service n).state ≠ d.via := by
  intro hvia
  obtain ⟨i, t, -, ht, -, hopen⟩ := h.not_ended hvia
  obtain ⟨ending, hstage⟩ := hended i t ht
  exact hopen ending hstage

theorem Owned.of_same (h : Owned S) (htask : S'.task? = S.task?)
    (hsame : ∀ n, (S'.service n).state = (S.service n).state ∧
      (S'.service n).transition = (S.service n).transition) : Owned S' where
  held i t d n ht hjob hlive := by
    rw [(hsame n).1, (hsame n).2]
    exact h.held i t d n (htask ▸ ht) hjob hlive
  holds n d hstate := by
    rw [(hsame n).1] at hstate
    rw [(hsame n).2, htask]
    exact h.holds n d hstate
  rests n hstate := by
    rw [(hsame n).1] at hstate
    rw [(hsame n).2]
    exact h.rests n hstate
  matched := by
    rw [htask]
    exact h.matched

theorem Owned.put (h : Owned S) {s : Service} (hstate : s.state = (S.service n).state)
    (htransition : s.transition = (S.service n).transition) : Owned (S.put n s) := by
  refine h.of_same rfl fun m => ?_
  rw [service_put]
  split
  · next heq => exact heq ▸ ⟨hstate, htransition⟩
  · exact ⟨rfl, rfl⟩

theorem Owned.appear (h : Owned S) {s : Service} {isRegistered : Bool}
    (hstate : s.state = .disabled) (htransition : s.transition = none)
    (hfresh : (S.service S.size).state = .disabled) : Owned (S.appear s isRegistered) := by
  refine h.of_same rfl fun m => ?_
  show (Function.update S.service S.size s m).state = _ ∧ _
  rw [Scene.appear]
  simp only [Function.update_apply]
  split
  · next heq =>
    subst heq
    rw [hstate, htransition, hfresh]
    exact ⟨rfl, (h.rests _ (by rw [hfresh]; rfl)).symm⟩
  · exact ⟨rfl, rfl⟩

/-- A task of a transition that has not ended may not be ended without a word. -/
theorem Owned.stand (h : Owned S) (ht : S.task? i = some t) {stage : Stage HookRun}
    (hlive : stage.isLive = true → t.stage.isLive = true)
    (hkeep : ∀ (d : Direction) n, t.job = some (d.job n) →
      stage.isLive = true ∨ ∃ started, stage = .dropped started)
    (hrun : ∀ wake run, stage = .running wake run →
      t.job = some (run.purpose.direction.job run.service)) : Owned (S.stand i t stage) where
  held j u d n hu hjob hlive' := by
    rw [task?_stand] at hu
    split at hu
    · next heq =>
      obtain rfl := Option.some.inj hu
      subst heq
      exact h.held j t d n ht hjob (hlive hlive')
    · exact h.held j u d n hu hjob hlive'
  holds n d hstate := by
    obtain ⟨j, u, htransition, hu, hjob, hstage⟩ := h.holds n d hstate
    by_cases heq : j = i
    · subst heq
      obtain rfl : t = u := Option.some.inj (ht.symm.trans hu)
      refine ⟨j, { t with stage }, htransition, ?_, hjob, hkeep d n hjob⟩
      rw [task?_stand, if_pos rfl]
    · refine ⟨j, u, htransition, ?_, hjob, hstage⟩
      rw [task?_stand, if_neg heq]
      exact hu
  rests := h.rests
  matched j u wake run hu hstage := by
    rw [task?_stand] at hu
    split at hu
    · obtain rfl := Option.some.inj hu
      exact hrun wake run hstage
    · exact h.matched j u wake run hu hstage

theorem newcomer_stage (S : Scene) (name : String) (gates : List TaskId) (job : Job) :
    (S.newcomer name gates job).stage.isLive = true ∧
        (S.newcomer name gates job).stage = .queued ∨
      (S.newcomer name gates job).stage = .dropped false := by
  unfold newcomer
  cases S.isAlive with
  | true => exact .inl ⟨rfl, rfl⟩
  | false => exact .inr rfl

theorem newcomer_queued (halive : S.isAlive = true) (name : String) (gates : List TaskId)
    (job : Job) : (S.newcomer name gates job).stage = .queued := if_pos halive

/-- A new task has neither begun nor ended. -/
theorem newcomer_idle (S : Scene) (name : String) (gates : List TaskId) (job : Job) :
    (∀ wake run, (S.newcomer name gates job).stage ≠ .running wake run) ∧
      ∀ ending, (S.newcomer name gates job).stage ≠ .ended ending := by
  rcases newcomer_stage S name gates job with ⟨-, hstage⟩ | hstage <;> simp [hstage]

/-- A task taken in leaves the owners as they are, if it moves no service. -/
theorem Owned.join (h : Owned S) (hgated : Gated S) (name : String) (gates : List TaskId)
    (n : Incarnation) : Owned (S.push name gates (.confirm n)) := by
  have hold : ∀ j u, S.task? j = some u →
      (S.push name gates (.confirm n)).task? j = some u := by
    intro j u hu
    rw [task?_push, if_neg (Nat.ne_of_lt (hgated.known j u hu))]
    exact hu
  exact {
    held j u d m hu hjob hlive := by
      rw [task?_push] at hu
      split at hu
      · obtain rfl := Option.some.inj hu
        exact absurd (Option.some.inj hjob).symm Direction.job_ne_confirm
      · exact h.held j u d m hu hjob hlive
    holds m d hstate := by
      obtain ⟨j, u, htransition, hu, hjob, hstage⟩ := h.holds m d hstate
      exact ⟨j, u, htransition, hold j u hu, hjob, hstage⟩
    rests := h.rests
    matched j u wake run hu hstage := by
      rw [task?_push] at hu
      split at hu
      · obtain rfl := Option.some.inj hu
        exact absurd hstage ((newcomer_idle S name gates _).1 wake run)
      · exact h.matched j u wake run hu hstage }

/-- A claim makes the new task the owner of its service, which had none. -/
theorem Owned.claim (h : Owned S) (hgated : Gated S) {d : Direction} (name : String)
    (gates : List TaskId) (hstate : (S.service n).state = d.origin) :
    Owned (S.claimed n d.via name gates (d.job n)) := by
  have hnew : (S.claimed n d.via name gates (d.job n)).task? S.submitted =
      some (S.newcomer name gates (d.job n)) := by
    show (S.push name gates (d.job n)).task? S.submitted = _
    rw [task?_push, if_pos rfl]
  have hold : ∀ j, j ≠ S.submitted →
      (S.claimed n d.via name gates (d.job n)).task? j = S.task? j := by
    intro j hj
    show (S.push name gates (d.job n)).task? j = _
    rw [task?_push, if_neg hj]
  have hknown : ∀ j u, S.task? j = some u → j ≠ S.submitted :=
    fun j u hu => Nat.ne_of_lt (hgated.known j u hu)
  have hservice : ∀ m, (S.claimed n d.via name gates (d.job n)).service m =
      if m = n then (S.service n).depart d.via S.submitted else S.service m :=
    fun m => service_put _ n m _
  exact {
    held j u d' m hu hjob hlive := by
      by_cases hj : j = S.submitted
      · subst hj
        rw [hnew] at hu
        obtain rfl := Option.some.inj hu
        obtain ⟨rfl, rfl⟩ := Direction.job_inj.mp (Option.some.inj hjob)
        rw [hservice, if_pos rfl]
        exact ⟨rfl, rfl⟩
      · rw [hold j hj] at hu
        obtain ⟨hvia, htransition⟩ := h.held j u d' m hu hjob hlive
        have hne : m ≠ n := by
          rintro rfl
          have := d'.isTransient_via
          rw [← hvia, hstate, d.isTransient_origin] at this
          cases this
        rw [hservice, if_neg hne]
        exact ⟨hvia, htransition⟩
    holds m d' hvia := by
      rw [hservice] at hvia ⊢
      split at hvia
      · next heq =>
        subst heq
        obtain rfl : d = d' := Direction.via_inj.mp hvia
        rw [if_pos rfl]
        refine ⟨S.submitted, _, rfl, hnew, rfl, ?_⟩
        rcases newcomer_stage S name gates (d.job m) with ⟨hlive, -⟩ | hdropped
        · exact .inl hlive
        · exact .inr ⟨_, hdropped⟩
      · next hne =>
        rw [if_neg hne]
        obtain ⟨j, u, htransition, hu, hjob, hstage⟩ := h.holds m d' hvia
        exact ⟨j, u, htransition, (hold j (hknown j u hu)).trans hu, hjob, hstage⟩
    rests m hrest := by
      rw [hservice] at hrest ⊢
      split at hrest
      · have := d.isTransient_via
        exact absurd (this.symm.trans hrest) (by simp)
      · next hne =>
        rw [if_neg hne]
        exact h.rests m hrest
    matched j u wake run hu hstage := by
      by_cases hj : j = S.submitted
      · subst hj
        rw [hnew] at hu
        obtain rfl := Option.some.inj hu
        exact absurd hstage ((newcomer_idle S name gates _).1 wake run)
      · rw [hold j hj] at hu
        exact h.matched j u wake run hu hstage }

/-- The end of its transition leaves a service without an owner. -/
theorem Owned.conclude (h : Owned S) {d : Direction} (ht : S.task? i = some t)
    (hjob : t.job = some (d.job n)) (hlive : t.stage.isLive = true) {s : Service}
    (hstate : s.state.isTransient = false) (htransition : s.transition = none)
    (ending : Ending) : Owned ((S.put n s).stand i t (.ended ending)) := by
  have hservice : ∀ m, ((S.put n s).stand i t (.ended ending)).service m =
      if m = n then s else S.service m := fun m => service_put S n m s
  have hold : ∀ j, j ≠ i → ((S.put n s).stand i t (.ended ending)).task? j = S.task? j := by
    intro j hj
    rw [task?_stand, if_neg hj]
    rfl
  have hended : ∀ u, ((S.put n s).stand i t (.ended ending)).task? i = some u →
      u.stage = .ended ending := by
    intro u hu
    rw [task?_stand, if_pos rfl] at hu
    obtain rfl := Option.some.inj hu
    rfl
  obtain ⟨-, howner⟩ := h.held i t d n ht hjob hlive
  exact {
    held j u d' m hu hjob' hlive' := by
      have hj : j ≠ i := by
        rintro rfl
        rw [hended u hu] at hlive'
        cases hlive'
      rw [hold j hj] at hu
      obtain ⟨hvia, htransition'⟩ := h.held j u d' m hu hjob' hlive'
      have hne : m ≠ n := by
        rintro rfl
        exact hj (Option.some.inj (htransition'.symm.trans howner))
      rw [hservice, if_neg hne]
      exact ⟨hvia, htransition'⟩
    holds m d' hvia := by
      rw [hservice] at hvia ⊢
      split at hvia
      · rw [hvia, d'.isTransient_via] at hstate
        cases hstate
      · next hne =>
        rw [if_neg hne]
        obtain ⟨j, u, htransition', hu, hjob', hstage⟩ := h.holds m d' hvia
        have hj : j ≠ i := by
          rintro rfl
          obtain rfl : t = u := Option.some.inj (ht.symm.trans hu)
          rw [hjob'] at hjob
          exact hne (Direction.job_inj.mp (Option.some.inj hjob)).2
        exact ⟨j, u, htransition', (hold j hj).trans hu, hjob', hstage⟩
    rests m hrest := by
      rw [hservice] at hrest ⊢
      split at hrest
      · next heq =>
        rw [if_pos heq]
        exact htransition
      · next hne =>
        rw [if_neg hne]
        exact h.rests m hrest
    matched j u wake run hu hstage := by
      have hj : j ≠ i := by
        rintro rfl
        rw [hended u hu] at hstage
        cases hstage
      rw [hold j hj] at hu
      exact h.matched j u wake run hu hstage }

/-- Every change leaves each service in transit with one owner, and every other with none. -/
theorem Owned.step (h : Owned S) (hgated : Gated S) (change : Change S cause S') : Owned S' := by
  cases change with
  | appears id typeName descriptors behaviour isRegistered hfresh =>
    exact h.appear rfl rfl (by rw [hfresh]; rfl)
  | @edits n properties =>
    exact (h.put (n := n) (s := { S.service n with properties }) rfl rfl).of_same rfl
      fun _ => ⟨rfl, rfl⟩
  | @removes n =>
    exact (h.put (n := n) (s := { S.service n with removed := true }) rfl rfl).of_same rfl
      fun _ => ⟨rfl, rfl⟩
  | blames message => exact h.put rfl rfl
  | shuts | stops => exact h.of_same rfl fun _ => ⟨rfl, rfl⟩
  | claims d name _ hstate => exact h.claim hgated name _ hstate
  | joins n name => exact h.join hgated name _ n
  | advances ht hadvances =>
    obtain ⟨hlive, hlive', -⟩ := hadvances.unpassed
    refine h.stand ht (fun _ => hlive) (fun _ _ _ => .inl hlive') fun wake run hrun => ?_
    subst hrun
    cases hadvances
  | @sleeps i t n _ before after _ wake run ht hcalled hooked =>
    obtain ⟨rfl, hdirection, -⟩ := hooked.run
    have hput : Owned (S.put run.service ((S.service run.service).recordAll (after ++ before))) :=
      h.put rfl rfl
    refine hput.stand ht (fun _ => Stage.isLive_of_isFree hcalled.isFree)
      (fun _ _ _ => .inl rfl) fun wake' run' hrun => ?_
    obtain ⟨-, rfl⟩ := Stage.running.inj hrun
    rw [hdirection]
    exact hcalled.job
  | concludes ht hconcludes =>
    obtain ⟨d, hjob, hlive, hresult⟩ := hconcludes.direction
    refine h.conclude ht hjob hlive ?_ rfl _
    rcases hresult with ⟨-, rfl, -⟩ | ⟨-, rfl⟩
    · exact d.isTransient_goal
    · exact d.isTransient_origin
  | confirms ht _ hjob | denies ht _ hjob =>
    refine h.stand ht (fun hlive => by cases hlive) (fun d m hjob' => ?_) fun _ _ hrun => by cases hrun
    rw [hjob] at hjob'
    exact absurd (Option.some.inj hjob').symm Direction.job_ne_confirm
  | drops ht =>
    exact h.stand ht (fun hlive => by cases hlive) (fun _ _ _ => .inr ⟨false, rfl⟩)
      fun _ _ hrun => by cases hrun

/-! ## Together -/

/-- Names, gates and owners are in order. -/
structure Orderly (S : Scene) : Prop where
  named : Named S
  gated : Gated S
  owned : Owned S

/-- Every change keeps names and references in order. -/
theorem Named.step (h : Named S) (howned : Owned S) (change : Change S cause S') : Named S' := by
  cases change with
  | appears id typeName descriptors behaviour isRegistered _ hfree =>
    exact h.appear rfl rfl rfl hfree
  | edits properties hfind hstate hcoherent => exact h.edit hfind hstate hcoherent
  | removes hfind hstate => exact h.remove hfind hstate
  | blames message => exact h.put _ rfl rfl rfl fun hne => h.housed _ hne
  | shuts | stops | joins | advances | confirms | denies | drops => exact h.of_outline rfl
  | @claims d n name gates hfind =>
    have hpush : Named (S.push name gates (d.job n)) := h.of_outline rfl
    exact hpush.put _ rfl rfl rfl fun _ => hfind
  | @sleeps i t n _ before after =>
    have hput : Named (S.put n ((S.service n).recordAll (after ++ before))) :=
      h.put _ rfl rfl rfl fun hne => h.housed _ hne
    exact hput.of_outline rfl
  | @concludes i t n entries state fault ending ht hconcludes =>
    obtain ⟨d, hjob, hlive, -⟩ := hconcludes.direction
    have hput : Named (S.put n (((S.service n).recordAll entries).settle state fault)) :=
      h.put _ rfl rfl rfl fun _ => h.housed _ fun hdisabled =>
        d.via_ne_disabled ((howned.held i t d n ht hjob hlive).1.symm.trans hdisabled)
    exact hput.of_outline rfl

/-- Every change keeps names, gates and owners in order. -/
theorem Orderly.step (h : Orderly S) (change : Change S cause S') : Orderly S' :=
  ⟨h.named.step h.owned change, h.gated.step change, h.owned.step h.gated change⟩

/-! ## What becomes of a task -/

/-- What a change makes of the task at a place: nothing, or it is put at another stage, which
happens only before it has ended, or it is new. -/
def Continues (S S' : Scene) (j : TaskId) : Prop :=
  S'.task? j = S.task? j ∨
    (∃ t stage, S.task? j = some t ∧ t.stage.isLive = true ∧
      S'.task? j = some { t with stage }) ∨
    j = S.submitted ∧ S.task? j = none ∧
      ∃ name gates job, S'.task? j = some (S.newcomer name gates job)

theorem continues_stand (ht : S.task? i = some t) (hlive : t.stage.isLive = true)
    (stage : Stage HookRun) (j : TaskId) : Continues S (S.stand i t stage) j := by
  by_cases hj : j = i
  · subst hj
    exact .inr (.inl ⟨t, stage, ht, hlive, by rw [task?_stand, if_pos rfl]⟩)
  · exact .inl (by rw [task?_stand, if_neg hj])

theorem continues_push (h : Gated S) (name : String) (gates : List TaskId) (job : Job)
    (j : TaskId) : Continues S (S.push name gates job) j := by
  by_cases hj : j = S.submitted
  · refine .inr (.inr ⟨hj, ?_, name, gates, job, by rw [task?_push, if_pos hj]⟩)
    cases hu : S.task? j with
    | none => rfl
    | some u => exact absurd (h.known j u hu) (hj ▸ Nat.lt_irrefl _)
  · exact .inl (by rw [task?_push, if_neg hj])

theorem Gated.continues (h : Gated S) (change : Change S cause S') (j : TaskId) :
    Continues S S' j := by
  cases change with
  | appears | edits | removes | blames | shuts | stops => exact .inl rfl
  | @claims d n name gates => exact continues_push h name gates (d.job n) j
  | @joins n name gates => exact continues_push h name gates (.confirm n) j
  | advances ht hadvances => exact continues_stand ht hadvances.unpassed.1 _ j
  | sleeps ht hcalled => exact continues_stand ht (Stage.isLive_of_isFree hcalled.isFree) _ j
  | concludes ht hconcludes =>
    obtain ⟨-, -, hlive, -⟩ := hconcludes.direction
    exact continues_stand ht hlive _ j
  | confirms ht hstage | drops ht hstage => exact continues_stand ht (by rw [hstage]; rfl) _ j
  | denies ht hlive => exact continues_stand ht hlive _ j

/-- A task keeps its job and its gates, and its stage once it has ended. -/
theorem Continues.task (h : Continues S S' j) (ht : S.task? j = some t) :
    ∃ stage, S'.task? j = some { t with stage } ∧ (t.stage.isLive = false → stage = t.stage) := by
  rcases h with heq | ⟨u, stage, hu, hlive, hu'⟩ | ⟨-, hnone, -⟩
  · exact ⟨t.stage, heq.trans ht, fun _ => rfl⟩
  · obtain rfl : t = u := Option.some.inj (ht.symm.trans hu)
    exact ⟨stage, hu', fun hended => by rw [hlive] at hended; cases hended⟩
  · rw [ht] at hnone
    cases hnone

/-- A task that has not ended had not ended before, unless it is new. -/
theorem Continues.back (h : Continues S S' j) {t' : Task Job HookRun}
    (ht' : S'.task? j = some t') (hnew : j ≠ S.submitted) :
    ∃ t, S.task? j = some t ∧ t'.job = t.job ∧ t'.gates = t.gates ∧
      (t'.stage.isLive = true → t.stage.isLive = true) := by
  rcases h with heq | ⟨u, stage, hu, hlive, hu'⟩ | ⟨hj, -, -⟩
  · exact ⟨t', heq ▸ ht', rfl, rfl, id⟩
  · obtain rfl := Option.some.inj (hu'.symm.trans ht')
    exact ⟨u, hu, rfl, rfl, fun _ => hlive⟩
  · exact absurd hj hnew

theorem Continues.gate {g : TaskId} (h : Continues S S' i) (hgate : S.Gate i g) :
    S'.Gate i g := by
  obtain ⟨t, ht, hg⟩ := hgate
  obtain ⟨stage, ht', -⟩ := h.task ht
  exact ⟨_, ht', hg⟩

theorem Continues.completed (h : Continues S S' i) (hdone : S.Completed i) : S'.Completed i := by
  obtain ⟨t, ht, hstage⟩ := hdone
  obtain ⟨stage, ht', hkeep⟩ := h.task ht
  exact ⟨_, ht', (hkeep (by rw [hstage]; rfl)).trans hstage⟩

/-- What a task waits behind, it goes on waiting behind. -/
theorem Gated.behind (h : Gated S) (change : Change S cause S') (hbehind : S.Behind i j) :
    S'.Behind i j :=
  TransGen.mono (fun i _ hgate => (h.continues change i).gate hgate) _ _ hbehind

/-- A task was there before, or it is that of a claim just made, or it moves no service. -/
theorem Gated.news (h : Gated S) (change : Change S cause S') {t' : Task Job HookRun}
    (ht' : S'.task? i = some t') :
    (∃ t, S.task? i = some t ∧ t'.job = t.job ∧
      (t'.stage.isLive = true → t.stage.isLive = true)) ∨
    (∃ n, t'.job = some (.confirm n)) ∨
    ∃ (d : Direction) (n : Incarnation) (name : String) (gates : List TaskId),
      i = S.submitted ∧ t' = S.newcomer name gates (d.job n) ∧
      S' = S.claimed n d.via name gates (d.job n) ∧ S.find? (S.service n).id = some n ∧
      (S.service n).state = d.origin ∧ S.MayLeave n gates d := by
  by_cases hnew : i = S.submitted
  swap
  · obtain ⟨t, ht, hjob, -, hlive⟩ := (h.continues change i).back ht' hnew
    exact .inl ⟨t, ht, hjob, hlive⟩
  subst hnew
  have hnone : ∀ {i t}, S.task? i = some t → S.submitted ≠ i :=
    fun ht => Nat.ne_of_gt (h.known _ _ ht)
  have hfresh : S.task? S.submitted ≠ some t' := fun ht => hnone ht rfl
  right
  cases change with
  | appears | edits | removes | blames | shuts | stops => exact absurd ht' hfresh
  | @claims d n name gates hfind horigin hgates hmay =>
    have heq : (S.push name gates (d.job n)).task? S.submitted = some t' := ht'
    rw [task?_push, if_pos rfl] at heq
    exact .inr ⟨d, n, name, gates, rfl, (Option.some.inj heq).symm, rfl, hfind, horigin, hmay⟩
  | @joins n name gates =>
    rw [task?_push, if_pos rfl] at ht'
    exact .inl ⟨n, Option.some.inj ht' ▸ rfl⟩
  | advances ht | confirms ht | denies ht | drops ht =>
    rw [task?_stand, if_neg (hnone ht)] at ht'
    exact absurd ht' hfresh
  | sleeps ht | concludes ht =>
    rw [task?_stand, if_neg (hnone ht)] at ht'
    exact absurd ht' hfresh

/-- A request leaves every task where it is. -/
theorem Gated.task_of_request (h : Gated S) (hcause : cause.IsRequest) (change : Change S cause S')
    (ht : S.task? i = some t) : S'.task? i = some t := by
  have hne : i ≠ S.submitted := Nat.ne_of_lt (h.known i t ht)
  cases change with
  | appears | edits | removes | blames | shuts => exact ht
  | claims d name => exact (task?_push S name _ _ i).trans ((if_neg hne).trans ht)
  | joins n name => exact (task?_push S name _ _ i).trans ((if_neg hne).trans ht)
  | stops | advances | sleeps | concludes | confirms | denies | drops => exact hcause.elim

/-- A request calls no hook. -/
theorem journal_of_request (hcause : cause.IsRequest) (change : Change S cause S')
    (n : Incarnation) : (S'.service n).journal = (S.service n).journal := by
  have hput : ∀ {T : Scene} {k : Incarnation} {s : Service},
      s.journal = (T.service k).journal → ((T.put k s).service n).journal = (T.service n).journal := by
    intro T k s hs
    rw [service_put]
    split
    · next heq => rw [heq, hs]
    · rfl
  cases change with
  | appears id typeName descriptors behaviour isRegistered hnew =>
    by_cases heq : n = S.size
    · rw [heq, service_appear_self, hnew]
      rfl
    · rw [service_appear_of_ne heq]
  | @edits k properties => exact hput (T := S) rfl
  | @removes k => exact hput (T := S) rfl
  | blames => exact hput rfl
  | shuts | joins => rfl
  | claims d name => exact hput (T := S.push name _ _) rfl
  | stops | advances | sleeps | concludes | confirms | denies | drops => exact hcause.elim

theorem journal_of_requests (changes : Changes Cause.IsRequest S S') (n : Incarnation) :
    (S'.service n).journal = (S.service n).journal := by
  induction changes with
  | refl => rfl
  | tail _ hstep ih =>
    obtain ⟨cause, hcause, change⟩ := hstep
    exact (journal_of_request hcause change n).trans ih

/-- A request moves no service that is in transit. -/
theorem state_of_request (hcause : cause.IsRequest) (change : Change S cause S')
    (htransient : (S.service n).state.isTransient = true) :
    (S'.service n).state = (S.service n).state := by
  have hput : ∀ {T : Scene} {k : Incarnation} {s : Service},
      (n = k → s.state = (T.service k).state) → ((T.put k s).service n).state = (T.service n).state := by
    intro T k s hs
    rw [service_put]
    split
    · next heq => rw [hs heq, heq]
    · rfl
  cases change with
  | appears id typeName descriptors behaviour isRegistered hnew =>
    have hne : n ≠ S.size := by
      rintro rfl
      rw [hnew] at htransient
      cases htransient
    rw [service_appear_of_ne hne]
  | @edits k properties => exact hput (T := S) fun _ => rfl
  | @removes k => exact hput (T := S) fun _ => rfl
  | blames => exact hput fun _ => rfl
  | shuts | joins => rfl
  | @claims d k name gates _ horigin =>
    refine hput (T := S.push name gates _) fun heq => ?_
    rw [heq, horigin, d.isTransient_origin] at htransient
    cases htransient
  | stops | advances | sleeps | concludes | confirms | denies | drops => exact hcause.elim

theorem state_of_requests (changes : Changes Cause.IsRequest S S')
    (htransient : (S.service n).state.isTransient = true) :
    (S'.service n).state = (S.service n).state := by
  induction changes with
  | refl => rfl
  | tail _ hstep ih =>
    obtain ⟨cause, hcause, change⟩ := hstep
    exact (state_of_request hcause change (ih ▸ htransient)).trans ih

/-- A service that is not down after a change kept its name and its properties, and if it was
down before, it was claimed. -/
theorem Orderly.kept (h : Orderly S) (change : Change S cause S')
    (hstate : (S'.service m).state ≠ .disabled) :
    (S'.service m).id = (S.service m).id ∧
      (S'.service m).properties = (S.service m).properties ∧
      ((S.service m).state = .disabled → S.find? (S.service m).id = some m ∧
        ∀ y ∈ (S.service m).references, y ≠ (S.service m).id → S.stateOf? y ≠ some .disabling) := by
  -- a change that puts one service, whose name and properties it keeps
  have hput : ∀ {k : Incarnation} {s : Service},
      (S'.service m) = (if m = k then s else S.service m) → s.id = (S.service k).id →
      s.properties = (S.service k).properties →
      (m = k → s.state ≠ .disabled → (S.service k).state = .disabled →
        S.find? (S.service k).id = some k ∧ ∀ y ∈ (S.service k).references,
          y ≠ (S.service k).id → S.stateOf? y ≠ some .disabling) →
      (S'.service m).id = (S.service m).id ∧
      (S'.service m).properties = (S.service m).properties ∧
      ((S.service m).state = .disabled → S.find? (S.service m).id = some m ∧
        ∀ y ∈ (S.service m).references, y ≠ (S.service m).id →
          S.stateOf? y ≠ some .disabling) := by
    intro k s hservice hid hproperties hclaim
    split at hservice
    · next heq =>
      subst heq
      rw [hservice] at hstate ⊢
      exact ⟨hid, hproperties, hclaim rfl hstate⟩
    · rw [hservice] at hstate ⊢
      exact ⟨rfl, rfl, fun hdisabled => absurd hdisabled hstate⟩
  cases change with
  | appears id typeName descriptors behaviour isRegistered =>
    have hne : m ≠ S.size := by
      rintro rfl
      rw [service_appear_self] at hstate
      exact hstate rfl
    rw [service_appear_of_ne hne] at hstate ⊢
    exact ⟨rfl, rfl, fun hdisabled => absurd hdisabled hstate⟩
  | @edits k properties hfind hdisabled =>
    have hservice := service_put S k m { S.service k with properties }
    have hne : m ≠ k := by
      rintro rfl
      rw [if_pos rfl] at hservice
      exact hstate ((congrArg Service.state hservice).trans hdisabled)
    rw [if_neg hne] at hservice
    exact hput (k := k) (s := S.service k) (by rw [if_neg hne]; exact hservice) rfl rfl
      fun heq => absurd heq hne
  | @removes k hfind hdisabled =>
    exact hput (service_put S k m _) rfl rfl fun _ hne hdisabled => absurd hdisabled hne
  | blames | sleeps =>
    exact hput (service_put S _ m _) rfl rfl fun _ hne hdisabled => absurd hdisabled hne
  | shuts | stops | joins | advances | confirms | denies | drops =>
    exact ⟨rfl, rfl, fun hdisabled => absurd hdisabled hstate⟩
  | @claims d k name gates hfind horigin hgates hmay =>
    refine hput (service_put (S.push name gates _) k m _) rfl rfl fun _ _ hdisabled => ⟨hfind, ?_⟩
    cases d with
    | up => exact hmay
    | down =>
      rw [horigin] at hdisabled
      cases hdisabled
  | @concludes i t k entries state fault ending ht hconcludes =>
    obtain ⟨d, hjob, hlive, -⟩ := hconcludes.direction
    refine hput (service_put S k m _) rfl rfl fun _ _ hdisabled => ?_
    exact absurd ((h.owned.held i t d k ht hjob hlive).1.symm.trans hdisabled) d.via_ne_disabled

theorem completed_of_stand {stage : Stage HookRun}
    (h : (S.stand i t stage).Completed j) : S.Completed j ∨ j = i ∧ stage = .ended .completed := by
  obtain ⟨u, hu, hcompleted⟩ := h
  rw [task?_stand] at hu
  split at hu
  · next heq =>
    obtain rfl := Option.some.inj hu
    exact .inr ⟨heq, hcompleted⟩
  · exact .inl ⟨u, hu, hcompleted⟩

theorem completed_of_push {name : String} {gates : List TaskId} {job : Job}
    (h : (S.push name gates job).Completed j) : S.Completed j := by
  obtain ⟨u, hu, hcompleted⟩ := h
  rw [task?_push] at hu
  split at hu
  · obtain rfl := Option.some.inj hu
    exact absurd hcompleted ((newcomer_idle S name gates job).2 _)
  · exact ⟨u, hu, hcompleted⟩

/-- A task completes past its gates, and when it completes its service is where it should be. -/
theorem completed_back (change : Change S cause S') (hdone : S'.Completed j) :
    S.Completed j ∨ ∃ t, S.task? j = some t ∧ t.stage.isFree = true ∧
      ((∃ n, t.job = some (.confirm n) ∧ (S.service n).state = .enabled) ∨
        ∃ (d : Direction) (n : Incarnation), t.job = some (d.job n) ∧
          (S'.service n).state = d.goal) := by
  cases change with
  | appears | edits | removes | blames | shuts | stops => exact .inl hdone
  | claims d name => exact .inl (completed_of_push hdone)
  | joins => exact .inl (completed_of_push hdone)
  | advances ht hadvances =>
    rcases completed_of_stand hdone with hdone | ⟨-, rfl⟩
    · exact .inl hdone
    · cases hadvances
  | sleeps ht hcalled =>
    rcases completed_of_stand hdone with hdone | ⟨-, hstage⟩
    · exact .inl hdone
    · cases hstage
  | @concludes i t n entries state fault ending ht hconcludes =>
    rcases completed_of_stand hdone with hdone | ⟨rfl, hstage⟩
    · exact .inl hdone
    · obtain rfl := Stage.ended.inj hstage
      obtain ⟨d, hjob, -, ⟨-, rfl, hfree, -⟩ | ⟨hne, -⟩⟩ := hconcludes.direction
      · refine .inr ⟨t, ht, hfree, .inr ⟨d, n, hjob, ?_⟩⟩
        exact congrArg Service.state ((service_put S n n _).trans (if_pos rfl))
      · exact absurd rfl hne
  | confirms ht hstage hjob hstate =>
    rcases completed_of_stand hdone with hdone | ⟨rfl, -⟩
    · exact .inl hdone
    · exact .inr ⟨_, ht, by rw [hstage]; rfl, .inl ⟨_, hjob, hstate⟩⟩
  | denies ht _ _ _ hne =>
    rcases completed_of_stand hdone with hdone | ⟨-, hstage⟩
    · exact .inl hdone
    · exact absurd (Stage.ended.inj hstage) hne
  | drops =>
    rcases completed_of_stand hdone with hdone | ⟨-, hstage⟩
    · exact .inl hdone
    · cases hstage

end ServiceLifecycle.Scene

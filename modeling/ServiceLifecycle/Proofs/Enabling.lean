import ServiceLifecycle.Proofs.Checks
import ServiceLifecycle.Proofs.Claims
import ServiceLifecycle.Proofs.Discovery
import ServiceLifecycle.Proofs.Support

/-!
# Enabling as changes

What the parts of an enabling request do to the scene. The checks do nothing; each
element of a branch is one change: its service is claimed, or a task is taken in
that confirms it.

* **checks** — they leave the provider as it is, and what they make sure of
  (`resolved_of_verify`, `valid_of_verify`, `selectTargets_ok`);
* **steps** — what becomes of one element of a branch (`submitStep_cases`);
* **branches** — what the submission of elements keeps is kept by that of branches
  (`kept_submitBranches`), and a branch of registered services is a sequence of changes
  (`changes_submitBranch`);
* **graphs** — the dependency graph of some services is all that they need
  (`spans_dependencyGraph`);
* **requests** — what an enabling request comes to (`Raises`), which is a sequence of changes
  (`changes_enable`, `changes_enableServices`), and what one leaves alone that is refused
  (`service_of_refused`).
-/

namespace ServiceLifecycle

open Relation

/-- The invariants that every change keeps. -/
structure Scene.Lawful (S : Scene) : Prop where
  orderly : Scene.Orderly S
  supported : Scene.Supported S

theorem Scene.Lawful.step {S S' : Scene} {cause : Cause} (h : S.Lawful)
    (change : Change S cause S') : S'.Lawful :=
  ⟨h.orderly.step change, h.supported.step h.orderly change⟩

theorem Scene.Orderly.changes {K : Cause → Prop} {S S' : Scene} (h : S.Orderly)
    (changes : Changes K S S') : S'.Orderly := by
  induction changes with
  | refl => exact h
  | tail _ change ih =>
    obtain ⟨_, -, change⟩ := change
    exact ih.step change

/-- Requests leave every task where it is. -/
theorem Scene.Orderly.task_of_requests {S S' : Scene} {i : TaskId} {t : Task Job HookRun}
    (h : S.Orderly) (changes : Changes Cause.IsRequest S S') (ht : S.task? i = some t) :
    S'.task? i = some t := by
  induction changes with
  | refl => exact ht
  | tail hsteps hstep ih =>
    obtain ⟨cause, hcause, change⟩ := hstep
    exact (h.changes hsteps).gated.task_of_request hcause change ih

theorem Scene.Lawful.changes {K : Cause → Prop} {S S' : Scene} (h : S.Lawful)
    (changes : Changes K S S') : S'.Lawful := by
  induction changes with
  | refl => exact h
  | tail _ change ih =>
    obtain ⟨_, -, change⟩ := change
    exact ih.step change

/-- Whether a service may be claimed for activation as far as its references go: each other
than itself is active, or it is down and about to be enabled. -/
def Scene.Allows (S : Scene) (n : Incarnation) (willEnable : List ServiceId) : Prop :=
  ∀ y ∈ (S.service n).references, y ≠ (S.service n).id →
    ((S.stateOf? y).getD .disabled).isActive = true ∨
      (S.stateOf? y).getD .disabled = .disabled ∧ y ∈ willEnable

namespace Scene

variable {S S' T : Scene} {n : Incarnation}

/-- The service is the one registered under its name. -/
def Registered (S : Scene) (n : Incarnation) : Prop := S.find? (S.service n).id = some n

theorem Named.registered (h : Named S) {id : ServiceId} (hn : S.find? id = some n) :
    S.Registered n := (congrArg S.find? (h.own id n hn).1).trans hn

/-- All services have the names and the properties they had. -/
structure SameGraph (S S' : Scene) : Prop where
  find? : S'.find? = S.find?
  id : ∀ n, (S'.service n).id = (S.service n).id
  descriptors : ∀ n, (S'.service n).descriptors = (S.service n).descriptors
  properties : ∀ n, (S'.service n).properties = (S.service n).properties

theorem SameGraph.references (h : SameGraph S S') (n : Incarnation) :
    (S'.service n).references = (S.service n).references := by
  simp only [Service.references, h.properties]

theorem SameGraph.refl (S : Scene) : SameGraph S S :=
  ⟨rfl, fun _ => rfl, fun _ => rfl, fun _ => rfl⟩

theorem SameGraph.trans (h : SameGraph S S') (h' : SameGraph S' T) : SameGraph S T :=
  ⟨h'.find?.trans h.find?, fun n => (h'.id n).trans (h.id n),
    fun n => (h'.descriptors n).trans (h.descriptors n),
    fun n => (h'.properties n).trans (h.properties n)⟩

theorem SameGraph.registered (h : SameGraph S S') (hn : S.Registered n) : S'.Registered n := by
  unfold Registered
  rw [h.find?, h.id, hn]

theorem SameGraph.push (S : Scene) (name : String) (gates : List TaskId) (job : Job) :
    SameGraph S (S.push name gates job) := ⟨rfl, fun _ => rfl, fun _ => rfl, fun _ => rfl⟩

theorem SameGraph.put (S : Scene) {s : Service} (hid : s.id = (S.service n).id)
    (hdescriptors : s.descriptors = (S.service n).descriptors)
    (hproperties : s.properties = (S.service n).properties) : SameGraph S (S.put n s) := by
  refine ⟨rfl, fun m => ?_, fun m => ?_, fun m => ?_⟩ <;>
  · rw [service_put]
    split
    · next heq => simp only [heq, hid, hdescriptors, hproperties]
    · rfl

theorem SameGraph.claimed (S : Scene) (n : Incarnation) (state : ServiceState) (name : String)
    (gates : List TaskId) (job : Job) : SameGraph S (S.claimed n state name gates job) :=
  (SameGraph.push S name gates job).trans (.put _ rfl rfl rfl)

/-- The task of a transition has been submitted. -/
theorem Orderly.transition_lt (h : Orderly S) {i : TaskId}
    (hi : (S.service n).transition = some i) : i < S.submitted := by
  cases htransient : (S.service n).state.isTransient with
  | false =>
    rw [h.owned.rests n htransient] at hi
    cases hi
  | true =>
    obtain ⟨d, hd⟩ := ServiceState.isTransient_iff.mp htransient
    obtain ⟨j, t, hj, ht, -⟩ := h.owned.holds n d hd
    obtain rfl : i = j := Option.some.inj (hi.symm.trans hj)
    exact h.gated.known i t ht

end Scene

namespace Provider

variable {p : Provider} {n : Incarnation} {willEnable : List ServiceId}

theorem stateOf?_scene (p : Provider) (id : ServiceId) :
    p.scene.stateOf? id = p.registry.stateOf? id := Registry.outline_stateOf? _ _

theorem stateOf_scene (p : Provider) (id : ServiceId) :
    p.registry.stateOf id = (p.scene.stateOf? id).getD .disabled := by
  rw [stateOf?_scene]
  rfl

/-- What the validator says of a service as things are now. -/
def verdict (p : Provider) (n : Incarnation) : Verdict :=
  p.registry.verdictFor n (p.service n).properties

/-! ## Checks -/

theorem judge_undisturbed (p : Provider) (n : Incarnation) (properties : PropertyStore) :
    p.judge undisturbed n properties = (p.registry.verdictFor n properties, p) := by
  unfold judge undisturbed
  simp

theorem verifyCanEnable_snd (p : Provider) (n : Incarnation) (willEnable : List ServiceId) :
    (p.verifyCanEnable undisturbed n willEnable).2 = p :=
  kept_verifyCanEnable (I := (· = p)) (fun _ _ h => h) rfl n willEnable

/-- A service that may be enabled refers only to registered services that are active or about
to be enabled. -/
theorem verifyCanEnable_ok (h : (p.verifyCanEnable undisturbed n willEnable).1 = .ok ())
    (hcoherent : (p.service n).properties.Coherent) :
    ∀ y ∈ (p.service n).references, ∃ state, p.scene.stateOf? y = some state ∧
      (state.isActive = true ∨ y ∈ willEnable) := by
  intro y hy
  have hobstacle : p.referenceObstacle? n (p.service n).properties willEnable = none := by
    unfold verifyCanEnable at h
    dsimp only at h
    split at h
    · cases h
    · assumption
  rw [Service.references, hcoherent y, Table.values, List.mem_map] at hy
  obtain ⟨e, he, hvalue⟩ := hy
  have hentry : (e.1, y) ∈ (p.service n).properties.referenceEntries :=
    List.mem_filterMap.mpr ⟨e, he, by rw [hvalue]; rfl⟩
  have hnone := List.findSome?_eq_none_iff.mp hobstacle _ hentry
  dsimp only at hnone
  rw [stateOf?_scene]
  cases hstate : p.registry.stateOf? y with
  | none => simp [hstate] at hnone
  | some state =>
    refine ⟨state, rfl, ?_⟩
    simpa [hstate, or_iff_not_imp_left] using hnone

/-- Services that may be enabled together refer only to registered services that are active or
among them. -/
theorem resolved_of_verify (h : Scene.Orderly p.scene) {targets : List Incarnation}
    (htargets : ∀ n ∈ targets, p.scene.Registered n)
    (hwill : ∀ y ∈ willEnable, ∃ n ∈ targets, (p.service n).id = y)
    (hverify : (p.verifyCanEnable undisturbed n willEnable).1 = .ok ()) :
    ∀ y ∈ (p.scene.service n).references, ∃ m, p.scene.find? y = some m ∧
      ((p.scene.service m).state.isActive = true ∨ m ∈ targets) := by
  intro y hy
  obtain ⟨state, hstate, hwhy⟩ := verifyCanEnable_ok hverify (h.named.coherent n) y hy
  obtain ⟨m, hm, rfl⟩ := Option.map_eq_some_iff.mp hstate
  refine ⟨m, hm, hwhy.imp_right fun hin => ?_⟩
  obtain ⟨k, hk, rfl⟩ := hwill y hin
  exact Option.some.inj ((htargets k hk).symm.trans hm) ▸ hk

/-- What may be enabled is valid. -/
theorem valid_of_verify (h : (p.verifyCanEnable undisturbed n willEnable).1 = .ok ()) :
    p.verdict n = .valid := by
  unfold verifyCanEnable at h
  dsimp only at h
  split at h
  · cases h
  · rw [judge_undisturbed] at h
    dsimp only at h
    split at h
    · assumption
    · cases h

theorem verifyAll_snd (willEnable : List ServiceId) (ns : List Incarnation) (p : Provider) :
    (verifyAll undisturbed willEnable ns p).2 = p :=
  kept_verifyAll (I := (· = p)) (fun _ _ h => h) willEnable ns rfl

theorem verifyAll_ok {ns : List Incarnation}
    (h : (verifyAll undisturbed willEnable ns p).1 = .ok ()) :
    ∀ n ∈ ns, (p.verifyCanEnable undisturbed n willEnable).1 = .ok () := by
  induction ns with
  | nil => simp
  | cons n ns ih =>
    have hsnd := verifyCanEnable_snd p n willEnable
    unfold verifyAll at h
    split at h
    · next q heq =>
      rw [heq] at hsnd
      obtain rfl : q = p := hsnd
      intro m hm
      rcases List.mem_cons.mp hm with rfl | hm
      · rw [heq]
      · exact ih h m hm
    · cases h

/-- To pick out targets is to say something and no more. -/
theorem kept_selectTargets {I : Provider → Prop} (hsay : ∀ p remark, I p → I (p.say remark))
    (ns : List Incarnation) {p : Provider} (h : I p) : I (p.selectTargets ns).2 := by
  induction ns generalizing p with
  | nil => exact h
  | cons n ns ih =>
    unfold selectTargets
    dsimp only
    split
    · have hrest := ih h
      split <;> next heq => rw [heq] at hrest; exact hrest
    · exact ih (hsay p _ h)
    · exact ih (hsay p _ h)
    · exact h

theorem scene_selectTargets (ns : List Incarnation) (p : Provider) :
    (p.selectTargets ns).2.scene = p.scene :=
  kept_selectTargets (I := (·.scene = p.scene)) (fun _ _ h => h) ns rfl

/-- The targets are those of the given services that are down. -/
theorem selectTargets_ok {ns targets : List Incarnation} :
    ∀ {p : Provider}, (p.selectTargets ns).1 = .ok targets →
      ∀ n, n ∈ targets ↔ n ∈ ns ∧ (p.scene.service n).state = .disabled := by
  induction ns generalizing targets with
  | nil =>
    intro p h n
    obtain rfl : [] = targets := Except.ok.inj h
    simp
  | cons m ns ih =>
    intro p h n
    -- a service that is active is passed over
    have hactive : ∀ {q : Provider}, q.scene = p.scene → (p.scene.service m).state ≠ .disabled →
        (q.selectTargets ns).1 = .ok targets →
        (n ∈ targets ↔ n ∈ m :: ns ∧ (p.scene.service n).state = .disabled) := by
      intro q hscene hm hrest
      rw [ih hrest n, hscene, List.mem_cons]
      constructor
      · exact fun ⟨hin, hdown⟩ => ⟨.inr hin, hdown⟩
      · rintro ⟨rfl | hin, hdown⟩
        · exact absurd hdown hm
        · exact ⟨hin, hdown⟩
    unfold selectTargets at h
    dsimp only at h
    split at h
    · next hstate =>
      split at h
      · next rest q heq =>
        obtain rfl := Except.ok.inj h
        have hrest := ih (p := p) (by rw [heq]) n
        rw [List.mem_cons, List.mem_cons, hrest]
        constructor
        · rintro (rfl | ⟨hin, hdown⟩)
          · exact ⟨.inl rfl, hstate⟩
          · exact ⟨.inr hin, hdown⟩
        · rintro ⟨rfl | hin, hdown⟩
          · exact .inl rfl
          · exact .inr ⟨hin, hdown⟩
      · cases h
    · next hstate => exact hactive (q := p.say _) rfl (hstate ▸ by simp) h
    · next hstate => exact hactive (q := p.say _) rfl (hstate ▸ by simp) h
    · cases h

/-- The services resolved are those registered under the given names. -/
theorem resolve_ok {ids : List ServiceId} {ns : List Incarnation} (h : p.resolve ids = .ok ns) :
    ∀ n, n ∈ ns ↔ ∃ id ∈ ids, p.registry.find? id = some n := by
  induction ids generalizing ns with
  | nil =>
    obtain rfl : [] = ns := Except.ok.inj h
    simp
  | cons id ids ih =>
    unfold resolve at h
    split at h
    · cases h
    · next n hn =>
      cases hrest : p.resolve ids with
      | error e =>
        rw [hrest] at h
        cases h
      | ok rest =>
        rw [hrest] at h
        obtain rfl : n :: rest = ns := Except.ok.inj h
        intro m
        rw [List.mem_cons, ih hrest m, eq_comm]
        simp only [List.mem_cons, exists_eq_or_imp, hn, Option.some.injEq]

theorem verifyDependenciesUp_ok :
    p.verifyDependenciesUp n willEnable = .ok () ↔ p.scene.Allows n willEnable := by
  unfold verifyDependenciesUp Scene.Allows
  dsimp only
  split
  · next hnone =>
    refine iff_of_true rfl fun y hy hne => ?_
    have hfalse := List.find?_eq_none.mp hnone y (List.mem_filter.mpr ⟨hy, decide_eq_true hne⟩)
    rw [← stateOf_scene]
    cases hstate : p.registry.stateOf y <;> simp_all [ServiceState.isActive]
  · next y hsome =>
    refine iff_of_false (by simp) fun hall => ?_
    obtain ⟨hy, hne⟩ := List.mem_filter.mp (List.mem_of_find?_eq_some hsome)
    have htrue := List.find?_some hsome
    have hor := hall y hy (of_decide_eq_true hne)
    rw [← stateOf_scene] at hor
    cases hstate : p.registry.stateOf y <;> simp_all [ServiceState.isActive]

/-! ## Steps -/

/-- What becomes of one element of a branch. -/
theorem submitStep_cases (hn : n < p.scene.size) (gate : Option TaskId)
    (willEnable : List ServiceId) :
    ∃ claimed p', p.submitStep n gate willEnable = (p.scene.submitted, claimed, p') ∧
      ∃ name gates,
      (claimed = .initiated ∧ (p.scene.service n).state = .disabled ∧
        p.scene.Allows n willEnable ∧ (∀ g, g ∈ gates ↔ gate = some g) ∧
        p'.scene = p.scene.claimed n .enabling name gates (.enable n)) ∨
      (claimed ≠ .initiated ∧
        ((p.scene.service n).removed = true ∨ (p.scene.service n).state = .disabled ∧
          ¬ p.scene.Allows n willEnable ∨ (p.scene.service n).state ≠ .disabled) ∧
        (∀ g, g ∈ gates ↔ (p.scene.service n).removed = false ∧
          (p.scene.service n).state ≠ .disabled ∧ (p.scene.service n).transition = some g ∨
            gate = some g) ∧
        p'.scene = p.scene.push name gates (.confirm n)) := by
  have hgate : ∀ g, g ∈ (OrderedSet.ofList gate.toList).toList ↔ gate = some g := by
    intro g
    rw [OrderedSet.mem_ofList, Option.mem_toList]
  have hclaiming := claiming p n .disabled .enabling (.enable n) gate.toList
    fun p => (p.verifyDependenciesUp n willEnable, p)
  unfold submitStep
  generalize p.claim n .disabled .enabling (.enable n) gate.toList
    (fun p => (p.verifyDependenciesUp n willEnable, p)) = result at hclaiming ⊢
  cases hclaiming with
  | removed hremoved =>
    refine ⟨.joined, (p.submit (.confirm n) gate.toList).2, rfl, _, _,
      .inr ⟨by simp, .inl hremoved, fun g => ?_, (scene_submit p (.confirm n) gate.toList).2⟩⟩
    rw [hgate]
    refine (or_iff_right ?_).symm
    rintro ⟨hfalse, -⟩
    exact absurd (hremoved.symm.trans hfalse) (by simp)
  | busy hkept hstate =>
    refine ⟨.joined, (p.submit (.confirm n) _).2, rfl, _, _,
      .inr ⟨by simp, .inr (.inr hstate), fun g => ?_, (scene_submit p (.confirm n)
        ((p.service n).transition.toList ++ gate.toList)).2⟩⟩
    rw [OrderedSet.mem_ofList, List.mem_append, Option.mem_toList, Option.mem_toList]
    refine or_congr_left ?_
    exact ⟨fun h => ⟨hkept, hstate, h⟩, fun h => h.2.2⟩
  | @rejected e q _ hstate heq =>
    obtain ⟨hcheck, rfl⟩ := Prod.mk.inj heq
    let q := p.say
      ⟨.debug, s!"Not enabling controller service {p.registry.nameOf n}: {e.message}"⟩
    refine ⟨.rejected e, (q.submit (.confirm n) gate.toList).2, rfl, _, _,
      .inr ⟨by simp, .inr (.inl ⟨hstate, ?_⟩), fun g => ?_,
        (scene_submit q (.confirm n) gate.toList).2⟩⟩
    · rw [← verifyDependenciesUp_ok, hcheck]
      simp
    · rw [hgate]
      refine (or_iff_right ?_).symm
      rintro ⟨-, hne, -⟩
      exact hne hstate
  | @granted q _ hstate heq =>
    obtain ⟨hcheck, rfl⟩ := Prod.mk.inj heq
    obtain ⟨name, hscene⟩ := scene_depart hn .enabling (.enable n) gate.toList
    exact ⟨.initiated, _, rfl, name, _,
      .inl ⟨rfl, hstate, verifyDependenciesUp_ok.mp hcheck, hgate, hscene⟩⟩

/-! ## Branches -/

/-- Each element of a branch of registered services is one change. -/
theorem change_submitStep (h : Scene.Orderly p.scene) (hn : p.scene.Registered n)
    (gate : Option TaskId) (hgate : ∀ g, gate = some g → g < p.scene.submitted)
    (willEnable : List ServiceId) :
    ∃ claimed p', p.submitStep n gate willEnable = (p.scene.submitted, claimed, p') ∧
      Change p.scene (.claim .up) p'.scene ∧ p'.scene.submitted = p.scene.submitted + 1 ∧
      Scene.SameGraph p.scene p'.scene := by
  obtain ⟨claimed, p', hstep, name, gates, ⟨-, hstate, hallows, hgates, hscene⟩ |
    ⟨-, -, hgates, hscene⟩⟩ := submitStep_cases (h.named.within _ n hn) gate willEnable
  · refine ⟨claimed, p', hstep, ?_, by rw [hscene]; rfl, hscene ▸ .claimed _ _ _ _ _ _⟩
    rw [hscene]
    refine .claims .up name hn hstate (fun g hg => hgate g ((hgates g).mp hg)) ?_
    intro y hy hne hdisabling
    rcases hallows y hy hne with hactive | ⟨hdisabled, -⟩
    · rw [hdisabling] at hactive
      cases hactive
    · rw [hdisabling] at hdisabled
      cases hdisabled
  · refine ⟨claimed, p', hstep, ?_, by rw [hscene]; rfl, hscene ▸ .push _ _ _ _⟩
    rw [hscene]
    refine .joins n name fun g hg => ?_
    rcases (hgates g).mp hg with ⟨-, -, htransition⟩ | hg
    · exact h.transition_lt htransition
    · exact hgate g hg

/-- What is done with one element of a branch. -/
def submitElement (willEnable : List ServiceId) (acc : Submission × Provider)
    (v : Graph.Vertex Incarnation) : Submission × Provider :=
  let (i, claimed, p) := acc.2.submitStep v.item (acc.1.last.map Prod.fst) willEnable
  let initiated := match claimed with
    | .initiated => acc.1.initiated.insert v.id
    | .joined | .rejected _ => acc.1.initiated
  ({ last := some (i, claimed), initiated }, p)

theorem submitBranch_eq (branch : List (Graph.Vertex Incarnation)) (willEnable : List ServiceId)
    (initiated : OrderedSet ServiceId) (p : Provider) :
    submitBranch branch willEnable initiated p =
      branch.foldl (submitElement willEnable) ({ initiated }, p) := rfl

/-- What the submission of each element keeps, the submission of a branch keeps. -/
theorem kept_submitBranch {I : Provider → Prop} {branch : List (Graph.Vertex Incarnation)}
    (hstep : ∀ v ∈ branch, ∀ gate p, I p → I (p.submitStep v.item gate willEnable).2.2)
    (initiated : OrderedSet ServiceId) {p : Provider} (h : I p) :
    I (submitBranch branch willEnable initiated p).2 := by
  have gen : ∀ acc : Submission × Provider, I acc.2 →
      I (branch.foldl (submitElement willEnable) acc).2 := fun acc hacc =>
    List.foldlRecOn (motive := fun acc => I acc.2) branch (submitElement willEnable) hacc
      fun acc hacc v hv => hstep v hv _ acc.2 hacc
  exact gen ({ initiated }, p) h

/-- What the submission of each branch keeps, the submission of several branches keeps. -/
theorem kept_submitBranches {I : Provider → Prop}
    {branches : List (List (Graph.Vertex Incarnation))}
    (hstep : ∀ branch ∈ branches, ∀ initiated p, I p →
      I (submitBranch branch willEnable initiated p).2) {p : Provider} (h : I p) :
    I (submitBranches branches willEnable p).2 := by
  unfold submitBranches
  generalize (OrderedSet.empty : OrderedSet ServiceId) = initiated
  induction branches generalizing initiated p with
  | nil => exact h
  | cons branch branches ih =>
    exact ih (fun b hb => hstep b (List.mem_cons_of_mem _ hb))
      (hstep branch List.mem_cons_self initiated p h) _

theorem changes_elements (willEnable : List ServiceId) (branch : List (Graph.Vertex Incarnation)) :
    ∀ acc : Submission × Provider, Scene.Orderly acc.2.scene →
      (∀ i claimed, acc.1.last = some (i, claimed) → i < acc.2.scene.submitted) →
      (∀ v ∈ branch, acc.2.scene.Registered v.item) →
      Changes (· = .claim .up) acc.2.scene (branch.foldl (submitElement willEnable) acc).2.scene ∧
        Scene.SameGraph acc.2.scene (branch.foldl (submitElement willEnable) acc).2.scene := by
  induction branch with
  | nil => exact fun acc _ _ _ => ⟨.refl, .refl _⟩
  | cons v branch ih =>
    intro acc h hlast hbranch
    obtain ⟨claimed, p', hstep, hchange, hsubmitted, hnames⟩ :=
      change_submitStep h (hbranch v List.mem_cons_self)
        (acc.1.last.map Prod.fst) (fun g hg => by
          obtain ⟨⟨i, c⟩, hc, rfl⟩ := Option.map_eq_some_iff.mp hg
          exact hlast i c hc) willEnable
    have hscene : (submitElement willEnable acc v).2.scene = p'.scene := by
      simp only [submitElement, hstep]
    have hlast' : (submitElement willEnable acc v).1.last = some (acc.2.scene.submitted, claimed) := by
      simp only [submitElement, hstep]
    obtain ⟨hchanges, hnames'⟩ := ih (submitElement willEnable acc v)
      (hscene ▸ h.step hchange)
      (fun i c hc => by
        rw [hlast'] at hc
        obtain ⟨rfl, -⟩ := Prod.mk.inj (Option.some.inj hc)
        rw [hscene, hsubmitted]
        exact Nat.lt_succ_self _)
      (fun u hu => by
        rw [hscene]
        exact hnames.registered (hbranch u (List.mem_cons_of_mem _ hu)))
    rw [hscene] at hchanges hnames'
    exact ⟨Changes.head rfl hchange hchanges, hnames.trans hnames'⟩

/-- The submission of a branch of registered services is a sequence of changes. -/
theorem changes_submitBranch (h : Scene.Orderly p.scene) {branch : List (Graph.Vertex Incarnation)}
    (hbranch : ∀ v ∈ branch, p.scene.Registered v.item) (willEnable : List ServiceId)
    (initiated : OrderedSet ServiceId) :
    Changes (· = .claim .up) p.scene (submitBranch branch willEnable initiated p).2.scene ∧
      Scene.SameGraph p.scene (submitBranch branch willEnable initiated p).2.scene :=
  changes_elements willEnable branch ({ initiated }, p) h (fun _ _ h => by cases h) hbranch

theorem scene_sayNotes (p : Provider) (walk : Graph.Walk Incarnation) :
    (p.sayNotes walk).scene = p.scene :=
  sceneOf_outline p.tasks (Registry.outline_sayAll _ _)

theorem scene_foldl_sayNotes (walks : List (Graph.Walk Incarnation)) (p : Provider) :
    (walks.foldl sayNotes p).scene = p.scene := by
  induction walks generalizing p with
  | nil => rfl
  | cons walk walks ih => rw [List.foldl_cons, ih, scene_sayNotes]

/-! ## Graphs -/

/-- The vertices of a graph are those of registered services of a scene. -/
structure Depicts (nodes : Table ServiceId (Graph.Vertex Incarnation)) (S : Scene) : Prop where
  own : Graph.OwnNames nodes.get?
  registered : ∀ id v, nodes.get? id = some v → S.find? id = some v.item
  dependencies : ∀ id v, nodes.get? id = some v → v.dependencies = (S.service v.item).references

/-- A graph holds what some services need, and nothing else. -/
structure Spans (nodes : Table ServiceId (Graph.Vertex Incarnation)) (S : Scene)
    (targets : List Incarnation) : Prop extends Depicts nodes S where
  complete : ∀ u, nodes.get? u.id = some u → ∀ m, S.Refers u.item m →
    ∃ w, Graph.Refers nodes.get? u w ∧ w.item = m
  needed : ∀ id v, nodes.get? id = some v → ∃ n ∈ targets, ReflTransGen S.Refers n v.item

section Depicts

variable {nodes : Table ServiceId (Graph.Vertex Incarnation)} {S : Scene}
  {u v : Graph.Vertex Incarnation}

theorem Depicts.refers (h : Depicts nodes S) (hu : nodes.get? u.id = some u)
    (hrefers : Graph.Refers nodes.get? u v) : S.Refers u.item v.item :=
  ⟨v.id, h.dependencies _ u hu ▸ hrefers.1, h.registered _ v hrefers.2⟩

theorem Depicts.reaches (h : Depicts nodes S) (hu : nodes.get? u.id = some u)
    (hreach : Graph.Reaches nodes.get? u v) : ReflTransGen S.Refers u.item v.item := by
  induction hreach with
  | refl => exact .refl
  | tail huv hvw ih => exact ih.tail (h.refers (Graph.stored_of_reaches hu huv) hvw)

/-- What stands in a branch stands in the graph. -/
theorem Depicts.stored (h : Depicts nodes S) (hu : nodes.get? u.id = some u)
    (hv : v ∈ Graph.enablingBranch nodes u) : nodes.get? v.id = some v :=
  Graph.stored_of_reaches hu ((Graph.mem_enablingBranch h.own hu).mp hv)

end Depicts

/-- The dependency graph of registered services is all that they need. -/
theorem spans_dependencyGraph (h : Scene.Named p.scene) {targets : List Incarnation}
    (htargets : ∀ n ∈ targets, p.scene.Registered n) :
    Spans (p.registry.dependencyGraph targets) p.scene targets := by
  have hown := Registry.dependencyGraph_ownNames htargets fun id n hn => (h.own id n hn).1
  refine ⟨⟨hown, ?_, ?_⟩, ?_, ?_⟩
  · intro id v hv
    obtain ⟨-, n, hn, rfl⟩ := Registry.dependencyGraph_get? htargets hv
    exact hn
  · intro id v hv
    obtain ⟨-, n, hn, rfl⟩ := Registry.dependencyGraph_get? htargets hv
    rfl
  · rintro u hu m ⟨y, hy, hm⟩
    obtain ⟨-, n, hn, rfl⟩ := Registry.dependencyGraph_get? htargets hu
    have hvertex := Registry.dependencyGraph_closed htargets hu hy hm
    have hid := hown y _ hvertex
    exact ⟨p.registry.vertex m, ⟨hid.symm ▸ hy, hid.symm ▸ hvertex⟩, rfl⟩
  · intro id v hv
    obtain ⟨hname, n, hn, rfl⟩ := Registry.dependencyGraph_get? htargets hv
    exact Registry.graphNames_within (P := fun k => ∃ n ∈ targets, ReflTransGen p.scene.Refers n k)
      (fun n hn => ⟨htargets n hn, n, hn, .refl⟩)
      (fun k ⟨n, hn, hpath⟩ y hy m hm => ⟨n, hn, hpath.tail ⟨y, hy, hm⟩⟩) id hname n hn

/-! ## Requests -/

/-- What comes of a request to enable services that is not refused. It has targets, which are
down and found valid, and each of which refers only to registered services that are active or
among the targets. Branches of the graph of all that they need are submitted. -/
structure Raises (p : Provider) (targets : List Incarnation) (S : Scene) : Prop where
  registered : ∀ n ∈ targets, p.scene.Registered n
  down : ∀ n ∈ targets, (p.scene.service n).state = .disabled
  valid : ∀ n ∈ targets, p.verdict n = .valid
  resolved : ∀ n ∈ targets, ∀ y ∈ (p.scene.service n).references, ∃ m, p.scene.find? y = some m ∧
    ((p.scene.service m).state.isActive = true ∨ m ∈ targets)
  submits : ∃ nodes, Spans nodes p.scene targets ∧
    ∃ (q : Provider) (willEnable : List ServiceId) (branches : List _), q.scene = p.scene ∧
      (∀ branch ∈ branches, ∃ target, nodes.get? target.id = some target ∧
        branch = Graph.enablingBranch nodes target) ∧
      S = (submitBranches branches willEnable q).2.scene

/-- A request to enable a service is refused and nothing happens, or it has this service for its
target. -/
theorem enable_raises (h : Scene.Orderly p.scene) (id : ServiceId) :
    (p.enable undisturbed id).2.scene = p.scene ∨
      ∃ n, p.scene.find? id = some n ∧ p.Raises [n] (p.enable undisturbed id).2.scene := by
  unfold enable
  cases hfind : p.registry.find? id with
  | none => exact .inl rfl
  | some n =>
    have hsnd := verifyCanEnable_snd p n []
    dsimp only
    split
    · exact .inl rfl
    · next hstate =>
      split
      · next heq =>
        rw [heq] at hsnd
        exact .inl (congrArg scene hsnd)
      · next q heq =>
        rw [heq] at hsnd
        obtain rfl : q = p := hsnd
        have hverify : (q.verifyCanEnable undisturbed n []).1 = .ok () := by rw [heq]
        have hn : ∀ m ∈ [n], q.scene.Registered m := fun m hm =>
          List.mem_singleton.mp hm ▸ h.named.registered hfind
        let walk := Graph.walkFrom (q.registry.dependencyGraph [n]) (q.registry.vertex n)
        refine .inr ⟨n, hfind, hn, ?_, ?_, ?_, _, spans_dependencyGraph h.named hn,
          q.sayNotes walk, [], [walk.branch], scene_sayNotes q walk, ?_, ?_⟩
        · exact fun m hm => List.mem_singleton.mp hm ▸ not_not.mp hstate
        · exact fun m hm => List.mem_singleton.mp hm ▸ valid_of_verify hverify
        · intro m hm
          obtain rfl := List.mem_singleton.mp hm
          exact resolved_of_verify h hn (fun y hy => by cases hy) hverify
        · intro branch hbranch
          obtain rfl := List.mem_singleton.mp hbranch
          exact ⟨_, Registry.dependencyGraph_given hn (List.mem_singleton_self n), rfl⟩
        · -- what is replied does not matter
          split
          · split
            · rfl
            · split <;> rfl
          · rfl

/-- A request to enable several services is refused and nothing happens, or it has those of them
for its targets that are down. -/
theorem enableServices_raises (h : Scene.Orderly p.scene) {ns : List Incarnation}
    (hns : ∀ n ∈ ns, p.scene.Registered n) :
    (p.enableServices undisturbed ns).2.scene = p.scene ∨
      ∃ targets, (∀ n, n ∈ targets ↔ n ∈ ns ∧ (p.scene.service n).state = .disabled) ∧
        p.Raises targets (p.enableServices undisturbed ns).2.scene := by
  have hselect := scene_selectTargets ns p
  have hverdict : ∀ n, (p.selectTargets ns).2.verdict n = p.verdict n :=
    kept_selectTargets (I := fun q => ∀ n, q.verdict n = p.verdict n) (fun _ _ h => h) ns
      fun _ => rfl
  unfold enableServices
  split
  · next heq =>
    rw [heq] at hselect
    exact .inl hselect
  · next targets q heq =>
    have htarget : ∀ n, n ∈ targets ↔ n ∈ ns ∧ (p.scene.service n).state = .disabled :=
      selectTargets_ok (by rw [heq])
    rw [heq] at hselect hverdict
    have hsnd := verifyAll_snd (targets.map fun n => (q.service n).id) targets q
    dsimp only
    split
    · next heq' =>
      rw [heq'] at hsnd
      exact .inl ((congrArg scene hsnd).trans hselect)
    · next q' heq' =>
      rw [heq'] at hsnd
      obtain rfl : q' = q := hsnd
      have hverify := verifyAll_ok (p := q') (by rw [heq'])
      have hregistered : ∀ n ∈ targets, q'.scene.Registered n := fun n hn =>
        hselect ▸ hns n ((htarget n).mp hn).1
      have horderly : Scene.Orderly q'.scene := hselect ▸ h
      have hspans := spans_dependencyGraph horderly.named hregistered
      have hresolved := fun n hn => resolved_of_verify horderly hregistered
        (fun y hy => List.mem_map.mp hy) (hverify n hn)
      have hnotes := scene_foldl_sayNotes (Graph.walks (q'.registry.dependencyGraph targets)) q'
      refine .inr ⟨targets, htarget, hselect ▸ hregistered, fun n hn => ((htarget n).mp hn).2,
        fun n hn => hverdict n ▸ valid_of_verify (hverify n hn), hselect ▸ hresolved, _,
        hselect ▸ hspans, _, _, _, hnotes.trans hselect, fun branch hbranch => ?_, rfl⟩
      obtain ⟨walk, hwalk, rfl⟩ := List.mem_map.mp (List.mem_of_mem_take hbranch)
      obtain ⟨target, hmem, rfl⟩ := List.mem_map.mp hwalk
      exact ⟨target, (Graph.mem_values_iff_stored hspans.own).mp hmem, rfl⟩

/-- The submission of all these branches is a sequence of changes. -/
theorem Raises.changes {targets : List Incarnation} {S : Scene} (h : p.Raises targets S)
    (horderly : Scene.Orderly p.scene) :
    Changes (· = .claim .up) p.scene S ∧ Scene.SameGraph p.scene S := by
  obtain ⟨nodes, hspans, q, willEnable, branches, hq, hbranches, rfl⟩ := h.submits
  refine kept_submitBranches (I := fun r => Changes (· = .claim .up) p.scene r.scene ∧
    Scene.SameGraph p.scene r.scene) (fun branch hbranch initiated r hr => ?_)
    ⟨hq ▸ .refl, hq ▸ .refl _⟩
  obtain ⟨target, htarget, rfl⟩ := hbranches branch hbranch
  have hregistered : ∀ v ∈ Graph.enablingBranch nodes target, r.scene.Registered v.item :=
    fun v hv => hr.2.registered
      (horderly.named.registered (hspans.registered _ v (hspans.stored htarget hv)))
  obtain ⟨hchanges, hsame⟩ :=
    changes_submitBranch (horderly.changes hr.1) hregistered willEnable initiated
  exact ⟨hr.1.trans hchanges, hr.2.trans hsame⟩

/-- A request to enable a service is a sequence of changes. -/
theorem changes_enable (h : Scene.Orderly p.scene) (id : ServiceId) :
    Changes (· = .claim .up) p.scene (p.enable undisturbed id).2.scene ∧
      Scene.SameGraph p.scene (p.enable undisturbed id).2.scene := by
  rcases enable_raises h id with heq | ⟨n, -, hraises⟩
  · rw [heq]
    exact ⟨.refl, .refl _⟩
  · exact hraises.changes h

/-- A claim moves no other service than the one it gets. -/
theorem Claiming.service {m : Incarnation} {source target : ServiceState} {job : Job}
    {gates : List TaskId} {confirm : Provider → Except RequestError Unit × Provider}
    (hconfirm : (confirm p).2 = p) {q : Except Refusal TaskId × Provider}
    (h : Claiming p m source target job gates confirm q) :
    q.2.service n = p.service n ∨ m = n ∧ ∃ i, q.1 = .ok i := by
  cases h with
  | removed | busy => exact .inl rfl
  | rejected _ _ heq =>
    rw [heq] at hconfirm
    exact .inl (congrArg (fun r : Provider => r.service n) hconfirm)
  | @granted q _ _ heq =>
    rw [heq] at hconfirm
    obtain rfl : q = p := hconfirm
    by_cases hm : m = n
    · exact .inr ⟨hm, _, rfl⟩
    · have hother : ∀ (r : Provider) (f : Service → Service),
          (r.modify m f).service n = r.service n := by
        intro r f
        show ((r.registry.services.modify m f)[n]?).getD default = _
        rw [Array.getElem?_modify, if_neg hm]
        rfl
      have hsubmit : ∀ r : Provider, (r.submit job gates).2.service n = r.service n :=
        fun _ => rfl
      left
      unfold depart
      dsimp only
      rw [hother, hsubmit, hother]

/-- So does the submission of an element, which reports that it is on its way up. -/
theorem service_of_submitStep (m : Incarnation) (gate : Option TaskId)
    (willEnable : List ServiceId) :
    (p.submitStep m gate willEnable).2.2.service n = p.service n ∨
      m = n ∧ (p.submitStep m gate willEnable).2.1 = .initiated := by
  have hclaim := (claiming p m .disabled .enabling (.enable m) gate.toList
    fun p => (p.verifyDependenciesUp m willEnable, p)).service (n := n) rfl
  unfold submitStep
  split <;> rename_i heq <;> rw [heq] at hclaim
  · exact hclaim.imp_right fun h => ⟨h.1, rfl⟩
  · exact .inl (hclaim.resolve_right fun ⟨_, _, h⟩ => by cases h)
  · exact .inl (hclaim.resolve_right fun ⟨_, _, h⟩ => by cases h)
  · exact .inl (hclaim.resolve_right fun ⟨_, _, h⟩ => by cases h)

/-- The submission of a branch leaves a service alone that it does not report. -/
theorem service_of_submitBranch {id : ServiceId} {branch : List (Graph.Vertex Incarnation)}
    (hbranch : ∀ v ∈ branch, v.item = n → v.id = id) (willEnable : List ServiceId)
    (initiated : OrderedSet ServiceId) :
    (submitBranch branch willEnable initiated p).1.last.isSome = true ∧
        id ∈ (submitBranch branch willEnable initiated p).1.initiated.toList ∨
      (submitBranch branch willEnable initiated p).2.service n = p.service n := by
  rw [submitBranch_eq]
  refine List.foldlRecOn (motive := fun acc : Submission × Provider =>
    acc.1.last.isSome = true ∧ id ∈ acc.1.initiated.toList ∨ acc.2.service n = p.service n)
    branch (submitElement willEnable) (.inr rfl) fun acc hacc v hv => ?_
  have hstep := service_of_submitStep (p := acc.2) (n := n) v.item (acc.1.last.map Prod.fst)
    willEnable
  unfold submitElement
  generalize acc.2.submitStep v.item (acc.1.last.map Prod.fst) willEnable = result at hstep ⊢
  obtain ⟨i, claimed, q⟩ := result
  -- what is reported once is reported in the end
  have hreported : id ∈ acc.1.initiated.toList → id ∈ (match claimed with
      | .initiated => acc.1.initiated.insert v.id
      | .joined | .rejected _ => acc.1.initiated).toList := by
    intro hin
    split
    · exact (OrderedSet.mem_insert _ _ _).mpr (.inl hin)
    · exact hin
    · exact hin
  rcases hstep with hsame | ⟨hitem, hinitiated⟩
  · exact hacc.imp (fun hin => ⟨rfl, hreported hin.2⟩) fun hservice => hsame.trans hservice
  · obtain rfl : claimed = .initiated := hinitiated
    exact .inl ⟨rfl, (OrderedSet.mem_insert _ _ _).mpr (.inr (hbranch v hv hitem).symm)⟩

/-- A request to enable a service that is refused, whoever gets in while it is checked, leaves
the services of this name as they were when the check was over. At most it submits a branch. -/
theorem service_of_refused {I : Provider → Prop} {between : Interference}
    (hbetween : ∀ probe q, I q → I (between probe q)) (hp : I p) {id : ServiceId}
    (hid : ∀ q, I q → (q.service n).id = id) {e : RequestError} {r : Provider}
    (hrefused : p.enable between id = (.error e, r)) :
    ∃ q, I q ∧ r.service n = q.service n ∧
      (r = q ∨ ∃ walk : Graph.Walk Incarnation,
        r = (submitBranch walk.branch [] .empty (q.sayNotes walk)).2) := by
  unfold enable at hrefused
  split at hrefused
  · obtain ⟨-, rfl⟩ := Prod.mk.inj hrefused
    exact ⟨p, hp, rfl, .inl rfl⟩
  · next m _ =>
    dsimp only at hrefused
    split at hrefused
    · obtain ⟨-, rfl⟩ := Prod.mk.inj hrefused
      exact ⟨p, hp, rfl, .inl rfl⟩
    · have hcheck := kept_verifyCanEnable hbetween hp m []
      split at hrefused <;> rename_i q heq <;> rw [heq] at hcheck
      · obtain ⟨-, rfl⟩ := Prod.mk.inj hrefused
        exact ⟨q, hcheck, rfl, .inl rfl⟩
      · let walk := Graph.walkFrom (q.registry.dependencyGraph [m]) (q.registry.vertex m)
        -- an element that stands for the service has its name
        have hbranch : ∀ v ∈ walk.branch, v.item = n → v.id = id := by
          rintro v hv rfl
          have hvertex := Registry.vertex_of_branch hv
          rw [hvertex]
          exact hid q hcheck
        have hservice := service_of_submitBranch (p := q.sayNotes walk) hbranch [] .empty
        have hnotes : (q.sayNotes walk).service n = q.service n := by
          unfold sayNotes
          rw [sayAll_eq]
          rfl
        rw [hnotes] at hservice
        refine ⟨q, hcheck, ?_⟩
        split at hrefused
        · split at hrefused
          · cases (Prod.mk.inj hrefused).1
          · next hnot =>
            have hsame := hservice.resolve_left fun hin => hnot (OrderedSet.contains_iff.mpr hin.2)
            split at hrefused <;>
            · obtain ⟨-, rfl⟩ := Prod.mk.inj hrefused
              exact ⟨hsame, .inr ⟨walk, rfl⟩⟩
        · next hlast =>
          have hsame := hservice.resolve_left fun hin => by simp [walk, hlast] at hin
          obtain ⟨-, rfl⟩ := Prod.mk.inj hrefused
          exact ⟨hsame, .inr ⟨walk, rfl⟩⟩

/-- Where nobody gets in it publishes nothing of them. -/
theorem past_of_refused (h : Scene.Orderly p.scene) {id : ServiceId}
    (hfind : p.registry.find? id = some n) {e : RequestError} {q : Provider}
    (hrefused : p.enable undisturbed id = (.error e, q)) :
    (q.scene.service n).past = (p.scene.service n).past := by
  obtain ⟨_, rfl, hservice, -⟩ := service_of_refused (I := (· = p)) (fun _ _ h => h) rfl
    (fun r hr => hr ▸ (h.named.own id n hfind).1) hrefused
  exact congrArg (fun s : Service => s.outline.past) hservice

/-- A request to enable several registered services is a sequence of changes. -/
theorem changes_enableServices (h : Scene.Orderly p.scene) {ns : List Incarnation}
    (hns : ∀ n ∈ ns, p.scene.Registered n) :
    Changes (· = .claim .up) p.scene (p.enableServices undisturbed ns).2.scene ∧
      Scene.SameGraph p.scene (p.enableServices undisturbed ns).2.scene := by
  rcases enableServices_raises h hns with heq | ⟨targets, -, hraises⟩
  · rw [heq]
    exact ⟨.refl, .refl _⟩
  · exact hraises.changes h

end Provider

end ServiceLifecycle

import ServiceLifecycle.Proofs.Claims
import ServiceLifecycle.Proofs.Order
import ServiceLifecycle.Proofs.Sweep

/-!
# Who goes down, and in what order

A request to take down whatever depends on a service takes down all of it that is up, or nothing.
It is refused if one of the dependents is in transit or in use. If it is not, then no claim is
refused either: whatever refers to a service of the chain is in the chain or down, since nothing
that is up refers to itself in a circle.

* **checks** — what the questions and the checks before the first claim come to
  (`Provider.selectEnabled_cases`, `Provider.verifyNoneInUse_cases`);
* **claims** — what has happened when some services have been claimed in a chain
  (`Provider.Lowered`), claim by claim (`Provider.Lowered.claim`) and for a whole chain
  (`Provider.Lowered.claimChain`);
* **requests** — what a request comes to, to the last detail (`Setup.disableReferrers_exact`).
-/

namespace ServiceLifecycle

open Relation

namespace Provider

variable {p q r : Provider} {n m : Incarnation} {ns : List Incarnation} {id : ServiceId}
  {excluded : List ServiceId} {gate : Option TaskId}

/-! ## Checks -/

/-- Whether there is a component registered under the name, and it runs. -/
def runs (p : Provider) (cid : ComponentId) : Bool :=
  (p.registry.roster.get? cid).any fun c => (p.registry.component c).isRunning

/-- The running components that refer to a service. -/
def users (p : Provider) (n : Incarnation) : List ComponentId :=
  (p.registry.referrers.components (p.service n).id).filter p.runs

theorem askRunning_undisturbed (p : Provider) (cid : ComponentId) :
    p.askRunning undisturbed cid = (p.runs cid, p) := by
  unfold askRunning runs
  split
  · next hnone => rw [hnone]; rfl
  · next c hc =>
    rw [hc, askComponent_undisturbed]
    rfl

theorem rests_iff {cid : ComponentId} : p.Rests cid ↔ p.runs cid = false := by
  unfold Rests runs
  cases p.registry.roster.get? cid <;> simp

/-- Questions to which nobody reacts select what they are answered for. -/
theorem selectAsking_eq {α : Type} {check : α → Provider → Bool × Provider} {f : α → Bool}
    {as : List α} (h : ∀ a ∈ as, check a p = (f a, p)) :
    selectAsking check as p = (as.filter f, p) := by
  induction as with
  | nil => rfl
  | cons a as ih =>
    rw [List.forall_mem_cons] at h
    unfold selectAsking
    rw [h.1]
    dsimp only
    rw [ih h.2, List.filter_cons]

/-- A service may be taken down if whatever refers to it is excluded, down or at rest. -/
theorem verifyNoActiveReferrers_clear
    (hservices : ∀ u ∈ p.registry.referrers.services (p.service n).id,
      u ∈ excluded ∨ p.registry.stateOf u = .disabled)
    (hcomponents : ∀ c ∈ p.registry.referrers.components (p.service n).id, p.Rests c) :
    p.verifyNoActiveReferrers undisturbed n excluded = (.ok (), p) := by
  unfold verifyNoActiveReferrers
  dsimp only
  rw [selectAsking_eq (f := fun _ => false), List.filter_false]
  intro referrer hreferrer
  cases referrer with
  | service u =>
    have hu : u ∈ p.registry.referrers.services (p.service n).id :=
      Referrers.mem_services_iff.mpr (Referrers.has_iff.mpr hreferrer)
    unfold isActiveReferrer
    rcases hservices u hu with hin | hdown
    · simp [hin]
    · simp [hdown]
  | component c =>
    exact (hcomponents c (List.mem_filterMap.mpr ⟨_, hreferrer, rfl⟩)).askRunning

/-- Where none is in transit, the services that are up are found. -/
theorem selectEnabled_eq {ns : List Incarnation}
    (h : ∀ n ∈ ns, (p.service n).state.isTransient = false) :
    p.selectEnabled ns = .ok (ns.filter fun n => (p.service n).state = .enabled) := by
  induction ns with
  | nil => rfl
  | cons n ns ih =>
    rw [List.forall_mem_cons] at h
    unfold selectEnabled
    dsimp only
    rw [if_neg (by simp [h.1]), ih h.2]
    by_cases hstate : (p.service n).state = .enabled
    · rw [if_pos hstate, List.filter_cons_of_pos (by simpa using hstate)]
      rfl
    · rw [if_neg hstate, List.filter_cons_of_neg (by simpa using hstate)]

/-- Either one of some services is in transit, or those that are up are found. -/
theorem selectEnabled_cases (p : Provider) (ns : List Incarnation) :
    (∃ n ∈ ns, (p.service n).state.isTransient = true ∧ p.selectEnabled ns =
      .error (.invalidState (p.service n).id
        s!"cannot disable a service that is {(p.service n).state.text}")) ∨
    (∀ n ∈ ns, (p.service n).state.isTransient = false) ∧
      p.selectEnabled ns = .ok (ns.filter fun n => (p.service n).state = .enabled) := by
  by_cases hall : ∀ n ∈ ns, (p.service n).state.isTransient = false
  · exact .inr ⟨hall, selectEnabled_eq hall⟩
  refine .inl ?_
  induction ns with
  | nil => exact absurd (by simp) hall
  | cons n ns ih =>
    unfold selectEnabled
    dsimp only
    by_cases htransient : (p.service n).state.isTransient = true
    · exact ⟨n, List.mem_cons_self, htransient, if_pos htransient⟩
    rw [if_neg htransient]
    obtain ⟨m, hm, htransient', hrest⟩ := ih fun hrest =>
      hall (List.forall_mem_cons.mpr ⟨Bool.not_eq_true _ ▸ htransient, hrest⟩)
    refine ⟨m, List.mem_cons_of_mem _ hm, htransient', ?_⟩
    rw [hrest]
    split <;> rfl

/-- A service may be taken down as far as components go if none of those that refer to it runs. -/
theorem verifyNoRunningComponents_ok (h : p.users n = []) :
    p.verifyNoRunningComponents undisturbed n = (.ok (), p) := by
  have hnone : (p.registry.referrers.components (p.service n).id).filter p.runs = [] := h
  unfold verifyNoRunningComponents
  dsimp only
  rw [selectAsking_eq fun cid _ => p.askRunning_undisturbed cid, hnone]

theorem verifyNoRunningComponents_error (h : p.users n ≠ []) :
    p.verifyNoRunningComponents undisturbed n =
      (.error (.activeReferrer (p.service n).id ((p.users n).map .component)), p) := by
  obtain ⟨cid, rest, hsome⟩ := List.exists_cons_of_ne_nil h
  have hfound : (p.registry.referrers.components (p.service n).id).filter p.runs = cid :: rest :=
    hsome
  unfold verifyNoRunningComponents
  dsimp only
  rw [selectAsking_eq fun cid _ => p.askRunning_undisturbed cid, hfound, hsome]

/-- Either one of some services is in use, or none is. -/
theorem verifyNoneInUse_cases (p : Provider) (ns : List Incarnation) :
    (∃ n ∈ ns, p.users n ≠ [] ∧ verifyNoneInUse undisturbed ns p =
      (.error (.activeReferrer (p.service n).id ((p.users n).map .component)), p)) ∨
    (∀ n ∈ ns, p.users n = []) ∧ verifyNoneInUse undisturbed ns p = (.ok (), p) := by
  induction ns with
  | nil => exact .inr ⟨by simp, rfl⟩
  | cons n ns ih =>
    unfold verifyNoneInUse
    by_cases husers : p.users n = []
    · rw [verifyNoRunningComponents_ok husers]
      rcases ih with ⟨m, hm, hused, hrest⟩ | ⟨hunused, hrest⟩
      · exact .inl ⟨m, List.mem_cons_of_mem _ hm, hused, hrest⟩
      · exact .inr ⟨List.forall_mem_cons.mpr ⟨husers, hunused⟩, hrest⟩
    · refine .inl ⟨n, List.mem_cons_self, husers, ?_⟩
      rw [verifyNoRunningComponents_error husers]

/-- Nothing stands in the way of taking the service down at once, except that some others are
still to go down before it. -/
structure Clear (p : Provider) (excluded : List ServiceId) (n : Incarnation) : Prop where
  state : (p.service n).state = .enabled
  kept : (p.service n).removed = false
  services : ∀ u ∈ p.registry.referrers.services (p.service n).id,
    u ∈ excluded ∨ p.registry.stateOf u = .disabled
  unused : p.users n = []

theorem Clear.mono (h : p.Clear excluded n) {excluded' : List ServiceId}
    (hsubset : excluded ⊆ excluded') : p.Clear excluded' n :=
  ⟨h.state, h.kept, fun u hu => (h.services u hu).imp_left (@hsubset u), h.unused⟩

theorem Clear.verified (h : p.Clear excluded n) :
    p.verifyNoActiveReferrers undisturbed n excluded = (.ok (), p) :=
  verifyNoActiveReferrers_clear h.services fun cid hcid =>
    rests_iff.mpr (Bool.not_eq_true _ ▸ List.filter_eq_nil_iff.mp h.unused cid hcid)

/-- Who may be claimed is claimed. -/
theorem Clear.claimDown (h : p.Clear excluded n) (gate : Option TaskId) :
    ∃ r, p.claimDown undisturbed n excluded gate = (.ok p.tasks.tasks.size, r) ∧
      p.Departs n .disabling (.disable n) gate.toList r := by
  have hn : n < p.registry.services.size := Registry.lt_of_state fun hdown => by
    rw [show (p.registry.service n).state = .enabled from h.state] at hdown
    cases hdown
  have hclaiming := claiming p n .enabled .disabling (.disable n) gate.toList
    fun p => p.verifyNoActiveReferrers undisturbed n excluded
  unfold Provider.claimDown
  generalize p.claim n .enabled .disabling (.disable n) gate.toList
    (fun p => p.verifyNoActiveReferrers undisturbed n excluded) = result at hclaiming ⊢
  cases hclaiming with
  | removed hremoved =>
    rw [h.kept] at hremoved
    cases hremoved
  | busy _ hstate => exact absurd h.state hstate
  | rejected _ _ heq => cases h.verified.symm.trans heq
  | @granted q _ _ heq =>
    obtain ⟨-, rfl⟩ := Prod.mk.inj (h.verified.symm.trans heq)
    have hdeparts := departs_depart hn .disabling (rfl : (Job.disable n).service = n) gate.toList
    rw [toList_ofList_option] at hdeparts
    exact ⟨_, rfl, hdeparts.withLog _⟩

/-! ## Claims -/

/-- The task before the one at a place in a chain, if there is one, where the first task of the
chain is `first`. -/
def chainGate (first : TaskId) : Nat → Option TaskId
  | 0 => none
  | k + 1 => some (first + k)

/-- The services `ns` are going down, and nothing else has happened. They were claimed one after
the other; each has one task, which is gated on the one before it and on nothing else. -/
structure Lowered (p : Provider) (ns : List Incarnation) (q : Provider) : Prop
    extends Confined ns p q where
  going : ∀ (k : Nat) n, ns[k]? = some n →
    q.service n = (p.service n).depart .disabling (p.tasks.tasks.size + k)
  tasks : q.tasks.tasks.toList = p.tasks.tasks.toList ++ ns.mapIdx fun k n =>
    p.newcomer (.disable n) (chainGate p.tasks.tasks.size k).toList
  pending : q.tasks.pending = p.tasks.pending + ns.length

namespace Lowered

theorem size_eq (h : p.Lowered ns q) : q.tasks.tasks.size = p.tasks.tasks.size + ns.length := by
  have hlength := congrArg List.length h.tasks
  rwa [List.length_append, List.length_mapIdx, Array.length_toList, Array.length_toList] at hlength

/-- Nothing has been claimed yet. -/
theorem start (p : Provider) (log : List Remark) : p.Lowered [] (p.withLog log) :=
  ⟨(Confined.refl p).withLog log, by simp, by simp [withLog], rfl⟩

/-- Who may be claimed still may be when others have been. -/
theorem clear (h : p.Lowered ns q) (hns : ∀ m ∈ ns, (p.service m).state = .enabled)
    (hn : n ∉ ns) (hclear : p.Clear excluded n) : q.Clear excluded n := by
  have hsame := h.others n hn
  have hruns : q.runs = p.runs := by
    funext cid
    unfold runs Registry.component
    rw [h.roster, h.components]
  refine ⟨by rw [hsame, hclear.state], by rw [hsame, hclear.kept], fun u hu => ?_, ?_⟩
  · rw [hsame, h.referrers] at hu
    refine (hclear.services u hu).imp_right fun hdown => ?_
    unfold Registry.stateOf at hdown ⊢
    rw [h.stateOf? fun m hm hin => ?_, hdown]
    -- a service that has been claimed was up
    rw [stateOf?_eq hm, hns m hin] at hdown
    cases hdown
  · unfold users
    rw [hsame, h.referrers, hruns]
    exact hclear.unused

/-- A claim is one more service that goes down. -/
theorem claim (h : p.Lowered ns q) (hn : n ∉ ns)
    (hclaims : q.Departs n .disabling (.disable n)
      (chainGate p.tasks.tasks.size ns.length).toList r) :
    p.Lowered (ns ++ [n]) r := by
  have hsame := h.others n hn
  exact {
    toConfined := h.toConfined.trans hclaims.toConfined
    going k m hm := by
      rw [List.getElem?_append] at hm
      split at hm
      · have hin := List.mem_of_getElem? hm
        rw [hclaims.others m fun heq => hn (List.mem_singleton.mp heq ▸ hin), h.going k m hm]
      · next hk =>
        rw [List.getElem?_singleton] at hm
        split at hm
        · next hzero =>
          obtain rfl : k = ns.length := by omega
          obtain rfl := Option.some.inj hm
          rw [hclaims.self, hsame, h.size_eq]
        · cases hm
    tasks := by
      rw [hclaims.tasks, Array.toList_push, h.tasks, List.mapIdx_concat, List.append_assoc,
        h.toConfined.newcomer (.disable n) _ (congrArg Service.id hsame)]
    pending := by
      rw [hclaims.pending, h.pending, List.length_append]
      rfl }

/-- If all that stands in a chain may be claimed, all of it is, in the order of the chain. -/
theorem claimChain (rest : List (Graph.Vertex Incarnation)) :
    ∀ {ns : List Incarnation} {q : Provider}, p.Lowered ns q →
      (∀ m ∈ ns, (p.service m).state = .enabled) →
      (∀ v ∈ rest, p.Clear excluded v.item ∧ v.item ∉ ns) → (rest.map Graph.Vertex.item).Nodup →
      ∃ q', claimChain undisturbed excluded rest (chainGate p.tasks.tasks.size ns.length) q =
          (.ok (rest.map Graph.Vertex.id), q') ∧
        p.Lowered (ns ++ rest.map Graph.Vertex.item) q' := by
  induction rest with
  | nil => exact fun h _ _ _ => ⟨_, rfl, by simpa using h⟩
  | cons v rest ih =>
    intro ns q h hns hclear hdistinct
    rw [List.forall_mem_cons] at hclear
    rw [List.map_cons, List.nodup_cons] at hdistinct
    obtain ⟨⟨hv, hnew⟩, hclear⟩ := hclear
    obtain ⟨q₁, hclaim, hlowered⟩ : ∃ q₁, q.claimDown undisturbed v.item excluded
        (chainGate p.tasks.tasks.size ns.length) = (.ok q.tasks.tasks.size, q₁) ∧
        p.Lowered (ns ++ [v.item]) q₁ := by
      obtain ⟨r, hclaim, hclaims⟩ := (h.clear hns hnew hv).claimDown _
      exact ⟨r, hclaim, h.claim hnew hclaims⟩
    have hgate : some q.tasks.tasks.size =
        chainGate p.tasks.tasks.size (ns ++ [v.item]).length := by
      rw [h.size_eq, List.length_append]
      rfl
    have hapart : ∀ w ∈ rest, p.Clear excluded w.item ∧ w.item ∉ ns ++ [v.item] := by
      intro w hw
      refine ⟨(hclear w hw).1, fun hin => ?_⟩
      rcases List.mem_append.mp hin with hin | hin
      · exact (hclear w hw).2 hin
      · exact hdistinct.1 (List.mem_singleton.mp hin ▸ List.mem_map_of_mem hw)
    obtain ⟨q', hchain, hall⟩ := ih hlowered
      (List.forall_mem_append.mpr ⟨hns, List.forall_mem_singleton.mpr hv.state⟩) hapart hdistinct.2
    refine ⟨q', ?_, by simpa using hall⟩
    unfold Provider.claimChain
    rw [hclaim]
    dsimp only
    rw [hgate, hchain]
    rfl

end Lowered

/-- In the table of some registered services each stands under its name, and nothing else does. -/
theorem get?_vertices {targets : List Incarnation}
    (hown : ∀ m ∈ targets, p.registry.find? (p.service m).id = some m) {k : ServiceId}
    {v : Graph.Vertex Incarnation} :
    (Table.ofList (targets.map fun m => ((p.service m).id, p.registry.vertex m))).get? k = some v ↔
      ∃ m ∈ targets, (p.service m).id = k ∧ p.registry.vertex m = v := by
  have hstored : ∀ {k v}, (Table.ofList (targets.map fun m =>
      ((p.service m).id, p.registry.vertex m))).get? k = some v →
      ∃ m ∈ targets, (p.service m).id = k ∧ p.registry.vertex m = v := by
    intro k v hv
    obtain ⟨m, hm, heq⟩ := List.mem_map.mp (Table.mem_of_get?_ofList hv)
    exact ⟨m, hm, Prod.mk.inj heq⟩
  refine ⟨hstored, ?_⟩
  rintro ⟨m, hm, rfl, rfl⟩
  obtain ⟨v, hv⟩ := Table.get?_ofList_isSome (List.mem_map_of_mem (f := fun m =>
    ((p.service m).id, p.registry.vertex m)) hm)
  obtain ⟨m', hm', hid, rfl⟩ := hstored hv
  have hfind := hown m' hm'
  rw [hid, hown m hm] at hfind
  exact Option.some.inj hfind ▸ hv

/-- Several registered services stand in the disabling order of their table, each once, and nothing
else does. -/
theorem disablingOrder_vertices {targets : List Incarnation}
    (hown : ∀ m ∈ targets, p.registry.find? (p.service m).id = some m)
    {nodes : Table ServiceId (Graph.Vertex Incarnation)}
    (hnodes : nodes = .ofList (targets.map fun m => ((p.service m).id, p.registry.vertex m))) :
    (∀ v, v ∈ Graph.disablingOrder nodes ↔ ∃ m ∈ targets, p.registry.vertex m = v) ∧
      ((Graph.disablingOrder nodes).map Graph.Vertex.item).Nodup ∧
      (targets.map fun m => (p.service m).id) ⊆ nodes.keys := by
  have hstored : ∀ k v, nodes.get? k = some v ↔
      ∃ m ∈ targets, (p.service m).id = k ∧ p.registry.vertex m = v :=
    fun k v => hnodes ▸ get?_vertices hown
  have howned : Graph.OwnNames nodes.get? := by
    intro k v hv
    obtain ⟨m, -, rfl, rfl⟩ := (hstored k v).mp hv
    rfl
  have horder : ∀ v, v ∈ Graph.disablingOrder nodes ↔ ∃ m ∈ targets, p.registry.vertex m = v := by
    intro v
    rw [Graph.mem_disablingOrder howned, hstored]
    refine exists_congr fun m => and_congr_right fun _ => and_iff_right_of_imp ?_
    rintro rfl
    rfl
  refine ⟨horder, ?_, fun u hu => ?_⟩
  · refine List.Nodup.of_map (fun m => (p.service m).id) ?_
    rw [List.map_map]
    refine (List.map_congr_left fun v hv => ?_) ▸ Graph.disablingOrder_distinct nodes
    obtain ⟨m, -, rfl⟩ := (horder v).mp hv
    rfl
  · obtain ⟨m, hm, rfl⟩ := List.mem_map.mp hu
    exact Table.mem_keys_of_get? ((hstored _ _).mpr ⟨m, hm, rfl, rfl⟩)

/-- If several registered services may be claimed once the others are, all of them are. Whatever
refers to one of them goes down before it. -/
theorem lowered_claimTargets (h : p.scene.Lawful) {targets : List Incarnation}
    (hregistered : ∀ m ∈ targets, p.registry.find? (p.service m).id = some m)
    (hclear : ∀ m ∈ targets, p.Clear (targets.map fun m => (p.service m).id) m) :
    ∃ ns q, p.claimTargets undisturbed targets = (.ok (ns.map fun m => (p.service m).id), q) ∧
      p.Lowered ns q ∧ (ns.map fun m => (p.service m).id).Nodup ∧ (∀ m, m ∈ ns ↔ m ∈ targets) ∧
      ∀ pre m post, ns = pre ++ m :: post → ∀ k ∈ ns, p.Refers k m → k ∈ pre := by
  unfold claimTargets
  dsimp only
  generalize hnodes : Table.ofList (targets.map fun n => ((p.service n).id, p.registry.vertex n)) =
    nodes
  obtain ⟨horder, hdistinct, hsubset⟩ := disablingOrder_vertices hregistered hnodes.symm
  generalize hremarks : List.map _ ((Graph.walks nodes).flatMap _) = remarks
  have hdepicts : Depicts nodes p.scene := by
    refine ⟨fun k v hv => ?_, fun k v hv => ?_, fun k v hv => ?_⟩ <;>
      obtain ⟨m, hm, rfl, rfl⟩ := (get?_vertices hregistered).mp (hnodes ▸ hv)
    · rfl
    · exact hregistered m hm
    · rfl
  have hid : ∀ v ∈ Graph.disablingOrder nodes, v.id = (p.service v.item).id := by
    intro v hv
    obtain ⟨m, -, rfl⟩ := (horder v).mp hv
    rfl
  have hmem : ∀ m, m ∈ (Graph.disablingOrder nodes).map Graph.Vertex.item ↔ m ∈ targets := by
    intro m
    simp only [List.mem_map, horder, exists_exists_and_eq_and]
    exact exists_eq_right
  have hclear' : ∀ v ∈ Graph.disablingOrder nodes, p.Clear nodes.keys v.item ∧ v.item ∉ [] := by
    intro v hv
    obtain ⟨m, hm, rfl⟩ := (horder v).mp hv
    exact ⟨(hclear m hm).mono hsubset, List.not_mem_nil⟩
  have hnames : ((Graph.disablingOrder nodes).map Graph.Vertex.item).map (fun m =>
      (p.service m).id) = (Graph.disablingOrder nodes).map Graph.Vertex.id := by
    rw [List.map_map]
    exact List.map_congr_left fun v hv => (hid v hv).symm
  obtain ⟨q, hchain, hlowered⟩ := (Lowered.start p _).claimChain (Graph.disablingOrder nodes)
    (by simp) hclear' hdistinct
  refine ⟨(Graph.disablingOrder nodes).map Graph.Vertex.item, q, ?_, hlowered, ?_, hmem, ?_⟩
  · rw [hnames, ← hchain, sayAll_eq]
    rfl
  · rw [hnames]
    exact Graph.disablingOrder_distinct nodes
  · intro pre m post hsplit k hk hrefers
    obtain ⟨front, back, horder', rfl, hback⟩ := List.map_eq_append_iff.mp hsplit
    obtain ⟨v, back', rfl, rfl, -⟩ := List.map_eq_cons_iff.mp hback
    obtain ⟨w, hw, rfl⟩ := List.mem_map.mp hk
    have hv : v ∈ Graph.disablingOrder nodes := horder' ▸ by simp
    have hstored := fun {u} hu => (Graph.mem_disablingOrder (v := u) hdepicts.own).mp hu
    have hground : p.scene.Grounded v.item := h.supported.grounded v.item (by
      rw [state_scene, (hclear' v hv).1.state]
      rfl)
    have hrefers' : Graph.Refers nodes.get? w v := by
      obtain ⟨y, hy, hfind⟩ := hrefers
      have hvy : y = v.id := (h.orderly.named.own y _ hfind).1.symm.trans (hid v hv).symm
      exact ⟨hdepicts.dependencies _ w (hstored hw) ▸ hvy ▸ hy, hstored hv⟩
    refine List.mem_map_of_mem (Graph.disablingOrder_before hdepicts.own (hstored hw) hrefers'
      (fun heq => ?_) (fun hback => ?_) horder')
    · exact hground.acyclic (.single (heq ▸ hrefers))
    · exact hground.acyclic (TransGen.tail' (hdepicts.reaches (hstored hv) hback) hrefers)

/-! ## Requests -/

/-- A registered service other than the second one, to which it refers directly or through
others. -/
def DependsOn (p : Provider) (m n : Incarnation) : Prop :=
  m ≠ n ∧ p.registry.find? (p.service m).id = some m ∧ TransGen p.Refers m n

/-- Whatever depends on a service is found to refer to it. -/
theorem dependsOn_iff (h : Scene.Named p.scene) (hn : p.registry.find? id = some n) :
    p.DependsOn m n ↔ m ∈ (p.registry.recursiveReferrers id).filterMap p.registry.find? := by
  rw [List.mem_filterMap]
  constructor
  · rintro ⟨hne, hm, hpath⟩
    refine ⟨_, (mem_recursiveReferrers h hn).mpr
      ⟨fun heq => hne ?_, m, hm, hpath.to_reflTransGen⟩, hm⟩
    rw [heq, hn] at hm
    exact (Option.some.inj hm).symm
  · rintro ⟨k, hk, hm⟩
    obtain ⟨hne, m', hm', hpath⟩ := (mem_recursiveReferrers h hn).mp hk
    obtain rfl : m = m' := Option.some.inj (hm.symm.trans hm')
    have hmn : m ≠ n := by
      rintro rfl
      exact hne ((h.own k m hm).1.symm.trans (h.own id m hn).1)
    exact ⟨hmn, h.registered hm, (reflTransGen_iff_eq_or_transGen.mp hpath).resolve_left hmn.symm⟩

/-- Why what depends on a service cannot be taken down. -/
inductive Obstructs (p : Provider) (id : ServiceId) : RequestError → Prop
  /-- There is no such service. -/
  | unknown : p.registry.find? id = none → p.Obstructs id (.notFound id)
  /-- A dependent is in transit. -/
  | inTransit {n m : Incarnation} : p.registry.find? id = some n → p.DependsOn m n →
      (p.service m).state.isTransient = true →
      p.Obstructs id (.invalidState (p.service m).id
        s!"cannot disable a service that is {(p.service m).state.text}")
  /-- None is, but one that is up is referred to by components that run. -/
  | inUse {n m : Incarnation} : p.registry.find? id = some n →
      (∀ k, p.DependsOn k n → (p.service k).state.isTransient = false) → p.DependsOn m n →
      (p.service m).state = .enabled → p.users m ≠ [] →
      p.Obstructs id (.activeReferrer (p.service m).id ((p.users m).map .component))

/-- The services `ns` are all that depend on `n` and are up. They go down in this order, each after
whatever refers to it, and nothing else has happened. -/
structure TakesDown (p : Provider) (n : Incarnation) (ns : List Incarnation) (q : Provider) : Prop
    extends Lowered p ns q where
  mem_iff : ∀ m, m ∈ ns ↔ p.DependsOn m n ∧ (p.service m).state = .enabled
  distinct : (ns.map fun m => (p.service m).id).Nodup
  order : ∀ pre m post, ns = pre ++ m :: post → ∀ k ∈ ns, p.Refers k m → k ∈ pre

/-- The state of a registered service by its name. -/
theorem stateOf_eq (hm : p.registry.find? id = some m) {state : ServiceState}
    (hstate : (p.service m).state = state) : p.registry.stateOf id = state := by
  unfold Registry.stateOf Registry.stateOf? Registry.lookup?
  rw [hm]
  exact hstate

/-- Once nothing that depends on a service is in transit, what leads to it and is not in use may be
claimed, as soon as whatever depends on the service and is up has been. -/
theorem clear_of_checked (h : p.scene.Lawful)
    (hrest : ∀ k, p.DependsOn k n → (p.service k).state.isTransient = false)
    (hexcluded : ∀ k, p.DependsOn k n → (p.service k).state = .enabled →
      (p.service k).id ∈ excluded)
    (hfind : p.registry.find? (p.service m).id = some m) (hpath : ReflTransGen p.Refers m n)
    (hstate : (p.service m).state = .enabled) (hunused : p.users m = []) :
    p.Clear excluded m := by
  have hnamed := h.orderly.named
  refine ⟨hstate, (hnamed.own _ m hfind).2, fun u hu => ?_, hunused⟩
  obtain ⟨k, hk, href⟩ := (hnamed.indexed _ u).mp (Referrers.mem_services_iff.mp hu)
  have hrefers : p.Refers k m := ⟨_, href, hfind⟩
  have hground : p.scene.Grounded m := h.supported.grounded m (by
    rw [state_scene, hstate]
    rfl)
  -- a referrer depends on the service too, or there would be a circle
  have hdepends : p.DependsOn k n := by
    refine ⟨?_, hnamed.registered hk, .head' hrefers hpath⟩
    rintro rfl
    exact hground.acyclic (.tail' hpath hrefers)
  cases hstatek : (p.service k).state with
  | enabled => exact .inl ((hnamed.own u k hk).1 ▸ hexcluded k hdepends hstatek)
  | disabled => exact .inr (stateOf_eq hk hstatek)
  | enabling | disabling =>
    have hstill := hrest k hdepends
    rw [hstatek] at hstill
    cases hstill

/-- A request to take down what depends on a service is obstructed, and then nothing happens, or it
is not, and then all that is up goes down. -/
theorem disableReferrers_cases (h : p.scene.Lawful) (id : ServiceId) :
    (∃ e, p.Obstructs id e ∧ p.disableReferrers undisturbed id = (.error e, p)) ∨
    (¬ ∃ e, p.Obstructs id e) ∧ ∃ n ns q, p.registry.find? id = some n ∧
      p.disableReferrers undisturbed id = (.ok (ns.map fun m => (p.service m).id), q) ∧
      p.TakesDown n ns q := by
  cases hfind : p.registry.find? id with
  | none => exact .inl ⟨_, .unknown hfind, by simp only [disableReferrers, hfind]⟩
  | some n =>
    have hdepends : ∀ m, p.DependsOn m n ↔ _ := fun m => dependsOn_iff h.orderly.named hfind
    unfold disableReferrers
    rw [hfind]
    dsimp only
    generalize (p.registry.recursiveReferrers id).filterMap p.registry.find? = dependents
      at hdepends ⊢
    rcases p.selectEnabled_cases dependents with ⟨m, hm, htransient, hselect⟩ | ⟨hrest, hselect⟩
    · exact .inl ⟨_, .inTransit hfind ((hdepends m).mpr hm) htransient, by rw [hselect]⟩
    have hrest : ∀ k, p.DependsOn k n → (p.service k).state.isTransient = false :=
      fun k hk => hrest k ((hdepends k).mp hk)
    have htargets : ∀ m, m ∈ dependents.filter (fun n => (p.service n).state = .enabled) ↔
        p.DependsOn m n ∧ (p.service m).state = .enabled := by
      intro m
      rw [List.mem_filter, hdepends, decide_eq_true_iff]
    rw [hselect]
    dsimp only
    generalize dependents.filter _ = targets at htargets ⊢
    rcases p.verifyNoneInUse_cases targets with ⟨m, hm, hused, hcheck⟩ | ⟨hunused, hcheck⟩
    · obtain ⟨hdep, hstate⟩ := (htargets m).mp hm
      exact .inl ⟨_, .inUse hfind hrest hdep hstate hused, by rw [hcheck]⟩
    refine .inr ⟨?_, ?_⟩
    · rintro ⟨e, hobstructs⟩
      cases hobstructs with
      | unknown hnone => exact absurd (hnone.symm.trans hfind) (by simp)
      | inTransit hn hm htransient =>
        obtain rfl := Option.some.inj (hn.symm.trans hfind)
        exact absurd htransient (by simp [hrest _ hm])
      | inUse hn _ hm hstate hused =>
        obtain rfl := Option.some.inj (hn.symm.trans hfind)
        exact hused (hunused _ ((htargets _).mpr ⟨hm, hstate⟩))
    · obtain ⟨ns, q, hclaims, hlowered, hdistinct, hmem, horder⟩ := lowered_claimTargets h
        (fun m hm => ((htargets m).mp hm).1.2.1)
        fun m hm => by
          obtain ⟨⟨-, hfound, hpath⟩, hstate⟩ := (htargets m).mp hm
          exact clear_of_checked h hrest
            (fun k hk hup => List.mem_map_of_mem ((htargets k).mpr ⟨hk, hup⟩)) hfound
            hpath.to_reflTransGen hstate (hunused m hm)
      rw [hcheck]
      exact ⟨n, ns, q, rfl, hclaims, hlowered, fun m => (hmem m).trans (htargets m), hdistinct,
        horder⟩

end Provider

/-- After every run, a request to take down what depends on a service, during which nobody gets
in, is refused exactly if the service is not registered, or a dependent is in transit, or one that
is up is referred to by a running component; then nothing at all happens. Otherwise exactly the
dependents that are up go down, in one chain of tasks, each after whatever refers to it, and nothing
else happens. -/
theorem Setup.disableReferrers_exact (setup : Setup) (events : List Event) (id : ServiceId) :
    let p := setup.provider.after events
    (∃ e, p.Obstructs id e ∧ p.disableReferrers undisturbed id = (.error e, p)) ∨
    (¬ ∃ e, p.Obstructs id e) ∧ ∃ n ns q, p.registry.find? id = some n ∧
      p.disableReferrers undisturbed id = (.ok (ns.map fun m => (p.service m).id), q) ∧
      p.TakesDown n ns q :=
  Provider.disableReferrers_cases (setup.lawful_after events) id

end ServiceLifecycle

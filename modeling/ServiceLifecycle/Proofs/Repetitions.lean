import ServiceLifecycle.Proofs.Bulk

/-!
# Services that are asked for twice

A request to enable several services may name some of them more than once. It is refused, or not,
as it would be without the repetitions. But as many branches are submitted as services that are
down were named, while the graph shows each service once. So further branches are submitted, those
of services that nobody asked for.

* **repetitions** — what is found out about the services does not depend on them
  (`Provider.refusal?_distinct`, `Provider.branches_distinct`);
* **remarks** — what has been said does not matter to a submission
  (`Provider.foldl_submitNext_withLog`);
* **surplus** — what the further branches come to (`Setup.enableAll_repetitions`).
-/

namespace ServiceLifecycle

/-! ## Repetitions -/

namespace OrderedSet

variable {α β : Type} [DecidableEq α]

/-- A list without repetitions stays as it is. -/
theorem toList_ofList_of_nodup {xs : List α} (h : xs.Nodup) : (ofList xs).toList = xs :=
  Graph.toList_foldl_insert h empty fun _ _ hx => by cases hx

theorem length_ofList_le (xs : List α) : (ofList xs).toList.length ≤ xs.length := by
  induction xs using List.reverseRecOn with
  | nil => exact Nat.le_refl 0
  | append_singleton xs a ih =>
    rw [toList_ofList_concat]
    split <;> simp <;> omega

/-- What is found first is found without the repetitions. -/
theorem findSome?_ofList (f : α → Option β) (xs : List α) :
    (ofList xs).toList.findSome? f = xs.findSome? f := by
  induction xs using List.reverseRecOn with
  | nil => rfl
  | append_singleton xs a ih =>
    rw [toList_ofList_concat, List.findSome?_append]
    split
    · next hin =>
      rw [ih]
      cases hfirst : xs.findSome? f with
      | some b => rfl
      | none => simp [List.findSome?_eq_none_iff.mp hfirst a hin]
    · rw [List.findSome?_append, ih]

theorem find?_ofList (f : α → Bool) (xs : List α) : (ofList xs).toList.find? f = xs.find? f := by
  rw [List.find?_eq_findSome?_guard, List.find?_eq_findSome?_guard, findSome?_ofList]

/-- Where nothing comes of two members, what comes of them is not repeated either. -/
theorem filterMap_ofList [DecidableEq β] {f : α → Option β}
    (hf : ∀ a a' b, f a = some b → f a' = some b → a = a') (xs : List α) :
    (ofList xs).toList.filterMap f = (ofList (xs.filterMap f)).toList := by
  induction xs using List.reverseRecOn with
  | nil => rfl
  | append_singleton xs a ih =>
    rw [toList_ofList_concat, List.filterMap_append]
    cases hb : f a with
    | none =>
      have hnone : [a].filterMap f = [] := by simp [hb]
      rw [hnone, List.append_nil]
      split
      · exact ih
      · rw [List.filterMap_append, hnone, List.append_nil, ih]
    | some b =>
      have hsome : [a].filterMap f = [b] := by simp [hb]
      have hiff : b ∈ xs.filterMap f ↔ a ∈ xs := by
        rw [List.mem_filterMap]
        constructor
        · rintro ⟨a', ha', hb'⟩
          exact hf a' a b hb' hb ▸ ha'
        · intro ha
          exact ⟨a, ha, hb⟩
      rw [hsome, toList_ofList_concat]
      simp only [hiff]
      split
      · exact ih
      · rw [List.filterMap_append, hsome, ih]

end OrderedSet

/-- Repetitions change nothing about whose names the roots are. -/
theorem Registry.roots_ofList (r : Registry) (ns : List Incarnation) :
    r.roots (OrderedSet.ofList ns).toList = r.roots ns := by
  induction ns using List.reverseRecOn with
  | nil => rfl
  | append_singleton ns m ih =>
    rw [OrderedSet.toList_ofList_concat, roots_concat]
    split
    · next hin =>
      have hthere : (r.roots ns).contains (r.service m).id = true :=
        Option.isSome_iff_exists.mpr ((roots_get? r ns).2 m hin)
      rw [ih, if_pos hthere]
    · rw [roots_concat, ih]

namespace Provider

open Relation

variable {p q : Provider} {n m : Incarnation} {ns ms : List Incarnation} {id y : ServiceId}
  {ids willEnable willEnable' : List ServiceId}

/-- A list of names without its repetitions. -/
def distinct (ids : List ServiceId) : List ServiceId := (OrderedSet.ofList ids).toList

theorem bearers_distinct (h : Scene.Named p.scene) (ids : List ServiceId) :
    p.bearers (distinct ids) = (OrderedSet.ofList (p.bearers ids)).toList := by
  refine OrderedSet.filterMap_ofList ?_ ids
  intro x y n hx hy
  exact (h.own x n hx).1.symm.trans (h.own y n hy).1

theorem targets_eq (p : Provider) (ids : List ServiceId) : p.targets ids = ids.filterMap fun id =>
    (p.registry.find? id).filter fun n => (p.service n).state = .disabled :=
  List.filter_filterMap

/-- A target bears the name that it was found under. -/
theorem id_of_target (h : Scene.Named p.scene)
    (hn : ((p.registry.find? id).filter fun n => (p.service n).state = .disabled) = some n) :
    (p.service n).id = id :=
  (h.own id n (Option.eq_some_of_filter_eq_some hn)).1

theorem targets_distinct (h : Scene.Named p.scene) (ids : List ServiceId) :
    p.targets (distinct ids) = (OrderedSet.ofList (p.targets ids)).toList := by
  rw [targets_eq, targets_eq]
  refine OrderedSet.filterMap_ofList ?_ ids
  intro x y n hx hy
  exact (id_of_target h hx).symm.trans (id_of_target h hy)

theorem mem_listed_distinct (h : Scene.Named p.scene) (ids : List ServiceId) (y : ServiceId) :
    y ∈ p.listed (distinct ids) ↔ y ∈ p.listed ids := by
  unfold listed
  simp only [targets_distinct h, List.mem_map, OrderedSet.mem_ofList]

theorem contains_congr (hsame : ∀ y, y ∈ willEnable ↔ y ∈ willEnable') :
    ∀ y, willEnable.contains y = willEnable'.contains y := by
  intro y
  rw [Bool.eq_iff_iff, List.contains_iff_mem, List.contains_iff_mem, hsame]

theorem objection?_congr (hsame : ∀ y, y ∈ willEnable ↔ y ∈ willEnable') (p : Provider) :
    p.objection? willEnable = p.objection? willEnable' := by
  funext n
  unfold objection? referenceObstacle?
  simp only [contains_congr hsame]

/-- What a request is refused for does not depend on repetitions. -/
theorem refusal?_distinct (h : Scene.Named p.scene) (ids : List ServiceId) :
    p.refusal? (distinct ids) = p.refusal? ids := by
  unfold refusal?
  rw [objection?_congr (mem_listed_distinct h ids), bearers_distinct h, targets_distinct h,
    OrderedSet.find?_ofList, OrderedSet.findSome?_ofList, distinct, OrderedSet.find?_ofList]

/-- The branches do not depend on repetitions. -/
theorem branches_distinct (h : Scene.Named p.scene) (ids : List ServiceId) :
    p.branches (distinct ids) = p.branches ids := by
  unfold branches Registry.dependencyGraph
  rw [targets_distinct h, Registry.roots_ofList]

/-! ## Remarks -/

/-- It does not matter in what order, and how often, the services are listed that are about to be
enabled. -/
theorem submitNext_congr (hsame : ∀ y, y ∈ willEnable ↔ y ∈ willEnable') :
    submitNext willEnable = submitNext willEnable' := by
  have hcheck : ∀ (p : Provider) n,
      p.verifyDependenciesUp n willEnable = p.verifyDependenciesUp n willEnable' := by
    intro p n
    unfold verifyDependenciesUp
    simp only [contains_congr hsame]
  have hstep : ∀ (p : Provider) n gate,
      p.submitStep n gate willEnable = p.submitStep n gate willEnable' := by
    intro p n gate
    unfold submitStep
    simp only [hcheck]
  have helement : submitElement willEnable = submitElement willEnable' := by
    funext acc v
    unfold submitElement
    simp only [hstep]
  funext acc branch
  unfold submitNext
  rw [submitBranch_eq, submitBranch_eq, helement]

/-- What has been said does not matter to a claim. -/
theorem claim_withLog (p : Provider) (log : List Remark) (n : Incarnation)
    (source target : ServiceState) (job : Job) (gates : List TaskId)
    (confirm : Provider → Except RequestError Unit × Provider) {check : Except RequestError Unit}
    (hconfirm : ∀ log, confirm (p.withLog log) = (check, p.withLog log)) : ∃ log',
    (p.withLog log).claim n source target job gates confirm =
      ((p.claim n source target job gates confirm).1,
        (p.claim n source target job gates confirm).2.withLog log') := by
  have hservice : (p.withLog log).service n = p.service n := rfl
  have hconfirm' : confirm p = (check, p) := hconfirm p.registry.log
  unfold claim
  dsimp only
  rw [hservice, hconfirm, hconfirm']
  by_cases hremoved : (p.service n).removed = true
  · rw [if_pos hremoved, if_pos hremoved]
    exact ⟨log, rfl⟩
  rw [if_neg hremoved, if_neg hremoved]
  by_cases hstate : (p.service n).state ≠ source
  · rw [if_pos hstate, if_pos hstate]
    exact ⟨log, rfl⟩
  rw [if_neg hstate, if_neg hstate]
  cases check with
  | error e => exact ⟨log, rfl⟩
  | ok => exact ⟨_, rfl⟩

/-- What has been said does not matter to the submission of an element. -/
theorem submitStep_withLog (p : Provider) (log : List Remark) (n : Incarnation)
    (gate : Option TaskId) (willEnable : List ServiceId) : ∃ log',
    (p.withLog log).submitStep n gate willEnable = ((p.submitStep n gate willEnable).1,
      (p.submitStep n gate willEnable).2.1, (p.submitStep n gate willEnable).2.2.withLog log') := by
  have hcheck : ∀ log, ((p.withLog log).verifyDependenciesUp n willEnable, p.withLog log) =
      (p.verifyDependenciesUp n willEnable, p.withLog log) := fun _ => rfl
  obtain ⟨log', hclaim⟩ := p.claim_withLog log n .disabled .enabling (.enable n) gate.toList
    (fun p => (p.verifyDependenciesUp n willEnable, p)) hcheck
  unfold submitStep
  rw [hclaim]
  generalize p.claim n .disabled .enabling (.enable n) gate.toList
    (fun p => (p.verifyDependenciesUp n willEnable, p)) = claimed
  obtain ⟨result, q⟩ := claimed
  cases result with
  | ok i => exact ⟨_, rfl⟩
  | error refusal => cases refusal <;> exact ⟨_, rfl⟩

/-- What goes on one after the other does not depend on what has been said if each part does not. -/
theorem foldl_withLog {σ α : Type} {f : σ × Provider → α → σ × Provider}
    (hf : ∀ (acc : σ × Provider) log a, ∃ log',
      f (acc.1, acc.2.withLog log) a = ((f acc a).1, (f acc a).2.withLog log'))
    (as : List α) : ∀ (acc : σ × Provider) log, ∃ log',
      as.foldl f (acc.1, acc.2.withLog log) =
        ((as.foldl f acc).1, (as.foldl f acc).2.withLog log') := by
  induction as with
  | nil => exact fun acc log => ⟨log, rfl⟩
  | cons a as ih =>
    intro acc log
    obtain ⟨log', hfirst⟩ := hf acc log a
    obtain ⟨log'', hrest⟩ := ih (f acc a) log'
    refine ⟨log'', ?_⟩
    rw [List.foldl_cons, hfirst, hrest]
    rfl

/-- What has been said does not matter to the submission of several branches. -/
theorem foldl_submitNext_withLog (willEnable : List ServiceId)
    (branches : List (List (Graph.Vertex Incarnation))) (acc : OrderedSet ServiceId × Provider)
    (log : List Remark) : ∃ log',
    branches.foldl (submitNext willEnable) (acc.1, acc.2.withLog log) =
      ((branches.foldl (submitNext willEnable) acc).1,
        (branches.foldl (submitNext willEnable) acc).2.withLog log') := by
  have helement : ∀ (acc : Submission × Provider) log v, ∃ log',
      submitElement willEnable (acc.1, acc.2.withLog log) v =
        ((submitElement willEnable acc v).1, (submitElement willEnable acc v).2.withLog log') := by
    intro acc log v
    obtain ⟨log', hstep⟩ := acc.2.submitStep_withLog log v.item (acc.1.last.map Prod.fst) willEnable
    refine ⟨log', ?_⟩
    unfold submitElement
    dsimp only
    rw [hstep]
  refine foldl_withLog ?_ branches acc log
  intro acc log branch
  obtain ⟨log', hbranch⟩ := foldl_withLog helement branch ({ initiated := acc.1 }, acc.2) log
  refine ⟨log', ?_⟩
  unfold submitNext
  rw [submitBranch_eq, hbranch]
  rfl

/-! ## Surplus -/

/-- References between services can be followed in a graph. -/
theorem Spans.follow {nodes : Table ServiceId (Graph.Vertex Incarnation)} {S : Scene}
    {targets : List Incarnation} (h : Spans nodes S targets) {u : Graph.Vertex Incarnation}
    (hu : nodes.get? u.id = some u) (hpath : ReflTransGen S.Refers u.item m) :
    ∃ w, Graph.Reaches nodes.get? u w ∧ w.item = m := by
  induction hpath with
  | refl => exact ⟨u, .refl, rfl⟩
  | tail _ hrefers ih =>
    obtain ⟨w, hw, rfl⟩ := ih
    obtain ⟨v, hv, hitem⟩ := h.complete w (Graph.stored_of_reaches hu hw) _ hrefers
    exact ⟨v, hw.tail hv, hitem⟩

/-- The branches of the targets show all that there is to be seen. -/
theorem mem_flatten_take (h : Scene.Named p.scene) {k : Nat}
    (hk : (p.registry.roots (p.targets ids)).values.length ≤ k) {v : Graph.Vertex Incarnation}
    (hv : v ∈ (p.branches ids).flatten) : v ∈ ((p.branches ids).take k).flatten := by
  have hspans := spans_targets h ids
  obtain ⟨branch, hbranch, hv⟩ := List.mem_flatten.mp hv
  obtain ⟨target, htarget, rfl⟩ := stored_of_branch h hbranch
  have hstored := hspans.stored htarget hv
  obtain ⟨n, hn, hpath⟩ := hspans.needed _ v hstored
  have hroot : (p.registry.dependencyGraph (p.targets ids)).get? (p.registry.vertex n).id =
      some (p.registry.vertex n) :=
    Registry.dependencyGraph_given (fun m hm => ((mem_targets h).mp hm).1) hn
  obtain ⟨w, hw, hitem⟩ := Spans.follow hspans hroot hpath
  -- what stands for one service is one
  have hstored' := Graph.stored_of_reaches hroot hw
  have hid : w.id = v.id := by
    rw [← (h.own _ _ (hspans.registered _ w hstored')).1, hitem,
      (h.own _ _ (hspans.registered _ v hstored)).1]
  obtain rfl := Graph.eq_of_find hstored' hstored hid
  exact List.mem_flatten.mpr
    ⟨_, branch_mem_take h hn hk, (Graph.mem_enablingBranch hspans.own hroot).mpr hw⟩

/-- The branches that are submitted only because some services were named more than once. -/
def surplus (p : Provider) (ids : List ServiceId) : List (List (Graph.Vertex Incarnation)) :=
  ((p.branches ids).drop (p.targets (distinct ids)).length).take
    ((p.targets ids).length - (p.targets (distinct ids)).length)

theorem take_targets (h : Scene.Named p.scene) (ids : List ServiceId) :
    (p.branches ids).take (p.targets ids).length =
      (p.branches ids).take (p.targets (distinct ids)).length ++ p.surplus ids := by
  have hle : (p.targets (distinct ids)).length ≤ (p.targets ids).length := by
    rw [targets_distinct h]
    exact OrderedSet.length_ofList_le _
  unfold surplus
  rw [← List.take_add, Nat.add_sub_cancel' hle]

theorem nodup_targets (h : Scene.Named p.scene)
    (honce : ∀ id, p.registry.stateOf? id = some .disabled → ids.count id ≤ 1) :
    (p.targets ids).Nodup := by
  let target := fun id => (p.registry.find? id).filter fun n => (p.service n).state = .disabled
  -- whatever is named more than once is no target
  have hnodup : (ids.filter fun id => (target id).isSome).Nodup := by
    rw [List.nodup_iff_count_le_one]
    intro id
    by_cases hsome : (target id).isSome = true
    · obtain ⟨n, hn⟩ := Option.isSome_iff_exists.mp hsome
      obtain ⟨hfind, hdown⟩ := Option.filter_eq_some_iff.mp hn
      have hstate : p.registry.stateOf? id = some .disabled := by
        rw [stateOf?_eq hfind, of_decide_eq_true hdown]
      exact Nat.le_trans (List.filter_sublist.count_le id) (honce id hstate)
    · have hout : id ∉ ids.filter fun id => (target id).isSome := by
        intro hin
        exact hsome (List.mem_filter.mp hin).2
      rw [List.count_eq_zero.mpr hout]
      exact Nat.zero_le 1
  have hsame : p.targets ids = (ids.filter fun id => (target id).isSome).filterMap target := by
    rw [targets_eq, List.filterMap_filter]
    refine List.filterMap_congr fun id _ => ?_
    show target id = _
    cases target id <;> rfl
  rw [hsame]
  refine hnodup.filterMap fun x y n hx hy => ?_
  exact (id_of_target h hx).symm.trans (id_of_target h hy)

/-- There are none if each service that is down was named at most once. -/
theorem surplus_eq_nil (h : Scene.Named p.scene)
    (honce : ∀ id, p.registry.stateOf? id = some .disabled → ids.count id ≤ 1) :
    p.surplus ids = [] := by
  unfold surplus
  rw [targets_distinct h, OrderedSet.toList_ofList_of_nodup (nodup_targets h honce), Nat.sub_self,
    List.take_zero]

/-- What comes of naming services more than once: with `q` after the request that names each once,
and `r` after the one that does not, the services `extra` have come on their way up as well. -/
structure Exceeds (p : Provider) (ids : List ServiceId) (extra : List Incarnation)
    (q r : Provider) : Prop extends q.Lifted extra r where
  /-- Each element of a further branch has a task. -/
  surplus : r.tasks.tasks.size = q.tasks.tasks.size + (p.surplus ids).flatten.length
  /-- Unless references lead in circles, all these tasks only confirm something. -/
  acyclic : p.Acyclic → extra = []
  /-- There are none of them if no service that is down was named more than once. -/
  once : (∀ id, p.registry.stateOf? id = some .disabled → ids.count id ≤ 1) →
    extra = [] ∧ ∃ log, r = q.withLog log

/-- The further branches are submitted. -/
theorem exceeds_of_progress (h : Scene.Named p.scene)
    (hmay : ∀ n ∈ p.targets ids, p.MayRise ids n) {initiated : OrderedSet ServiceId}
    (hprogress : p.Progress (p.listed ids) []
      ((p.branches ids).take (p.targets (distinct ids)).length).flatten ms ({ initiated }, q))
    (hq : Scene.Named q.scene) (log : List Remark) :
    let raised := (p.surplus ids).foldl (submitNext (p.listed ids)) (initiated, q.withLog log)
    ∃ extra, raised.1.toList = initiated.toList ++ (extra.map fun m => (p.service m).id) ∧
      p.Exceeds ids extra q raised.2 := by
  have hlifted := hprogress.lifted
  have hup : ∀ id ∈ initiated.toList, q.registry.stateOf? id ≠ some .disabled := by
    intro id hin
    rw [hprogress.initiated, List.nil_append] at hin
    obtain ⟨m, hm, rfl⟩ := List.mem_map.mp hin
    have hfind : q.registry.find? (p.service m).id = some m := by
      rw [hlifted.find?]
      exact hlifted.registered m hm
    rw [stateOf?_eq hfind, hlifted.state_eq, if_pos hm]
    simp
  have hfurther : ∀ branch ∈ p.surplus ids, branch ∈ p.branches ids := fun branch hbranch =>
    List.mem_of_mem_drop (List.mem_of_mem_take hbranch)
  obtain ⟨extra, hextra⟩ := progress_submitBranches hq
    (hlifted.permits (permits_listed h hmay))
    (fun branch hbranch front v back hsplit =>
      hlifted.ready (ready_of_branches h branch (hfurther branch hbranch) front v back hsplit))
    initiated hup log
  refine ⟨extra, ?_, hextra.lifted, hextra.counted, ?_, ?_⟩
  · rw [hextra.initiated]
    simp only [hlifted.id_eq]
  · intro hacyclic
    refine hextra.idle fun v hv => hprogress.settled hacyclic v (mem_flatten_take h ?_ ?_)
    · rw [← Registry.roots_ofList, ← targets_distinct h]
      exact Registry.length_values_roots _ _
    · obtain ⟨branch, hbranch, hv⟩ := List.mem_flatten.mp hv
      exact List.mem_flatten.mpr ⟨branch, hfurther branch hbranch, hv⟩
  · intro honce
    have hnil := surplus_eq_nil h honce
    refine ⟨List.eq_nil_iff_forall_not_mem.mpr fun n hn => ?_, log, by rw [hnil]; rfl⟩
    obtain ⟨v, hv, -⟩ := hextra.within n hn
    rw [hnil] at hv
    cases hv

theorem enableAll_repeated (h : Scene.Named p.scene)
    (hafter : Scene.Named (p.enableAll undisturbed (distinct ids)).2.scene) :
    (∃ e log log', p.enableAll undisturbed ids = (.error e, p.withLog log) ∧
      p.enableAll undisturbed (distinct ids) = (.error e, p.withLog log')) ∨
    ∃ names extra q r, p.enableAll undisturbed (distinct ids) = (.ok names, q) ∧
      p.enableAll undisturbed ids = (.ok (names ++ extra.map fun m => (p.service m).id), r) ∧
      p.Exceeds ids extra q r := by
  obtain ⟨log, hall⟩ := p.enableAll_eq ids
  obtain ⟨log', honce⟩ := p.enableAll_eq (distinct ids)
  rw [refusal?_distinct h] at honce
  rcases refusal?_cases h ids with ⟨e, -, hsome⟩ | ⟨-, hmay, hnone⟩
  · rw [hsome] at hall honce
    exact .inl ⟨e, log, log', hall, honce⟩
  rw [hnone] at hall honce
  dsimp only at hall honce
  rw [take_targets h, submitBranches_eq, List.foldl_append] at hall
  rw [branches_distinct h, submitBranches_eq, submitNext_congr (mem_listed_distinct h ids)] at honce
  -- what comes first is the request that names each service once, but for what has been said
  obtain ⟨ms, hprogress⟩ := progress_branches h hmay (p.targets (distinct ids)).length log'
  obtain ⟨log'', hfirst⟩ := foldl_submitNext_withLog (p.listed ids)
    ((p.branches ids).take (p.targets (distinct ids)).length) (.empty, p.withLog log') log
  have hstart : ((.empty : OrderedSet ServiceId), p.withLog log) =
      (.empty, (p.withLog log').withLog log) := rfl
  rw [hstart, hfirst] at hall
  rw [honce] at hafter
  obtain ⟨extra, hnames, hexceeds⟩ := exceeds_of_progress h hmay hprogress hafter log''
  refine .inr ⟨_, extra, _, _, honce, ?_, hexceeds⟩
  rw [hall, hnames]

end Provider

/-- After every run, a request to enable several services, some of which may be named more than
once, is refused exactly as the request that names each once, and then nothing happens. Otherwise
it comes to the same, and further branches are submitted on top. If references never lead in
circles, these only confirm what is there already. There are none if no service that is down is
named more than once, and then all is the same. -/
theorem Setup.enableAll_repetitions (setup : Setup) (events : List Event) (ids : List ServiceId) :
    let p := setup.provider.after events
    let distinct := (OrderedSet.ofList ids).toList
    (∃ e log log', p.enableAll undisturbed ids = (.error e, p.withLog log) ∧
      p.enableAll undisturbed distinct = (.error e, p.withLog log')) ∨
    ∃ names extra q r, p.enableAll undisturbed distinct = (.ok names, q) ∧
      p.enableAll undisturbed ids = (.ok (names ++ extra.map fun m => (p.service m).id), r) ∧
      p.Exceeds ids extra q r := by
  intro p distinct
  refine Provider.enableAll_repeated (setup.lawful_after events).orderly.named ?_
  have hafter := (setup.lawful_after (events ++ [.request (.enableAll distinct)])).orderly.named
  rw [Provider.after_append] at hafter
  exact hafter

/-- A service that refers to one that is up is named twice, and it is confirmed twice that the other
one is up. -/
theorem Setup.confirmed_twice :
    let p := plain.provider.after suppliedRun
    let ids : List ServiceId := [⟨"a"⟩, ⟨"a"⟩]
    let names := fun q : Provider => q.tasks.tasks.toList.map Task.name
    (OrderedSet.ofList ids).toList = [⟨"a"⟩] ∧
      names (p.enableAll undisturbed [⟨"a"⟩]).2 =
        ["enable b", "confirm enabled b", "enable a"] ∧
      names (p.enableAll undisturbed ids).2 =
        ["enable b", "confirm enabled b", "enable a", "confirm enabled b"] := by
  decide +kernel

end ServiceLifecycle

import ServiceLifecycle.Proofs.Raising
import ServiceLifecycle.Proofs.Takedown

/-!
# Enabling several services

Several services that are enabled at once may count on each other. Whether they are is decided
before anything happens: once nothing has been found to stand in the way of any of them, all of
those that are down come on their way up, and so does whatever else they need and can be claimed.

* **refusal** — what a request is refused for, looked up in the order in which it is checked
  (`Provider.refusal?`, `Provider.enableAll_eq`);
* **hindrance** — exactly when it is refused (`Provider.refusal?_cases`);
* **launch** — what comes of it otherwise (`Provider.Launches`, `Setup.enableAll_exact`).
-/

namespace ServiceLifecycle

open Relation

namespace Provider

variable {p q : Provider} {n m : Incarnation} {ns ms : List Incarnation} {id y : ServiceId}
  {ids willEnable : List ServiceId} {e : RequestError}

/-! ## Refusal -/

/-- The services registered under some names. -/
def bearers (p : Provider) (ids : List ServiceId) : List Incarnation :=
  ids.filterMap p.registry.find?

/-- Those of them that are down. -/
def targets (p : Provider) (ids : List ServiceId) : List Incarnation :=
  (p.bearers ids).filter fun n => (p.service n).state = .disabled

/-- The names of those. -/
def listed (p : Provider) (ids : List ServiceId) : List ServiceId :=
  (p.targets ids).map fun n => (p.service n).id

/-- What a request to enable several services is refused for. -/
def refusal? (p : Provider) (ids : List ServiceId) : Option RequestError :=
  ((ids.find? fun id => (p.registry.find? id).isNone).map .notFound).or
    ((((p.bearers ids).find? fun n => (p.service n).state = .disabling).map fun n =>
        .invalidState (p.service n).id "cannot enable a service that is DISABLING").or
      ((p.targets ids).findSome? (p.objection? (p.listed ids))))

/-- The branches of all that some services need, theirs first. -/
def branches (p : Provider) (ids : List ServiceId) : List (List (Graph.Vertex Incarnation)) :=
  Graph.enablingOrder (p.registry.dependencyGraph (p.targets ids))

theorem resolve_eq (p : Provider) (ids : List ServiceId) :
    p.resolve ids = match ids.find? fun id => (p.registry.find? id).isNone with
      | some id => .error (.notFound id)
      | none => .ok (p.bearers ids) := by
  induction ids with
  | nil => rfl
  | cons id ids ih =>
    unfold resolve bearers
    rw [List.find?_cons, List.filterMap_cons, ih]
    cases p.registry.find? id with
    | none => rfl
    | some n =>
      cases ids.find? fun id => (p.registry.find? id).isNone with
      | none => rfl
      | some id => rfl

theorem selectTargets_eq (p : Provider) (ns : List Incarnation) : ∀ log, ∃ log',
    (p.withLog log).selectTargets ns =
      (match ns.find? fun n => (p.service n).state = .disabling with
        | some n => .error (.invalidState (p.service n).id
            "cannot enable a service that is DISABLING")
        | none => .ok (ns.filter fun n => (p.service n).state = .disabled), p.withLog log') := by
  induction ns with
  | nil => exact fun log => ⟨log, rfl⟩
  | cons n ns ih =>
    intro log
    have hservice : (p.withLog log).service n = p.service n := rfl
    unfold selectTargets
    rw [List.find?_cons, List.filter_cons]
    dsimp only
    rw [hservice]
    split
    · next hstate =>
      obtain ⟨log', hrest⟩ := ih log
      refine ⟨log', ?_⟩
      rw [hrest, hstate]
      cases ns.find? fun n => decide ((p.service n).state = .disabling) with
      | none => rfl
      | some m => rfl
    · next hstate =>
      rw [hstate]
      exact ih _
    · next hstate =>
      rw [hstate]
      exact ih _
    · next hstate =>
      rw [hstate]
      exact ⟨log, rfl⟩

theorem verifyAll_eq (p : Provider) (log : List Remark) (willEnable : List ServiceId)
    (ns : List Incarnation) :
    verifyAll undisturbed willEnable ns (p.withLog log) =
      (match ns.findSome? (p.objection? willEnable) with
        | some e => .error e
        | none => .ok (), p.withLog log) := by
  induction ns with
  | nil => rfl
  | cons n ns ih =>
    unfold verifyAll
    rw [verifyCanEnable_eq, List.findSome?_cons]
    cases p.objection? willEnable n with
    | none => exact ih
    | some e => rfl

theorem foldl_sayNotes_eq (walks : List (Graph.Walk Incarnation)) (p : Provider) :
    ∃ log, walks.foldl sayNotes p = p.withLog log := by
  induction walks generalizing p with
  | nil => exact ⟨p.registry.log, rfl⟩
  | cons walk walks ih =>
    obtain ⟨log, hwalk⟩ := p.sayNotes_eq walk
    obtain ⟨log', hrest⟩ := ih (p.withLog log)
    exact ⟨log', by rw [List.foldl_cons, hwalk, hrest]; rfl⟩

/-- Once a check has failed, that is all. -/
theorem enableServices_refused {targets : List Incarnation} {e : RequestError} {r : Provider}
    (hselect : p.selectTargets ns = (.ok targets, q))
    (hverify : verifyAll undisturbed (targets.map fun n => (q.service n).id) targets q =
      (.error e, r)) : p.enableServices undisturbed ns = (.error e, r) := by
  unfold enableServices
  rw [hselect]
  dsimp only
  rw [hverify]

/-- Once all checks have passed, as many branches are submitted as there are targets. -/
theorem enableServices_raised {targets : List Incarnation} {r : Provider}
    (hselect : p.selectTargets ns = (.ok targets, q))
    (hverify : verifyAll undisturbed (targets.map fun n => (q.service n).id) targets q =
      (.ok (), q))
    (hnotes : (Graph.walks (q.registry.dependencyGraph targets)).foldl sayNotes q = r) :
    let raised := submitBranches
      ((Graph.enablingOrder (q.registry.dependencyGraph targets)).take targets.length)
      (targets.map fun n => (q.service n).id) r
    p.enableServices undisturbed ns = (.ok raised.1.toList, raised.2) := by
  unfold enableServices
  rw [hselect]
  dsimp only
  rw [hverify]
  dsimp only
  rw [hnotes]
  rfl

/-- A request to enable several services is refused, or as many branches are submitted as there are
targets. -/
theorem enableAll_eq (p : Provider) (ids : List ServiceId) : ∃ log,
    p.enableAll undisturbed ids = match p.refusal? ids with
      | some e => (.error e, p.withLog log)
      | none =>
        let raised := submitBranches ((p.branches ids).take (p.targets ids).length) (p.listed ids)
          (p.withLog log)
        (.ok raised.1.toList, raised.2) := by
  unfold enableAll refusal?
  rw [resolve_eq]
  cases ids.find? fun id => (p.registry.find? id).isNone with
  | some id => exact ⟨p.registry.log, rfl⟩
  | none =>
    obtain ⟨log, hselect⟩ := p.selectTargets_eq (p.bearers ids) p.registry.log
    have hselect : p.selectTargets (p.bearers ids) = _ := hselect
    simp only [Option.map_none, Option.none_or]
    cases hleaving : (p.bearers ids).find? fun n => decide ((p.service n).state = .disabling) with
    | some n =>
      rw [hleaving] at hselect
      refine ⟨log, ?_⟩
      unfold enableServices
      rw [hselect]
      rfl
    | none =>
      rw [hleaving] at hselect
      have hselect : p.selectTargets (p.bearers ids) = (.ok (p.targets ids), p.withLog log) :=
        hselect
      have hverify := p.verifyAll_eq log (p.listed ids) (p.targets ids)
      simp only [Option.map_none, Option.none_or]
      cases hobjection : (p.targets ids).findSome? (p.objection? (p.listed ids)) with
      | some e =>
        rw [hobjection] at hverify
        have hrefused := enableServices_refused hselect hverify
        exact ⟨log, hrefused⟩
      | none =>
        rw [hobjection] at hverify
        obtain ⟨log', hnotes⟩ := foldl_sayNotes_eq
          (Graph.walks (p.registry.dependencyGraph (p.targets ids))) (p.withLog log)
        have hraised := enableServices_raised hselect hverify hnotes
        exact ⟨log', hraised⟩

/-! ## Hindrance -/

theorem mem_targets (h : Scene.Named p.scene) : n ∈ p.targets ids ↔
    p.registry.find? (p.service n).id = some n ∧ (p.service n).id ∈ ids ∧
      (p.service n).state = .disabled := by
  unfold targets bearers
  rw [List.mem_filter, List.mem_filterMap, decide_eq_true_iff]
  constructor
  · rintro ⟨⟨id, hid, hn⟩, hdown⟩
    obtain rfl : (p.service n).id = id := (h.own id n hn).1
    exact ⟨hn, hid, hdown⟩
  · rintro ⟨hn, hid, hdown⟩
    exact ⟨⟨_, hid, hn⟩, hdown⟩

theorem enlists_listed (h : Scene.Named p.scene) (ids : List ServiceId) :
    p.Enlists ids (p.listed ids) := by
  intro y
  unfold listed
  rw [List.mem_map]
  constructor
  · rintro ⟨n, hn, rfl⟩
    obtain ⟨hfind, hin, hdown⟩ := (mem_targets h).mp hn
    exact ⟨hdown ▸ stateOf?_eq hfind, hin⟩
  · rintro ⟨hstate, hin⟩
    cases hfind : p.registry.find? y with
    | none => simp [Registry.stateOf?, Registry.lookup?, hfind] at hstate
    | some n =>
      obtain rfl : (p.service n).id = y := (h.own y n hfind).1
      rw [stateOf?_eq hfind] at hstate
      exact ⟨n, (mem_targets h).mpr ⟨hfind, hin, Option.some.inj hstate⟩, rfl⟩

/-- What stands in the way of a request to enable the services `ids`: one of them is unknown, or is
on its way down, or it is down and something stands in its way. -/
inductive Hinders (p : Provider) (ids : List ServiceId) : RequestError → Prop
  | unknown {id : ServiceId} : id ∈ ids → p.registry.find? id = none → p.Hinders ids (.notFound id)
  | leaving {id : ServiceId} {n : Incarnation} : id ∈ ids → p.registry.find? id = some n →
      (p.service n).state = .disabling →
      p.Hinders ids (.invalidState id "cannot enable a service that is DISABLING")
  | barred {id : ServiceId} {n : Incarnation} {e : RequestError} : id ∈ ids →
      p.registry.find? id = some n → (p.service n).state = .disabled → p.Bars ids n e →
      p.Hinders ids e

/-- A request is refused because something stands in its way, or nothing does. -/
theorem refusal?_cases (h : Scene.Named p.scene) (ids : List ServiceId) :
    (∃ e, p.Hinders ids e ∧ p.refusal? ids = some e) ∨
      (¬ ∃ e, p.Hinders ids e) ∧ (∀ n ∈ p.targets ids, p.MayRise ids n) ∧
        p.refusal? ids = none := by
  have hwill := enlists_listed h ids
  unfold refusal?
  cases hunknown : ids.find? fun id => (p.registry.find? id).isNone with
  | some id =>
    refine .inl ⟨_, .unknown (List.mem_of_find?_eq_some hunknown) ?_, rfl⟩
    simpa using List.find?_some hunknown
  | none =>
    cases hleaving : (p.bearers ids).find? fun n => decide ((p.service n).state = .disabling) with
    | some n =>
      obtain ⟨id, hid, hn⟩ := List.mem_filterMap.mp (List.mem_of_find?_eq_some hleaving)
      obtain rfl : (p.service n).id = id := (h.own id n hn).1
      have hstate := List.find?_some hleaving
      exact .inl ⟨_, .leaving hid hn (of_decide_eq_true hstate), rfl⟩
    | none =>
      cases hobjection : (p.targets ids).findSome? (p.objection? (p.listed ids)) with
      | some e =>
        obtain ⟨n, hn, hsome⟩ := List.exists_of_findSome?_eq_some hobjection
        obtain ⟨hfind, hid, hdown⟩ := (mem_targets h).mp hn
        rcases objection?_cases hwill n with ⟨e', hbars, hsome'⟩ | ⟨-, hnone⟩
        · obtain rfl := Option.some.inj (hsome.symm.trans hsome')
          exact .inl ⟨e, .barred hid hfind hdown hbars, rfl⟩
        · exact absurd (hsome.symm.trans hnone) (by simp)
      | none =>
        have hmay : ∀ n ∈ p.targets ids, p.MayRise ids n := by
          intro n hn
          rcases objection?_cases hwill n with ⟨e, -, hsome⟩ | ⟨hmay, -⟩
          · have hnone := List.findSome?_eq_none_iff.mp hobjection n hn
            exact absurd (hsome.symm.trans hnone) (by simp)
          · exact hmay
        refine .inr ⟨?_, hmay, rfl⟩
        rintro ⟨e, hhinders⟩
        cases hhinders with
        | unknown hid hnone =>
          exact absurd (List.find?_eq_none.mp hunknown _ hid) (by simp [hnone])
        | leaving hid hn hstate =>
          have hin := List.mem_filterMap.mpr ⟨_, hid, hn⟩
          exact absurd (List.find?_eq_none.mp hleaving _ hin) (by simp [hstate])
        | barred hid hn hdown hbars =>
          obtain rfl := (h.own _ _ hn).1
          exact hbars.not_mayRise (hmay _ ((mem_targets h).mpr ⟨hn, hid, hdown⟩))

/-! ## Launch -/

/-- What comes of a request to enable the services `ids` that is not refused: the services `ms` are
on their way up, and apart from that nothing has happened. -/
structure Launches (p : Provider) (ids : List ServiceId) (ms : List Incarnation) (q : Provider) :
    Prop extends p.Lifted ms q where
  named_once : (ms.map fun m => (p.service m).id).Nodup
  moved : ∀ m, m ∈ ms ↔ (p.service m).state = .disabled ∧ (q.service m).state = .enabling
  /-- All that was asked for and was down is among them, -/
  asked : ∀ id ∈ ids, ∀ n, p.registry.find? id = some n → (p.service n).state = .disabled → n ∈ ms
  /-- and apart from that only what it needs. -/
  needed : ∀ m ∈ ms, (p.service m).state = .disabled ∧ ((p.service m).id ∈ ids ∨
    ∃ id ∈ ids, ∃ n, p.registry.find? id = some n ∧ (p.service n).state = .disabled ∧
      TransGen p.Refers n m)
  sorted : p.Acyclic → ∀ front m back, ms = front ++ m :: back → ∀ k ∈ ms, p.Refers m k → k ∈ front
  properties_eq : ∀ m, (q.service m).properties = (p.service m).properties
  verdict_eq : ∀ m, (q.service m).verdict = (p.service m).verdict
  referrers_eq : q.registry.referrers = p.registry.referrers

theorem spans_targets (h : Scene.Named p.scene) (ids : List ServiceId) :
    Spans (p.registry.dependencyGraph (p.targets ids)) p.scene (p.targets ids) :=
  spans_dependencyGraph h fun _ hm => ((mem_targets h).mp hm).1

/-- The branches are those of what stands in the graph. -/
theorem stored_of_branch (h : Scene.Named p.scene) {branch : List (Graph.Vertex Incarnation)}
    (hbranch : branch ∈ p.branches ids) :
    ∃ target, (p.registry.dependencyGraph (p.targets ids)).get? target.id = some target ∧
      branch = Graph.enablingBranch (p.registry.dependencyGraph (p.targets ids)) target := by
  unfold branches at hbranch
  rw [Graph.enablingOrder_eq] at hbranch
  obtain ⟨target, hmem, rfl⟩ := List.mem_map.mp hbranch
  exact ⟨target, (Graph.mem_values_iff_stored (spans_targets h ids).own).mp hmem, rfl⟩

/-- The elements of each branch can be submitted one after the other. -/
theorem ready_of_branches (h : Scene.Named p.scene) :
    ∀ branch ∈ p.branches ids, ∀ front v back, branch = front ++ v :: back → p.Ready front v := by
  intro branch hbranch
  obtain ⟨target, htarget, rfl⟩ := stored_of_branch h hbranch
  exact ready_of_branch h (spans_targets h ids) htarget

/-- Each target has a branch of its own, and it is among the first. -/
theorem branch_mem_take (h : Scene.Named p.scene) {k : Nat} (hn : n ∈ p.targets ids)
    (hk : (p.registry.roots (p.targets ids)).values.length ≤ k) :
    Graph.enablingBranch (p.registry.dependencyGraph (p.targets ids)) (p.registry.vertex n) ∈
      (p.branches ids).take k := by
  have hregistered : ∀ m ∈ p.targets ids, p.registry.find? (p.service m).id = some m :=
    fun m hm => ((mem_targets h).mp hm).1
  obtain ⟨rest, hrest⟩ := p.registry.values_dependencyGraph hregistered
  have hroot : p.registry.vertex n ∈
      (p.registry.roots (p.targets ids)).values.map p.registry.vertex :=
    List.mem_map_of_mem ((p.registry.mem_values_roots hregistered).mpr hn)
  unfold branches
  rw [Graph.enablingOrder_eq, ← List.map_take, ← hrest, List.take_append]
  refine List.mem_map_of_mem (List.mem_append_left _ ?_)
  rwa [List.take_of_length_le (by simpa using hk)]

/-- What is about to be enabled may be claimed, once nothing stands in its way. -/
theorem permits_listed (h : Scene.Named p.scene) (hmay : ∀ n ∈ p.targets ids, p.MayRise ids n) :
    p.Permits (p.listed ids) := by
  intro m hm hdown hin
  have hid : (p.service m).id ∈ ids := (((enlists_listed h ids) _).mp hin).2
  exact (hmay m ((mem_targets h).mpr ⟨hm, hid, hdown⟩)).allows (enlists_listed h ids) (h.coherent m)

/-- How far a request has got once some of the branches have been submitted. -/
theorem progress_branches (h : Scene.Named p.scene) (hmay : ∀ n ∈ p.targets ids, p.MayRise ids n)
    (k : Nat) (log : List Remark) :
    let raised := ((p.branches ids).take k).foldl (submitNext (p.listed ids))
      (.empty, p.withLog log)
    ∃ ms, p.Progress (p.listed ids) [] ((p.branches ids).take k).flatten ms
      ({ initiated := raised.1 }, raised.2) :=
  progress_submitBranches h (permits_listed h hmay)
    (fun branch hbranch => ready_of_branches h branch (List.mem_of_mem_take hbranch)) .empty
    (fun _ hin => by cases hin) log

theorem launches_of_progress (h : Scene.Named p.scene)
    (hmay : ∀ n ∈ p.targets ids, p.MayRise ids n) {k : Nat}
    (hk : (p.registry.roots (p.targets ids)).values.length ≤ k) {acc : Submission × Provider}
    (hprogress : p.Progress (p.listed ids) [] ((p.branches ids).take k).flatten ms acc) :
    p.Launches ids ms acc.2 := by
  have hspans := spans_targets h ids
  have hlifted := hprogress.lifted
  exact {
    toLifted := hlifted
    named_once := by
      have hnodup := acc.1.initiated.nodup
      rw [hprogress.initiated] at hnodup
      exact hnodup
    moved m := by
      rw [hlifted.state_eq]
      constructor
      · intro hm
        exact ⟨hlifted.down m hm, if_pos hm⟩
      · rintro ⟨hdown, hup⟩
        split at hup
        · assumption
        · exact absurd (hdown.symm.trans hup) (by simp)
    asked id hid n hn hdown := by
      obtain rfl : (p.service n).id = id := (h.own id n hn).1
      have htarget : n ∈ p.targets ids := (mem_targets h).mpr ⟨hn, hid, hdown⟩
      have hstored : (p.registry.dependencyGraph (p.targets ids)).get? (p.registry.vertex n).id =
          some (p.registry.vertex n) :=
        Registry.dependencyGraph_given (fun m hm => ((mem_targets h).mp hm).1) htarget
      have hdone : p.registry.vertex n ∈ ((p.branches ids).take k).flatten :=
        List.mem_flatten.mpr ⟨_, branch_mem_take h htarget hk,
          (Graph.mem_enablingBranch hspans.own hstored).mpr .refl⟩
      exact hprogress.met (p.registry.vertex n) hdone hdown
        ((hmay n htarget).allows (enlists_listed h ids) (h.coherent n))
    needed m hm := by
      refine ⟨hlifted.down m hm, ?_⟩
      obtain ⟨v, hv, rfl⟩ := hprogress.within m hm
      obtain ⟨branch, hbranch, hv⟩ := List.mem_flatten.mp hv
      obtain ⟨target, htarget, rfl⟩ := stored_of_branch h (List.mem_of_mem_take hbranch)
      obtain ⟨n, hn, hpath⟩ := hspans.needed _ v (hspans.stored htarget hv)
      obtain ⟨hfind, hid, hdown⟩ := (mem_targets h).mp hn
      rcases reflTransGen_iff_eq_or_transGen.mp hpath with heq | hpath
      · exact .inl (heq ▸ hid)
      · exact .inr ⟨_, hid, n, hfind, hdown, hpath⟩
    sorted hacyclic front m back hsplit k hk hrefers := by
      refine (hprogress.ordered hacyclic front m back hsplit k hrefers).resolve_right ?_
      rw [hlifted.down k hk]
      simp [ServiceState.isActive]
    properties_eq := hlifted.properties_eq
    verdict_eq := hlifted.verdict_eq
    referrers_eq := hlifted.referrers }

/-- The targets are enough branches for themselves. -/
theorem length_roots_le (p : Provider) (ids : List ServiceId) :
    (p.registry.roots (p.targets ids)).values.length ≤ (p.targets ids).length :=
  p.registry.length_values_roots _

/-- A request to enable the services `ids` comes to this: something stands in its way, and then
nothing happens, or nothing does, and the services are launched. -/
def Launching (p : Provider) (ids : List ServiceId)
    (result : Except RequestError (List ServiceId) × Provider) : Prop :=
  (∃ e log, p.Hinders ids e ∧ result = (.error e, p.withLog log)) ∨
  (¬ ∃ e, p.Hinders ids e) ∧ ∃ ms q, result = (.ok (ms.map fun m => (p.service m).id), q) ∧
    p.Launches ids ms q

theorem launching_enableAll (h : Scene.Named p.scene) (ids : List ServiceId) :
    p.Launching ids (p.enableAll undisturbed ids) := by
  obtain ⟨log, hall⟩ := p.enableAll_eq ids
  rcases refusal?_cases h ids with ⟨e, hhinders, hsome⟩ | ⟨hfree, hmay, hnone⟩
  · rw [hsome] at hall
    exact .inl ⟨e, log, hhinders, hall⟩
  · rw [hnone] at hall
    obtain ⟨ms, hprogress⟩ := progress_branches h hmay (p.targets ids).length log
    refine .inr ⟨hfree, ms, _, ?_, launches_of_progress h hmay (p.length_roots_le ids) hprogress⟩
    rw [hall]
    exact congrArg (fun names => (Except.ok names, _)) hprogress.initiated

theorem launching_enableReferrers (h : Scene.Named p.scene) (hn : p.registry.find? id = some n)
    (hactive : (p.service n).state.isActive = true) :
    p.Launching (p.registry.recursiveReferrers id) (p.enableReferrers undisturbed id) := by
  have hall : p.enableReferrers undisturbed id =
      p.enableAll undisturbed (p.registry.recursiveReferrers id) := by
    have hknown : (p.registry.recursiveReferrers id).find?
        (fun k => (p.registry.find? k).isNone) = none := by
      rw [List.find?_eq_none]
      intro k hk
      obtain ⟨-, m, hm, -⟩ := (mem_recursiveReferrers h hn).mp hk
      simp [hm]
    unfold enableReferrers enableAll
    rw [stateOf?_eq hn, resolve_eq, hknown]
    dsimp only
    rw [if_pos hactive]
    rfl
  rw [hall]
  exact launching_enableAll h _

end Provider

/-- After every run, a request to enable several services, during which nobody gets in, is refused
exactly if one of them is unknown or on its way down, or one that is down refers to something that
is not registered, or neither active nor about to be enabled as well, or is invalid; then nothing
happens. Otherwise those that are down come on their way up, with nothing else but what they need,
and each after whatever it refers to, unless references lead in circles. To enable the referrers of
an active service is to enable all that depends on it. -/
theorem Setup.enableAll_exact (setup : Setup) (events : List Event) :
    let p := setup.provider.after events
    (∀ ids, p.Launching ids (p.enableAll undisturbed ids)) ∧
    ∀ id n, p.registry.find? id = some n → (p.service n).state.isActive = true →
      ∃ ids, ids.Nodup ∧ (∀ k, k ∈ ids ↔ ∃ m, p.registry.find? k = some m ∧ p.DependsOn m n) ∧
        p.Launching ids (p.enableReferrers undisturbed id) := by
  intro p
  have h : Scene.Named p.scene := (setup.lawful_after events).orderly.named
  refine ⟨Provider.launching_enableAll h, ?_⟩
  intro id n hn hactive
  refine ⟨_, ?_, ?_, Provider.launching_enableReferrers h hn hactive⟩
  · exact List.filter_sublist.nodup (OrderedSet.nodup _)
  · intro k
    constructor
    · intro hk
      obtain ⟨-, m, hm, -⟩ := (Provider.mem_recursiveReferrers h hn).mp hk
      exact ⟨m, hm, (Provider.dependsOn_iff h hn).mpr (List.mem_filterMap.mpr ⟨k, hk, hm⟩)⟩
    · rintro ⟨m, hm, hdepends⟩
      obtain ⟨k', hk', hm'⟩ := List.mem_filterMap.mp ((Provider.dependsOn_iff h hn).mp hdepends)
      obtain rfl : k' = k := (h.own k' m hm').1.symm.trans (h.own k m hm).1
      exact hk'

/-- A service that is up, and another one that refers to it. -/
def Setup.suppliedRun : List Event :=
  [.request (.create "plain" ⟨"b"⟩ true), .request (.create "plain" ⟨"a"⟩ false),
    .request (.setProperty ⟨"a"⟩ "upstream" "b")] ++ Event.rounds 1 3

theorem Setup.enableAll_exact_supplied :
    let p := plain.provider.after suppliedRun
    p.registry.find? ⟨"b"⟩ = some 0 ∧ (p.service 0).state.isActive = true ∧
      ∃ ids, ids.Nodup ∧ (∀ k, k ∈ ids ↔ ∃ m, p.registry.find? k = some m ∧ p.DependsOn m 0) ∧
        p.Launching ids (p.enableReferrers undisturbed ⟨"b"⟩) :=
  ⟨by decide +kernel, by decide +kernel, (enableAll_exact plain suppliedRun).2 ⟨"b"⟩ 0
    (by decide +kernel) (by decide +kernel)⟩

end ServiceLifecycle

import ServiceLifecycle.Proofs.Claims
import ServiceLifecycle.Proofs.Enabling

/-!
# Who comes up, and in what order

Several branches are submitted, element by element. What this does to the services is only to
bring some of them on their way up, and each element adds at most one to them. While it goes on
services only rise. So what might be claimed in the beginning may be claimed until it is, and
whatever an element was allowed to count on is on its way up or still to be claimed.

* **steps** — what becomes of one element, to the last detail (`Provider.submitStep_exact`);
* **lifting** — services have come on their way up (`Provider.Lifted`), and nobody else is in the
  way (`Provider.Lifted.allows`);
* **submission** — how far a submission has got (`Provider.Progress`), after one more element
  (`Provider.Progress.element`), a branch (`Provider.Progress.branch`) and several branches
  (`Provider.progress_submitBranches`).
-/

namespace ServiceLifecycle

open Relation

namespace Provider

variable {p q r : Provider} {n m : Incarnation} {ns : List Incarnation} {id : ServiceId}
  {willEnable : List ServiceId} {gates : List TaskId} {job : Job} {i : TaskId}
  {t : Task Job HookRun}

/-! ## Steps -/

/-- What becomes of one element of a branch: its service is claimed, or a task is taken in that
confirms it. -/
theorem submitStep_exact (hn : n < p.registry.services.size) (gate : Option TaskId)
    (willEnable : List ServiceId) :
    ∃ claimed q, p.submitStep n gate willEnable = (p.tasks.tasks.size, claimed, q) ∧
      (claimed = .initiated ∧ (p.service n).state = .disabled ∧ p.scene.Allows n willEnable ∧
        p.Departs n .enabling (.enable n) gate.toList q ∨
      claimed ≠ .initiated ∧ ((p.service n).removed = true ∨ (p.service n).state ≠ .disabled ∨
        ¬ p.scene.Allows n willEnable) ∧ ∃ gates, p.TakesIn (.confirm n) gates [] q) := by
  have hjoins : ∀ gates log, p.TakesIn (.confirm n) (OrderedSet.ofList gates).toList []
      ((p.withLog log).submit (.confirm n) gates).2 := fun gates log =>
    (takesIn_submit p (.confirm n) gates).2.withLog _
  have hclaiming := claiming p n .disabled .enabling (.enable n) gate.toList
    fun p => (p.verifyDependenciesUp n willEnable, p)
  unfold submitStep
  generalize p.claim n .disabled .enabling (.enable n) gate.toList
    (fun p => (p.verifyDependenciesUp n willEnable, p)) = result at hclaiming ⊢
  cases hclaiming with
  | removed hremoved =>
    exact ⟨.joined, (p.submit (.confirm n) gate.toList).2, rfl,
      .inr ⟨by simp, .inl hremoved, _, hjoins _ _⟩⟩
  | busy _ hstate =>
    exact ⟨.joined, (p.submit (.confirm n) ((p.service n).transition.toList ++ gate.toList)).2, rfl,
      .inr ⟨by simp, .inr (.inl hstate), _, hjoins _ _⟩⟩
  | @rejected e q _ _ heq =>
    obtain ⟨hcheck, rfl⟩ := Prod.mk.inj heq
    let q := p.say
      ⟨.debug, s!"Not enabling controller service {p.registry.nameOf n}: {e.message}"⟩
    refine ⟨.rejected e, (q.submit (.confirm n) gate.toList).2, rfl,
      .inr ⟨by simp, .inr (.inr ?_), _, hjoins _ _⟩⟩
    rw [← verifyDependenciesUp_ok, hcheck]
    simp
  | @granted q _ hstate heq =>
    obtain ⟨hcheck, rfl⟩ := Prod.mk.inj heq
    have hdeparts := departs_depart hn .enabling (rfl : (Job.enable n).service = n) gate.toList
    rw [toList_ofList_option] at hdeparts
    exact ⟨.initiated, _, rfl,
      .inl ⟨rfl, hstate, verifyDependenciesUp_ok.mp hcheck, hdeparts.withLog _⟩⟩

/-! ## Lifting -/

theorem TakesIn.size_eq (h : p.TakesIn job gates ns q) :
    q.tasks.tasks.size = p.tasks.tasks.size + 1 := by
  rw [h.tasks, Array.size_push]

/-- Tasks that were taken in before are still there when another one is. -/
theorem TakesIn.task? (h : p.TakesIn job gates ns q) (ht : p.tasks.tasks[i]? = some t) :
    q.tasks.tasks[i]? = some t := by
  have hi := (Array.getElem?_eq_some_iff.mp ht).1
  rw [h.tasks, Array.getElem?_push, if_neg (Nat.ne_of_lt hi), ht]

/-- The services `ns` have come on their way up, each with a task of its own, and nothing else has
happened but that tasks were taken in that confirm something. -/
structure Lifted (p : Provider) (ns : List Incarnation) (q : Provider) : Prop
    extends Confined ns p q where
  distinct : ns.Nodup
  registered : ∀ n ∈ ns, p.registry.find? (p.service n).id = some n
  down : ∀ n ∈ ns, (p.service n).state = .disabled
  rising : ∀ n ∈ ns, ∃ i t, q.service n = (p.service n).depart .enabling i ∧
    p.tasks.tasks.size ≤ i ∧ q.tasks.tasks[i]? = some t ∧ t.job = some (.enable n)
  old : p.tasks.tasks.toList <+: q.tasks.tasks.toList
  newcomers : ∀ (i : Nat) t, p.tasks.tasks.size ≤ i → q.tasks.tasks[i]? = some t →
    ∃ n, t.job = some (.confirm n) ∨ n ∈ ns ∧ t.job = some (.enable n)
  pending : q.tasks.pending + p.tasks.tasks.size = p.tasks.pending + q.tasks.tasks.size

namespace Lifted

/-- Nothing has been claimed yet. -/
theorem start (p : Provider) (log : List Remark) : p.Lifted [] (p.withLog log) :=
  ⟨(Confined.refl p).withLog log, by simp, by simp, by simp, by simp, List.prefix_refl _,
    fun _ _ hi ht => absurd (Array.getElem?_eq_some_iff.mp ht).1 (Nat.not_lt.mpr hi), rfl⟩

/-- All that becomes of a service is that it comes on its way up. -/
theorem service_eq (h : p.Lifted ns q) (m : Incarnation) :
    q.service m = p.service m ∨ ∃ i, q.service m = (p.service m).depart .enabling i := by
  by_cases hm : m ∈ ns
  · obtain ⟨i, -, hservice, -⟩ := h.rising m hm
    exact .inr ⟨i, hservice⟩
  · exact .inl (h.others m hm)

/-- A part of the services that does not depend on their state is what it was. -/
theorem part_eq {α : Type} (part : Service → α)
    (hpart : ∀ (s : Service) (i : TaskId), part (s.depart .enabling i) = part s)
    (h : p.Lifted ns q) (m : Incarnation) : part (q.service m) = part (p.service m) := by
  rcases h.service_eq m with heq | ⟨i, heq⟩
  · rw [heq]
  · rw [heq, hpart]

theorem id_eq (h : p.Lifted ns q) (m : Incarnation) : (q.service m).id = (p.service m).id :=
  h.part_eq Service.id (fun _ _ => rfl) m

theorem references_eq (h : p.Lifted ns q) (m : Incarnation) :
    (q.service m).references = (p.service m).references :=
  h.part_eq Service.references (fun _ _ => rfl) m

theorem properties_eq (h : p.Lifted ns q) (m : Incarnation) :
    (q.service m).properties = (p.service m).properties :=
  h.part_eq Service.properties (fun _ _ => rfl) m

theorem verdict_eq (h : p.Lifted ns q) (m : Incarnation) :
    (q.service m).verdict = (p.service m).verdict := h.part_eq Service.verdict (fun _ _ => rfl) m

/-- What has been claimed is on its way up, and all else is where it was. -/
theorem state_eq (h : p.Lifted ns q) (m : Incarnation) :
    (q.service m).state = if m ∈ ns then .enabling else (p.service m).state := by
  split
  · next hm =>
    obtain ⟨i, -, hservice, -⟩ := h.rising m hm
    rw [hservice]
    rfl
  · next hm => rw [h.others m hm]

theorem size_le (h : p.Lifted ns q) : p.tasks.tasks.size ≤ q.tasks.tasks.size := h.old.length_le

/-- What is taken in is a newcomer. -/
theorem newcomers_push (h : p.Lifted ns q) {ms : List Incarnation} (hsubset : ns ⊆ ms)
    (hjob : ∃ n, job = .confirm n ∨ n ∈ ms ∧ job = .enable n) {i : Nat}
    (hi : p.tasks.tasks.size ≤ i)
    (ht : (q.tasks.tasks.push (q.newcomer job gates))[i]? = some t) :
    ∃ n, t.job = some (.confirm n) ∨ n ∈ ms ∧ t.job = some (.enable n) := by
  rw [Array.getElem?_push] at ht
  split at ht
  · obtain ⟨n, hn⟩ := hjob
    obtain rfl := Option.some.inj ht
    exact ⟨n, hn.imp (congrArg some) (And.imp_right (congrArg some))⟩
  · obtain ⟨n, hn⟩ := h.newcomers i t hi ht
    exact ⟨n, hn.imp_right (And.imp_left fun hin => hsubset hin)⟩

/-- Whatever is taken in, the tasks that there were stay, and all others are pending. -/
theorem grows (h : p.Lifted ns q) {ms : List Incarnation} (htakes : q.TakesIn job gates ms r) :
    p.tasks.tasks.toList <+: r.tasks.tasks.toList ∧
      r.tasks.pending + p.tasks.tasks.size = p.tasks.pending + r.tasks.tasks.size := by
  refine ⟨?_, ?_⟩
  · rw [htakes.tasks, Array.toList_push]
    exact h.old.trans (List.prefix_append _ _)
  · have hpending := h.pending
    rw [htakes.pending, htakes.size_eq]
    omega

/-- A task more is taken in, which confirms something. -/
theorem takesIn (h : p.Lifted ns q) (htakes : q.TakesIn (.confirm n) gates [] r) :
    p.Lifted ns r := by
  obtain ⟨hold, hpending⟩ := h.grows htakes
  exact {
    toConfined := by
      simpa using h.toConfined.trans htakes.toConfined
    distinct := h.distinct
    registered := h.registered
    down := h.down
    rising m hm := by
      obtain ⟨i, t, hservice, hi, ht, hjob⟩ := h.rising m hm
      exact ⟨i, t, (htakes.others m List.not_mem_nil).trans hservice, hi, htakes.task? ht, hjob⟩
    old := hold
    newcomers i t hi ht :=
      h.newcomers_push (List.Subset.refl ns) ⟨n, .inl rfl⟩ hi (htakes.tasks ▸ ht)
    pending := hpending }

/-- A claim is one more service that comes on its way up. -/
theorem claim (h : p.Lifted ns q) (hn : n ∉ ns)
    (hregistered : p.registry.find? (p.service n).id = some n)
    (hdown : (p.service n).state = .disabled)
    (hclaims : q.Departs n .enabling (.enable n) gates r) : p.Lifted (ns ++ [n]) r := by
  have hmem : ∀ {P : Incarnation → Prop}, (∀ m ∈ ns, P m) → P n → ∀ m ∈ ns ++ [n], P m :=
    fun hns hlast => List.forall_mem_append.mpr ⟨hns, List.forall_mem_singleton.mpr hlast⟩
  obtain ⟨hold, hpending⟩ := h.grows hclaims.toTakesIn
  exact {
    toConfined := h.toConfined.trans hclaims.toConfined
    distinct := List.nodup_append.mpr ⟨h.distinct, List.nodup_singleton n,
      fun m hm k hk heq => hn (List.mem_singleton.mp hk ▸ heq ▸ hm)⟩
    registered := hmem h.registered hregistered
    down := hmem h.down hdown
    rising := by
      refine hmem (fun m hm => ?_) ?_
      · obtain ⟨i, t, hservice, hi, ht, hjob⟩ := h.rising m hm
        have hne : m ∉ [n] := fun heq => hn (List.mem_singleton.mp heq ▸ hm)
        exact ⟨i, t, (hclaims.others m hne).trans hservice, hi, hclaims.task? ht, hjob⟩
      · refine ⟨_, q.newcomer (.enable n) gates, hclaims.self.trans (by rw [h.others n hn]),
          h.size_le, ?_, rfl⟩
        rw [hclaims.tasks, Array.getElem?_push, if_pos rfl]
    old := hold
    newcomers i t hi ht :=
      h.newcomers_push (List.subset_append_left ns [n]) ⟨n, .inr ⟨by simp, rfl⟩⟩ hi
        (hclaims.tasks ▸ ht)
    pending := hpending }

/-- What might be claimed in the beginning may be claimed still. -/
theorem allows (h : p.Lifted ns q) (hallows : p.scene.Allows n willEnable) :
    q.scene.Allows n willEnable := by
  intro y hy hne
  rw [references_scene, h.references_eq] at hy
  rw [id_scene, h.id_eq] at hne
  have hbefore := hallows y hy hne
  rw [stateOf?_scene] at hbefore ⊢
  cases hm : p.registry.find? y with
  | none => rwa [h.stateOf? fun m hm' => absurd (hm.symm.trans hm') (by simp)]
  | some m =>
    rw [stateOf?_eq (h.find? ▸ hm), h.state_eq]
    rw [stateOf?_eq hm] at hbefore
    split
    · exact .inl rfl
    · exact hbefore

/-- It does not matter for a service what becomes of those that it does not refer to. -/
theorem allows_congr {ms : List Incarnation} (h : p.Lifted ns q) (h' : p.Lifted ms r)
    (hsame : ∀ m, p.Refers n m → (m ∈ ms ↔ m ∈ ns)) :
    r.scene.Allows n willEnable ↔ q.scene.Allows n willEnable := by
  unfold Scene.Allows
  simp only [references_scene, id_scene, stateOf?_scene, h.references_eq, h'.references_eq, h.id_eq,
    h'.id_eq]
  have hstates : ∀ y ∈ (p.service n).references, r.registry.stateOf? y = q.registry.stateOf? y := by
    intro y hy
    cases hm : p.registry.find? y with
    | none =>
      have hnone : ∀ ks : List Incarnation, ∀ m, p.registry.find? y = some m → m ∉ ks :=
        fun _ m hm' => absurd (hm.symm.trans hm') (by simp)
      rw [h.stateOf? (hnone ns), h'.stateOf? (hnone ms)]
    | some m =>
      have hq : q.registry.find? y = some m := h.find? ▸ hm
      have hr : r.registry.find? y = some m := h'.find? ▸ hm
      have hiff : m ∈ ms ↔ m ∈ ns := hsame m ⟨y, hy, hm⟩
      rw [stateOf?_eq hq, stateOf?_eq hr, h.state_eq, h'.state_eq]
      simp only [hiff]
  exact forall₂_congr fun y hy => by rw [hstates y hy]

/-- An element adds its service to those that were claimed, or it adds none. -/
theorem step (h : p.Lifted ns q) (hnamed : Scene.Named p.scene)
    (hn : p.registry.find? (p.service n).id = some n) (gate : Option TaskId)
    (willEnable : List ServiceId) :
    ∃ claimed r, q.submitStep n gate willEnable = (q.tasks.tasks.size, claimed, r) ∧
      r.tasks.tasks.size = q.tasks.tasks.size + 1 ∧
      (claimed = .initiated ∧ n ∉ ns ∧ q.scene.Allows n willEnable ∧ p.Lifted (ns ++ [n]) r ∧
        (r.service n).transition = some q.tasks.tasks.size ∨
      claimed ≠ .initiated ∧ p.Lifted ns r ∧ (n ∈ ns ∨ (p.service n).state ≠ .disabled ∨
        ¬ q.scene.Allows n willEnable)) := by
  have hlt : n < p.registry.services.size := hnamed.within _ n hn
  obtain ⟨claimed, r, hstep, ⟨hclaimed, hdown, hallows, hclaims⟩ |
    ⟨hclaimed, hwhy, gates, htakes⟩⟩ := submitStep_exact (h.size.symm ▸ hlt) gate willEnable
  · rw [h.state_eq] at hdown
    split at hdown
    · cases hdown
    · next hnew =>
      refine ⟨claimed, r, hstep, hclaims.size_eq,
        .inl ⟨hclaimed, hnew, hallows, h.claim hnew hn hdown hclaims, ?_⟩⟩
      rw [hclaims.self]
      rfl
  · refine ⟨claimed, r, hstep, htakes.size_eq, .inr ⟨hclaimed, h.takesIn htakes, ?_⟩⟩
    by_cases hin : n ∈ ns
    · exact .inl hin
    · rw [h.others n hin] at hwhy
      refine .inr (hwhy.resolve_left fun hremoved => ?_)
      have hkept : (p.service n).removed = false := (hnamed.own _ n hn).2
      rw [hkept] at hremoved
      cases hremoved

/-- What a service that may be claimed refers to has been claimed, was active all along, or is still
to be claimed. -/
theorem allowed (h : p.Lifted ns q) (hnamed : Scene.Named p.scene)
    (hallows : q.scene.Allows n willEnable) (hn : p.registry.find? (p.service n).id = some n)
    (hne : m ≠ n) (hrefers : p.Refers n m) :
    m ∈ ns ∨ (p.service m).state.isActive = true ∨
      (p.service m).state = .disabled ∧ (p.service m).id ∈ willEnable := by
  obtain ⟨y, hy, hm⟩ := hrefers
  have hid : (p.service m).id = y := (hnamed.own y m hm).1
  have hother : y ≠ (q.scene.service n).id := by
    rw [id_scene, h.id_eq]
    rintro rfl
    exact hne (Option.some.inj (hm.symm.trans hn))
  have hnow := hallows y (by rwa [references_scene, h.references_eq]) hother
  rw [stateOf?_scene, stateOf?_eq (h.find? ▸ hm), h.state_eq] at hnow
  split at hnow
  · next hin => exact .inl hin
  · exact .inr (hid.symm ▸ hnow)

end Lifted

/-! ## Submission -/

/-- References never lead back to where they start. -/
def Acyclic (p : Provider) : Prop := ∀ n, ¬ TransGen p.Refers n n

/-- Whatever is down and about to be enabled may be claimed. -/
def Permits (p : Provider) (willEnable : List ServiceId) : Prop :=
  ∀ m, p.registry.find? (p.service m).id = some m → (p.service m).state = .disabled →
    (p.service m).id ∈ willEnable → p.scene.Allows m willEnable

/-- Once the services `listed` had been claimed, the elements `done` have been submitted, one after
the other, and of their services `ns` were claimed, in this order. -/
structure Progress (p : Provider) (willEnable listed : List ServiceId)
    (done : List (Graph.Vertex Incarnation)) (ns : List Incarnation)
    (acc : Submission × Provider) : Prop where
  lifted : p.Lifted ns acc.2
  /-- Each element has a task. -/
  counted : acc.2.tasks.tasks.size = p.tasks.tasks.size + done.length
  listed_up : ∀ id ∈ listed, p.registry.stateOf? id ≠ some .disabled
  initiated : acc.1.initiated.toList = listed ++ ns.map fun n => (p.service n).id
  /-- Whatever might be claimed was. -/
  met : ∀ v ∈ done, (p.service v.item).state = .disabled → p.scene.Allows v.item willEnable →
    v.item ∈ ns
  /-- Nothing else was, -/
  within : ∀ n ∈ ns, ∃ v ∈ done, v.item = n
  /-- and nothing at all if nothing might be. -/
  idle : (∀ v ∈ done, (p.service v.item).state = .disabled →
    ¬ p.scene.Allows v.item willEnable) → ns = []
  closed : p.Acyclic → ∀ v ∈ done, ∀ m, p.Refers v.item m → ∃ u ∈ done, u.item = m
  /-- Whatever a claimed service refers to was claimed before, or was active all along. -/
  ordered : p.Acyclic → ∀ front n back, ns = front ++ n :: back → ∀ m, p.Refers n m →
    m ∈ front ∨ (p.service m).state.isActive = true
  /-- Whatever is still down may not be claimed. -/
  settled : p.Acyclic → ∀ v ∈ done, (acc.2.service v.item).state = .disabled →
    ¬ acc.2.scene.Allows v.item willEnable

/-- An element can be submitted next: it stands for a registered service, and all that this refers
to has been submitted before, unless references lead in a circle. -/
structure Ready (p : Provider) (done : List (Graph.Vertex Incarnation))
    (v : Graph.Vertex Incarnation) : Prop where
  registered : p.registry.find? (p.service v.item).id = some v.item
  id_eq : v.id = (p.service v.item).id
  sorted : p.Acyclic → ∀ m, p.Refers v.item m → ∃ u ∈ done, u.item = m

namespace Lifted

theorem refers_iff (h : p.Lifted ns q) : q.Refers n m ↔ p.Refers n m := by
  show (∃ y ∈ (q.service n).references, q.registry.find? y = some m) ↔ _
  rw [h.references_eq, h.find?]
  exact Iff.rfl

/-- What could be submitted can be submitted still. -/
theorem ready (h : p.Lifted ns q) {done : List (Graph.Vertex Incarnation)}
    {v : Graph.Vertex Incarnation} (hv : p.Ready done v) : q.Ready done v := by
  have hrefers : ∀ {n m}, q.Refers n m ↔ p.Refers n m := h.refers_iff
  refine ⟨?_, ?_, fun hacyclic m hm => hv.sorted (fun n hpath => ?_) m (hrefers.mp hm)⟩
  · rw [h.find?, h.id_eq]
    exact hv.registered
  · rw [h.id_eq]
    exact hv.id_eq
  · exact hacyclic n (TransGen.mono (fun _ _ => hrefers.mpr) n n hpath)

/-- What is about to be enabled may be claimed still. -/
theorem permits (h : p.Lifted ns q) (hwill : p.Permits willEnable) : q.Permits willEnable := by
  intro m hm hdown hin
  rw [h.find?, h.id_eq] at hm
  rw [h.id_eq] at hin
  rw [h.state_eq] at hdown
  split at hdown
  · cases hdown
  · exact h.allows (hwill m hm hdown hin)

end Lifted

namespace Progress

variable {listed : List ServiceId} {done : List (Graph.Vertex Incarnation)}
  {v : Graph.Vertex Incarnation} {acc : Submission × Provider}

/-- Nothing has been submitted yet. -/
theorem start (p : Provider) (willEnable : List ServiceId) (log : List Remark)
    (initiated : OrderedSet ServiceId)
    (hlisted : ∀ id ∈ initiated.toList, p.registry.stateOf? id ≠ some .disabled) :
    p.Progress willEnable initiated.toList [] [] ({ initiated }, p.withLog log) :=
  ⟨.start p log, rfl, hlisted, by simp, by simp, by simp, by simp, by simp, by simp, by simp⟩

theorem counted_concat (h : p.Progress willEnable listed done ns acc)
    (hsize : r.tasks.tasks.size = acc.2.tasks.tasks.size + 1) :
    r.tasks.tasks.size = p.tasks.tasks.size + (done ++ [v]).length := by
  rw [hsize, h.counted, List.length_append, List.length_singleton, Nat.add_assoc]

/-- What the services submitted refer to was submitted as well, with one more element. -/
theorem closed_concat (h : p.Progress willEnable listed done ns acc) (hv : p.Ready done v)
    (hacyclic : p.Acyclic) :
    ∀ u ∈ done ++ [v], ∀ m, p.Refers u.item m → ∃ w ∈ done ++ [v], w.item = m := by
  intro u hu m hrefers
  obtain ⟨w, hw, hwm⟩ : ∃ w ∈ done, w.item = m := by
    rcases List.mem_append.mp hu with hu | hu
    · exact h.closed hacyclic u hu m hrefers
    · exact hv.sorted hacyclic m (List.mem_singleton.mp hu ▸ hrefers)
  exact ⟨w, List.mem_append_left _ hw, hwm⟩

/-- The service of the next element is claimed. -/
theorem claim (h : p.Progress willEnable listed done ns acc) (hnamed : Scene.Named p.scene)
    (hwill : p.Permits willEnable) (hv : p.Ready done v) (hnew : v.item ∉ ns)
    (hallows : acc.2.scene.Allows v.item willEnable) (hlifted : p.Lifted (ns ++ [v.item]) r)
    (hsize : r.tasks.tasks.size = acc.2.tasks.tasks.size + 1)
    {submission : Submission} (hinitiated : submission.initiated = acc.1.initiated.insert v.id) :
    p.Progress willEnable listed (done ++ [v]) (ns ++ [v.item]) (submission, r) := by
  have hlast : ∀ {u}, u ∈ done ++ [v] → u ∈ done ∨ u = v := by
    intro u hu
    exact (List.mem_append.mp hu).imp_right List.mem_singleton.mp
  exact {
    lifted := hlifted
    counted := h.counted_concat hsize
    listed_up := h.listed_up
    initiated := by
      have hfresh : ∀ id ∈ [v.id], id ∉ acc.1.initiated.toList := by
        intro id hid hin
        rw [List.mem_singleton.mp hid, h.initiated, hv.id_eq] at hin
        rcases List.mem_append.mp hin with hin | hin
        · refine h.listed_up _ hin ?_
          rw [stateOf?_eq hv.registered, hlifted.down _ (by simp)]
        · obtain ⟨n, hn, hsame⟩ := List.mem_map.mp hin
          have hfind := h.lifted.registered n hn
          rw [hsame, hv.registered] at hfind
          exact hnew (Option.some.inj hfind ▸ hn)
      rw [hinitiated, List.map_append, ← List.append_assoc, ← h.initiated]
      exact hv.id_eq ▸ Graph.toList_foldl_insert (List.nodup_singleton v.id) _ hfresh
    met u hu hdown hall := by
      rcases hlast hu with hu | rfl
      · exact List.mem_append_left _ (h.met u hu hdown hall)
      · simp
    within n hn := by
      rcases List.mem_append.mp hn with hn | hn
      · obtain ⟨u, hu, hun⟩ := h.within n hn
        exact ⟨u, List.mem_append_left _ hu, hun⟩
      · exact ⟨v, by simp, (List.mem_singleton.mp hn).symm⟩
    idle hnone := by
      have hidle : ns = [] := h.idle fun u hu => hnone u (List.mem_append_left _ hu)
      subst hidle
      refine absurd ?_ (hnone v (by simp) (hlifted.down _ (by simp)))
      exact (Lifted.allows_congr (.start p []) h.lifted fun _ _ => Iff.rfl).mp hallows
    closed := h.closed_concat hv
    ordered hacyclic front n back hsplit m hrefers := by
      rcases List.eq_nil_or_concat back with rfl | ⟨back, k, rfl⟩
      · obtain ⟨rfl, hlast⟩ := List.append_inj' hsplit rfl
        obtain rfl : v.item = n := (List.cons.inj hlast).1
        have hne : m ≠ v.item := fun heq => hacyclic m (.single (heq ▸ hrefers))
        rcases h.lifted.allowed hnamed hallows hv.registered hne hrefers with
          hin | hactive | ⟨hdown, hin⟩
        · exact .inl hin
        · exact .inr hactive
        · obtain ⟨u, hu, rfl⟩ := hv.sorted hacyclic m hrefers
          obtain ⟨y, -, hm⟩ := hrefers
          exact .inl (h.met u hu hdown (hwill _ (hnamed.registered hm) hdown hin))
      · rw [List.concat_eq_append, ← List.cons_append, ← List.append_assoc] at hsplit
        exact h.ordered hacyclic front n back (List.append_inj' hsplit rfl).1 m hrefers
    settled hacyclic u hu hdown hall := by
      have hother : u.item ∉ ns ++ [v.item] := by
        intro hin
        rw [hlifted.state_eq, if_pos hin] at hdown
        cases hdown
      obtain ⟨hns, hne⟩ := not_or.mp (List.mem_append.not.mp hother)
      have hu : u ∈ done := (hlast hu).resolve_right fun heq => hne (by simp [heq])
      have hbefore : (acc.2.service u.item).state = .disabled := by
        rw [hlifted.state_eq, if_neg hother] at hdown
        rw [h.lifted.state_eq, if_neg hns, hdown]
      refine h.settled hacyclic u hu hbefore
        ((h.lifted.allows_congr hlifted fun m hrefers => ?_).mp hall)
      rw [List.mem_append, List.mem_singleton]
      refine or_iff_left_of_imp ?_
      -- the service that was claimed had been submitted before, and might not be claimed then
      rintro rfl
      obtain ⟨w, hw, hwv⟩ := h.closed hacyclic u hu _ hrefers
      refine absurd (hwv ▸ hallows) (h.settled hacyclic w hw ?_)
      rw [hwv, h.lifted.state_eq, if_neg hnew]
      exact hlifted.down _ (by simp) }

/-- The service of the next element is not claimed. -/
theorem pass (h : p.Progress willEnable listed done ns acc) (hv : p.Ready done v)
    (hwhy : v.item ∈ ns ∨ (p.service v.item).state ≠ .disabled ∨
      ¬ acc.2.scene.Allows v.item willEnable) (hlifted : p.Lifted ns r)
    (hsize : r.tasks.tasks.size = acc.2.tasks.tasks.size + 1)
    {submission : Submission} (hinitiated : submission.initiated = acc.1.initiated) :
    p.Progress willEnable listed (done ++ [v]) ns (submission, r) := by
  have hlast : ∀ {u}, u ∈ done ++ [v] → u ∈ done ∨ u = v := by
    intro u hu
    exact (List.mem_append.mp hu).imp_right List.mem_singleton.mp
  exact {
    lifted := hlifted
    counted := h.counted_concat hsize
    listed_up := h.listed_up
    initiated := hinitiated ▸ h.initiated
    met u hu hdown hall := by
      rcases hlast hu with hu | rfl
      · exact h.met u hu hdown hall
      · rcases hwhy with hin | hup | hnot
        · exact hin
        · exact absurd hdown hup
        · exact absurd (h.lifted.allows hall) hnot
    within n hn := by
      obtain ⟨u, hu, hun⟩ := h.within n hn
      exact ⟨u, List.mem_append_left _ hu, hun⟩
    idle hnone := h.idle fun u hu => hnone u (List.mem_append_left _ hu)
    closed := h.closed_concat hv
    ordered := h.ordered
    settled hacyclic u hu hdown hall := by
      have hdown : (acc.2.service u.item).state = .disabled := by
        rw [h.lifted.state_eq, ← hlifted.state_eq, hdown]
      have hall : acc.2.scene.Allows u.item willEnable :=
        (h.lifted.allows_congr hlifted fun _ _ => Iff.rfl).mp hall
      rcases hlast hu with hu | rfl
      · exact h.settled hacyclic u hu hdown hall
      · rw [h.lifted.state_eq] at hdown
        split at hdown
        · cases hdown
        · next hout =>
          rcases hwhy with hin | hup | hnot
          · exact hout hin
          · exact hup hdown
          · exact hnot hall }

/-- A submission goes on with one more element, whose service is claimed or not. -/
theorem element (h : p.Progress willEnable listed done ns acc) (hnamed : Scene.Named p.scene)
    (hwill : p.Permits willEnable) (hv : p.Ready done v) :
    p.Progress willEnable listed (done ++ [v]) (ns ++ [v.item]) (submitElement willEnable acc v) ∧
        (submitElement willEnable acc v).1.last = some (acc.2.tasks.tasks.size, .initiated) ∧
        ((submitElement willEnable acc v).2.service v.item).transition =
          some acc.2.tasks.tasks.size ∨
      p.Progress willEnable listed (done ++ [v]) ns (submitElement willEnable acc v) ∧
        (v.item ∈ ns ∨ (p.service v.item).state ≠ .disabled ∨
          ¬ p.scene.Allows v.item willEnable) := by
  obtain ⟨claimed, r, hstep, hsize, ⟨rfl, hnew, hallows, hlifted, htransition⟩ |
    ⟨hclaimed, hlifted, hwhy⟩⟩ :=
    h.lifted.step hnamed hv.registered (acc.1.last.map Prod.fst) willEnable
  · have heq : submitElement willEnable acc v =
        ({ last := some (acc.2.tasks.tasks.size, .initiated)
           initiated := acc.1.initiated.insert v.id }, r) := by
      simp only [submitElement, hstep]
    rw [heq]
    exact .inl ⟨h.claim hnamed hwill hv hnew hallows hlifted hsize rfl, rfl, htransition⟩
  · have heq : submitElement willEnable acc v =
        ({ last := some (acc.2.tasks.tasks.size, claimed)
           initiated := acc.1.initiated }, r) := by
      simp only [submitElement, hstep]
      cases claimed <;> first | rfl | exact absurd rfl hclaimed
    rw [heq]
    refine .inr ⟨h.pass hv hwhy hlifted hsize rfl, ?_⟩
    exact hwhy.imp_right fun hwhy => hwhy.imp_right fun hnot hall => hnot (h.lifted.allows hall)

/-- A submission goes on with one more branch. -/
theorem branch (hnamed : Scene.Named p.scene) (hwill : p.Permits willEnable)
    {branch : List (Graph.Vertex Incarnation)}
    (hbranch : ∀ front v back, branch = front ++ v :: back → p.Ready front v)
    {initiated : OrderedSet ServiceId}
    (h : p.Progress willEnable listed done ns ({ initiated }, q)) :
    ∃ ns', p.Progress willEnable listed (done ++ branch) ns'
      (branch.foldl (submitElement willEnable) ({ initiated }, q)) := by
  induction branch using List.reverseRecOn with
  | nil => exact ⟨ns, by simpa using h⟩
  | append_singleton front v ih =>
    obtain ⟨ns', hfront⟩ := ih fun before u after hsplit =>
      hbranch before u (after ++ [v]) (by rw [hsplit, List.append_assoc, List.cons_append])
    have hv := hbranch front v [] rfl
    have hready : p.Ready (done ++ front) v := by
      refine ⟨hv.registered, hv.id_eq, fun hacyclic m hrefers => ?_⟩
      obtain ⟨u, hu, hum⟩ := hv.sorted hacyclic m hrefers
      exact ⟨u, List.mem_append_right _ hu, hum⟩
    rw [List.foldl_append, ← List.append_assoc]
    rcases hfront.element hnamed hwill hready with ⟨hnext, -⟩ | ⟨hnext, -⟩
    · exact ⟨_, hnext⟩
    · exact ⟨_, hnext⟩

end Progress

/-- What is done with one branch of several. -/
def submitNext (willEnable : List ServiceId) (acc : OrderedSet ServiceId × Provider)
    (branch : List (Graph.Vertex Incarnation)) : OrderedSet ServiceId × Provider :=
  let (submission, p) := submitBranch branch willEnable acc.1 acc.2
  (submission.initiated, p)

theorem submitBranches_eq (branches : List (List (Graph.Vertex Incarnation)))
    (willEnable : List ServiceId) (p : Provider) :
    submitBranches branches willEnable p =
      branches.foldl (submitNext willEnable) (.empty, p) := rfl

/-- Several branches are submitted. -/
theorem progress_submitBranches (hnamed : Scene.Named p.scene) (hwill : p.Permits willEnable)
    {branches : List (List (Graph.Vertex Incarnation))}
    (hbranches : ∀ branch ∈ branches, ∀ front v back, branch = front ++ v :: back →
      p.Ready front v) (initiated : OrderedSet ServiceId)
    (hlisted : ∀ id ∈ initiated.toList, p.registry.stateOf? id ≠ some .disabled)
    (log : List Remark) :
    let raised := branches.foldl (submitNext willEnable) (initiated, p.withLog log)
    ∃ ns, p.Progress willEnable initiated.toList branches.flatten ns
      ({ initiated := raised.1 }, raised.2) := by
  induction branches using List.reverseRecOn with
  | nil => exact ⟨[], .start p willEnable log initiated hlisted⟩
  | append_singleton branches branch ih =>
    obtain ⟨ns, h⟩ := ih fun b hb => hbranches b (List.mem_append_left _ hb)
    obtain ⟨ns', hnext⟩ := h.branch hnamed hwill (hbranches branch (by simp))
    refine ⟨ns', ?_⟩
    rw [List.flatten_concat, List.foldl_append]
    exact ⟨hnext.lifted, hnext.counted, hnext.listed_up, hnext.initiated, hnext.met, hnext.within,
      hnext.idle, hnext.closed, hnext.ordered, hnext.settled⟩

end Provider

end ServiceLifecycle

import ServiceLifecycle.Proofs.Incarnations
import ServiceLifecycle.Proofs.Sweep

/-!
# Components that are asked to stop

Who unschedules what refers to a service asks all running components in its reach to stop, each
once, whatever other services they refer to. If they stop when they are asked, nobody is left to
be asked a second time.

* **crew** — registered components have numbers of their own (`Registry.Numbered`), after every
  run (`Setup.numbered_after`);
* **asking** — what becomes of a provider when some components are asked to stop
  (`Provider.asking`), one after the other (`Provider.asking_concat`);
* **sweep** — whom a sweep asks (`Provider.unscheduleReferrers_asking`), and that it is complete
  and idempotent (`Setup.unscheduleReferrers_exact`).
-/

namespace ServiceLifecycle

/-! ## Crew -/

namespace Registry

variable {r r' : Registry}

/-- Who is registered as a component, and how many components there have been. -/
def crew (r : Registry) : Table ComponentId ComponentNumber × Nat := (r.roster, r.components.size)

/-- Registered components have numbers of their own. -/
structure Numbered (r : Registry) : Prop where
  within : ∀ cid c, r.roster.get? cid = some c → c < r.components.size
  distinct : ∀ cid cid' c, r.roster.get? cid = some c → r.roster.get? cid' = some c → cid = cid'

theorem Numbered.of_crew (h : r.Numbered) (hcrew : r'.crew = r.crew) : r'.Numbered := by
  obtain ⟨hroster, hsize⟩ := Prod.mk.inj hcrew
  refine ⟨?_, ?_⟩
  · rw [hroster, hsize]
    exact h.within
  · rw [hroster]
    exact h.distinct

end Registry

namespace Provider

variable {p p' : Provider} {id : ServiceId} {n : Incarnation}

theorem Handles.crew (h : Handles undisturbed p p') : p'.registry.crew = p.registry.crew := by
  induction h with
  | refl => rfl
  | tail _ htouch ih =>
    refine Eq.trans ?_ ih
    cases htouch with
    | keeps _ hledger _ hsize => exact Prod.ext (congrArg Ledger.roster hledger) hsize
    | submits | shuts | opens | yields => rfl

theorem Works.crew (h : Works undisturbed p p') : p'.registry.crew = p.registry.crew := by
  induction h with
  | refl => rfl
  | tail _ hwork ih =>
    refine Eq.trans ?_ ih
    cases hwork with
    | deed hdeed => exact hdeed.handles.crew
    | edit hedit => cases hedit <;> rfl

theorem Blames.crew (h : Blames p p') : p'.registry.crew = p.registry.crew := by
  cases h <;> rfl

theorem crew_create (p : Provider) (typeName : String) (id : ServiceId) (enabled : Bool) :
    (p.create undisturbed typeName id enabled).2.registry.crew = p.registry.crew := by
  obtain ⟨r, hworks, hblames⟩ := (creates_create undisturbed p typeName id enabled).works_blames
  exact hblames.crew.trans (Works.crew hworks)

theorem Removal.crew {id : ServiceId} {q : Except RequestError Unit × Provider}
    (h : Removal p id q) : q.2.registry.crew = p.registry.crew := by
  cases h <;> rfl

/-- A component that is registered gets the next number. -/
theorem numbered_registerComponent (h : p.registry.Numbered) (c : Component) :
    (p.registerComponent c).registry.Numbered := by
  have hold : ∀ cid k, p.registry.roster.get? cid = some k → k ≠ p.registry.components.size :=
    fun cid k hk => Nat.ne_of_lt (h.within cid k hk)
  have hroster : (p.registerComponent c).registry.roster =
      p.registry.roster.insert c.id p.registry.components.size := rfl
  have hsize : (p.registerComponent c).registry.components.size =
      p.registry.components.size + 1 := Array.size_push ..
  refine ⟨fun cid k hk => ?_, fun cid cid' k hk hk' => ?_⟩
  · rw [hsize]
    rw [hroster, Table.get?_insert] at hk
    split at hk
    · obtain rfl := Option.some.inj hk
      exact Nat.lt_succ_self _
    · exact Nat.lt_succ_of_lt (h.within cid k hk)
  · rw [hroster, Table.get?_insert] at hk hk'
    split at hk <;> split at hk'
    · next heq heq' => rw [heq, heq']
    · exact absurd (Option.some.inj hk).symm (hold cid' k hk')
    · exact absurd (Option.some.inj hk').symm (hold cid k hk)
    · exact h.distinct cid cid' k hk hk'

theorem numbered_unregisterComponent (h : p.registry.Numbered) (id : ComponentId) :
    (p.unregisterComponent id).2.registry.Numbered := by
  unfold unregisterComponent
  split
  · have hold : ∀ {cid k}, (p.registry.roster.erase id).get? cid = some k →
        p.registry.roster.get? cid = some k := by
      intro cid k hk
      rw [Table.get?_erase] at hk
      split at hk
      · cases hk
      · exact hk
    exact ⟨fun cid k hk => h.within cid k (hold hk),
      fun cid cid' k hk hk' => h.distinct cid cid' k (hold hk) (hold hk')⟩
  · exact h

theorem numbered_perform (h : p.registry.Numbered) (q : Request) :
    (p.perform undisturbed q).2.registry.Numbered := by
  cases q with
  | create typeName id enabled =>
    rw [perform_create]
    exact h.of_crew (crew_create p typeName id enabled)
  | remove id => exact h.of_crew (removal p id).crew
  | setProperty id | removeProperty id => exact h.of_crew (Works.crew (edits_edit p id _ _).works)
  | registerComponent c => exact numbered_registerComponent h c
  | unregisterComponent id => exact numbered_unregisterComponent h id
  | addReference target id =>
    refine h.of_crew ?_
    show (p.addReference target id).2.registry.crew = _
    unfold addReference
    split
    · rfl
    · split <;> rfl
  | removeReference => exact h.of_crew rfl
  | _ => exact h.of_crew (handles_perform rfl p).crew

/-- A task does nothing to the components. -/
theorem Toils.crew {i : TaskId} (h : p.Toils p' i)
    (hledger : p'.registry.ledger = p.registry.ledger) : p'.registry.crew = p.registry.crew := by
  have hcomponents : p'.registry.components = p.registry.components := by
    rcases h.tends with hspares | ⟨_, _, _, _, _, _, htends⟩
    · exact hspares.components
    · exact htends.components
  exact Prod.ext (congrArg Ledger.roster hledger) (congrArg Array.size hcomponents)

theorem numbered_step (hlaw : p.scene.Lawful) (hf : p.Furnished) (h : p.registry.Numbered)
    (e : Event) : (p.step e).registry.Numbered := by
  cases e with
  | request q => exact numbered_perform h q
  | pass | stop => exact h
  | move i => exact h.of_crew ((toils_move hlaw hf i).crew (p.ledger_move i))
  | tear i => exact h.of_crew ((toils_tear hlaw hf i).crew (p.ledger_tear i))

end Provider

/-- After every run registered components have numbers of their own. -/
theorem Setup.numbered_after (setup : Setup) (events : List Event) :
    (setup.provider.after events).registry.Numbered := by
  induction events using List.reverseRecOn with
  | nil => exact ⟨fun _ _ hc => (by cases hc), fun _ _ _ hc => (by cases hc)⟩
  | append_singleton done e ih =>
    rw [Provider.after_append]
    exact Provider.numbered_step (setup.lawful_after done) (setup.furnished_after done) ih e

/-! ## Asking -/

/-- Of all components those registered under the given names are asked to stop. -/
def Registry.stopping (r : Registry) (ids : List ComponentId) : Array Component :=
  r.components.mapIdx fun c component =>
    if ∃ cid ∈ ids, r.roster.get? cid = some c then component.requestStop else component

namespace Provider

variable {p : Provider} {id k : ServiceId} {n : Incarnation} {cid : ComponentId}
  {c : ComponentNumber} {ids : List ComponentId} {remarks : List Remark}

/-- The provider once some components have been asked to stop, and something has been said. Nothing
else changes. -/
def asking (p : Provider) (ids : List ComponentId) (remarks : List Remark) : Provider :=
  { p with registry := { p.registry with
    components := p.registry.stopping ids
    log := remarks ++ p.registry.log } }

/-- A component is registered under the name and scheduled to run. -/
def Scheduled (p : Provider) (cid : ComponentId) : Prop :=
  ∃ c, p.registry.roster.get? cid = some c ∧ (p.registry.component c).state = .running

theorem getElem?_stopping (r : Registry) (ids : List ComponentId) (c : ComponentNumber) :
    (r.stopping ids)[c]? = r.components[c]?.map fun component =>
      if ∃ cid ∈ ids, r.roster.get? cid = some c then component.requestStop else component :=
  Array.getElem?_mapIdx

theorem asking_nil (p : Provider) : p.asking [] [] = p := by
  have hstopping : p.registry.stopping [] = p.registry.components := by
    refine Array.ext_getElem? fun c => ?_
    rw [getElem?_stopping]
    simp
  unfold asking
  rw [hstopping]
  rfl

theorem component_asking (h : p.registry.Numbered) (hc : p.registry.roster.get? cid = some c) :
    (p.asking ids remarks).registry.component c =
      if cid ∈ ids then (p.registry.component c).requestStop else p.registry.component c := by
  have hiff : (∃ cid ∈ ids, p.registry.roster.get? cid = some c) ↔ cid ∈ ids := by
    constructor
    · rintro ⟨cid', hin, hc'⟩
      exact h.distinct cid cid' c hc hc' ▸ hin
    · exact fun hin => ⟨cid, hin, hc⟩
  show ((p.registry.stopping ids)[c]?).getD default = _
  unfold Registry.component
  rw [getElem?_stopping, Array.getElem?_eq_getElem (h.within cid c hc)]
  simp only [Option.map_some, Option.getD_some, hiff]

/-- One more component is asked. -/
theorem asking_concat (h : p.registry.Numbered) (hc : p.registry.roster.get? cid = some c)
    (hnew : cid ∉ ids) (remark : Remark) :
    Provider.say { p.asking ids remarks with registry :=
      (p.asking ids remarks).registry.modifyComponent c Component.requestStop } remark =
        p.asking (ids ++ [cid]) (remark :: remarks) := by
  have hcomponents : (p.registry.stopping ids).modify c Component.requestStop =
      p.registry.stopping (ids ++ [cid]) := by
    refine Array.ext_getElem? fun j => ?_
    rw [Array.getElem?_modify, getElem?_stopping, getElem?_stopping]
    split
    · next hcj =>
      subst hcj
      -- nobody else has this number
      have hold : ¬ ∃ cid' ∈ ids, p.registry.roster.get? cid' = some c := by
        rintro ⟨cid', hin, hc'⟩
        exact hnew (h.distinct cid cid' c hc hc' ▸ hin)
      have hnow : ∃ cid' ∈ ids ++ [cid], p.registry.roster.get? cid' = some c :=
        ⟨cid, by simp, hc⟩
      simp only [if_neg hold, if_pos hnow, Option.map_id']
    · next hcj =>
      have hiff : (∃ cid' ∈ ids ++ [cid], p.registry.roster.get? cid' = some j) ↔
          ∃ cid' ∈ ids, p.registry.roster.get? cid' = some j := by
        constructor
        · rintro ⟨cid', hin, hj⟩
          rcases List.mem_append.mp hin with hin | hin
          · exact ⟨cid', hin, hj⟩
          · obtain rfl := List.mem_singleton.mp hin
            exact absurd (Option.some.inj (hc.symm.trans hj)) hcj
        · rintro ⟨cid', hin, hj⟩
          exact ⟨cid', List.mem_append_left _ hin, hj⟩
      simp only [hiff]
  unfold asking Provider.say Registry.modifyComponent
  rw [← hcomponents]
  rfl

/-! ## Sweep -/

/-- What a sweep has come to that began at `p`: whom it has asked, and what it has said. -/
structure Swept (p : Provider) (stopped : OrderedSet ComponentId) (q : Provider) : Prop where
  result : ∃ remarks : List Remark, remarks.length = stopped.toList.length ∧
    q = p.asking stopped.toList remarks
  scheduled : ∀ cid ∈ stopped.toList, p.Scheduled cid

/-- The first of some components is asked if it is scheduled to run and has not been asked before. -/
theorem Swept.next {stopped : OrderedSet ComponentId} {q : Provider} (hswept : p.Swept stopped q)
    (h : p.registry.Numbered) (hc : p.registry.roster.get? cid = some c) (service : ServiceId)
    (ids : List ComponentId) :
    ∃ stopped' q', stopComponents undisturbed service (cid :: ids) stopped q =
        stopComponents undisturbed service ids stopped' q' ∧ p.Swept stopped' q' ∧
      ∀ cid', cid' ∈ stopped'.toList ↔ cid' ∈ stopped.toList ∨ cid' = cid ∧ p.Scheduled cid' := by
  obtain ⟨⟨remarks, hlength, rfl⟩, hscheduled⟩ := hswept
  have hroster : (p.asking stopped.toList remarks).registry.roster.get? cid = some c := hc
  have hstate : p.Scheduled cid ↔ (p.registry.component c).state = .running := by
    constructor
    · rintro ⟨c', hc', hstate⟩
      obtain rfl : c = c' := Option.some.inj (hc.symm.trans hc')
      exact hstate
    · exact fun hstate => ⟨c, hc, hstate⟩
  rw [Provider.stopComponents]
  simp only [hroster, askComponent_undisturbed, component_asking h hc]
  by_cases hin : cid ∈ stopped.toList
  · have hcontains : stopped.contains cid = true := OrderedSet.contains_iff.mpr hin
    simp only [hcontains, Bool.not_true, Bool.and_false, Bool.false_eq_true, if_false]
    refine ⟨stopped, _, rfl, ⟨⟨remarks, hlength, rfl⟩, hscheduled⟩, fun cid' => ?_⟩
    exact (or_iff_left_of_imp (by rintro ⟨rfl, -⟩; exact hin)).symm
  · have hcontains : stopped.contains cid = false := by
      rw [Bool.eq_false_iff, ne_eq, OrderedSet.contains_iff]
      exact hin
    rw [if_neg hin, hcontains, Bool.not_false, Bool.and_true]
    split
    · next hrunning =>
      have hsch : p.Scheduled cid := hstate.mpr (of_decide_eq_true hrunning)
      have hinsert : (stopped.insert cid).toList = stopped.toList ++ [cid] := by
        rw [OrderedSet.insert, dif_neg hin]
      have hmem : ∀ cid', cid' ∈ (stopped.insert cid).toList ↔
          cid' ∈ stopped.toList ∨ cid' = cid ∧ p.Scheduled cid' := by
        intro cid'
        rw [OrderedSet.mem_insert]
        refine or_congr_right (iff_self_and.mpr ?_)
        rintro rfl
        exact hsch
      rw [asking_concat h hc hin, ← hinsert]
      refine ⟨stopped.insert cid, _, rfl, ⟨⟨_, ?_, rfl⟩, fun cid' hcid' => ?_⟩, hmem⟩
      · rw [hinsert, List.length_append, List.length_cons, hlength]
        rfl
      · exact ((hmem cid').mp hcid').elim (hscheduled cid') (·.2)
    · next hrests =>
      have hsch : ¬ p.Scheduled cid := fun hsch => hrests (decide_eq_true (hstate.mp hsch))
      refine ⟨stopped, _, rfl, ⟨⟨remarks, hlength, rfl⟩, hscheduled⟩, fun cid' => ?_⟩
      exact (or_iff_left_of_imp (by rintro ⟨rfl, h⟩; exact absurd h hsch)).symm

/-- Of some registered components those are asked that are scheduled to run and have not been asked
before. -/
theorem Swept.stopComponents {stopped : OrderedSet ComponentId} {q : Provider}
    (hswept : p.Swept stopped q) (h : p.registry.Numbered) (service : ServiceId)
    (hids : ∀ cid ∈ ids, p.registry.roster.contains cid = true) :
    p.Swept (stopComponents undisturbed service ids stopped q).1
        (stopComponents undisturbed service ids stopped q).2 ∧
      ∀ cid, cid ∈ (stopComponents undisturbed service ids stopped q).1.toList ↔
        cid ∈ stopped.toList ∨ cid ∈ ids ∧ p.Scheduled cid := by
  induction ids generalizing stopped q with
  | nil => exact ⟨hswept, by simp [Provider.stopComponents]⟩
  | cons cid ids ih =>
    obtain ⟨c, hc⟩ := Table.contains_iff.mp (hids cid List.mem_cons_self)
    obtain ⟨stopped', q', heq, hswept', hmem'⟩ := hswept.next h hc service ids
    obtain ⟨hlast, hmem⟩ := ih hswept' fun cid hcid => hids cid (List.mem_cons_of_mem _ hcid)
    rw [heq]
    refine ⟨hlast, fun cid' => ?_⟩
    rw [hmem, hmem', List.mem_cons, or_and_right, or_assoc]

/-- A sweep asks the registered components that are scheduled to run and refer to the service or
to one that is found to refer to it, each once. -/
theorem unscheduleReferrers_asking (h : p.registry.Numbered)
    (hrecorded : ∀ y, ∀ cid ∈ p.registry.referrers.components y,
      p.registry.roster.contains cid = true)
    (hn : p.registry.find? id = some n) : ∃ asked remarks,
      p.unscheduleReferrers undisturbed id = (.ok asked, p.asking asked remarks) ∧
      asked.Nodup ∧ remarks.length = asked.length ∧
      ∀ cid, cid ∈ asked ↔ p.Scheduled cid ∧ ∃ k ∈ id :: p.registry.recursiveReferrers id,
        cid ∈ p.registry.referrers.components k := by
  have gen : ∀ (ks : List ServiceId) (acc : OrderedSet ComponentId × Provider),
      p.Swept acc.1 acc.2 →
      let result := ks.foldl (fun acc service => Provider.stopComponents undisturbed service
        (acc.2.registry.referrers.components service) acc.1 acc.2) acc
      p.Swept result.1 result.2 ∧ ∀ cid, cid ∈ result.1.toList ↔ cid ∈ acc.1.toList ∨
        p.Scheduled cid ∧ ∃ k ∈ ks, cid ∈ p.registry.referrers.components k := by
    intro ks
    induction ks with
    | nil => exact fun acc hacc => ⟨hacc, by simp⟩
    | cons k ks ih =>
      intro acc hacc
      have hreferrers : acc.2.registry.referrers = p.registry.referrers := by
        obtain ⟨remarks, -, heq⟩ := hacc.result
        rw [heq]
        rfl
      obtain ⟨hfirst, hmem⟩ := hacc.stopComponents h k (hrecorded k)
      rw [← hreferrers] at hfirst hmem
      obtain ⟨hlast, hmem'⟩ := ih _ hfirst
      refine ⟨hlast, fun cid => (hmem' cid).trans ?_⟩
      rw [hmem, hreferrers]
      simp only [List.mem_cons, exists_eq_or_imp]
      tauto
  obtain ⟨hswept, hmem⟩ := gen (id :: p.registry.recursiveReferrers id) (.empty, p)
    ⟨⟨[], rfl, p.asking_nil.symm⟩, fun _ hcid => by cases hcid⟩
  obtain ⟨remarks, hlength, hq⟩ := hswept.result
  unfold unscheduleReferrers
  rw [hn]
  refine ⟨_, remarks, Prod.ext rfl hq, OrderedSet.nodup _, hlength, fun cid => (hmem cid).trans ?_⟩
  exact or_iff_right (fun hcid => by cases hcid)

/-- Whom a sweep has asked is not scheduled to run any more, if it stops when it is asked. -/
theorem not_scheduled_asking (h : p.registry.Numbered)
    (hstops : ∀ cid ∈ ids, ∀ c, p.registry.roster.get? cid = some c →
      (p.registry.component c).requestStop.state ≠ .running) (hcid : cid ∈ ids) :
    ¬ (p.asking ids remarks).Scheduled cid := by
  rintro ⟨c, hc, hstate⟩
  have hc : p.registry.roster.get? cid = some c := hc
  rw [component_asking h hc, if_pos hcid] at hstate
  exact hstops cid hcid c hc hstate

theorem scheduled_of_asking (h : p.registry.Numbered) (hcid : cid ∉ ids)
    (hscheduled : (p.asking ids remarks).Scheduled cid) : p.Scheduled cid := by
  obtain ⟨c, hc, hstate⟩ := hscheduled
  have hc : p.registry.roster.get? cid = some c := hc
  rw [component_asking h hc, if_neg hcid] at hstate
  exact ⟨c, hc, hstate⟩

theorem numbered_asking (h : p.registry.Numbered) (ids : List ComponentId)
    (remarks : List Remark) : (p.asking ids remarks).registry.Numbered :=
  h.of_crew (Prod.ext rfl Array.size_mapIdx)

/-- If those asked stop when they are asked, a second sweep asks nobody and says nothing. -/
theorem unscheduleReferrers_again (h : p.registry.Numbered)
    (hrecorded : ∀ y, ∀ cid ∈ p.registry.referrers.components y,
      p.registry.roster.contains cid = true)
    (hn : p.registry.find? id = some n)
    (hids : ∀ cid, (p.Scheduled cid ∧ ∃ k ∈ id :: p.registry.recursiveReferrers id,
      cid ∈ p.registry.referrers.components k) → cid ∈ ids)
    (hstops : ∀ cid ∈ ids, ∀ c, p.registry.roster.get? cid = some c →
      (p.registry.component c).requestStop.state ≠ .running) :
    (p.asking ids remarks).unscheduleReferrers undisturbed id = (.ok [], p.asking ids remarks) := by
  obtain ⟨asked, remarks', heq, -, hlength, hmem⟩ :=
    unscheduleReferrers_asking (p := p.asking ids remarks) (numbered_asking h ids remarks)
      hrecorded hn
  have hnobody : asked = [] := by
    refine List.eq_nil_iff_forall_not_mem.mpr fun cid hcid => ?_
    obtain ⟨hscheduled, hreach⟩ := (hmem cid).mp hcid
    by_cases hin : cid ∈ ids
    · exact not_scheduled_asking h hstops hin hscheduled
    · exact hin (hids cid ⟨scheduled_of_asking h hin hscheduled, hreach⟩)
  subst hnobody
  obtain rfl := List.eq_nil_of_length_eq_zero hlength
  rw [heq, asking_nil]

end Provider

namespace Setup

/-- **Unscheduling is complete and idempotent.** After every run, who unschedules what refers to a
registered service asks exactly the components to stop that are scheduled to run and refer to the
service or to one from which references lead to it. Each is asked once, and these are the answer.
Nothing else changes but that for each something is said. If they stop when they are asked, none
of them is scheduled to run afterwards, and who does it again asks nobody and changes nothing. -/
theorem unscheduleReferrers_exact (setup : Setup) (events : List Event) {id : ServiceId}
    {n : Incarnation} (hn : (setup.provider.after events).registry.find? id = some n) :
    let p := setup.provider.after events
    ∃ (asked : List ComponentId) (remarks : List Remark),
      let q := p.asking asked remarks
      p.unscheduleReferrers undisturbed id = (.ok asked, q) ∧
      asked.Nodup ∧ remarks.length = asked.length ∧
      (∀ cid, cid ∈ asked ↔ p.Scheduled cid ∧
        ∃ k, (∃ j, p.Leads j k id) ∧ .component cid ∈ p.registry.referrers.of k) ∧
      (∀ cid c, p.registry.roster.get? cid = some c → q.registry.component c =
        if cid ∈ asked then (p.registry.component c).requestStop else p.registry.component c) ∧
      ((∀ cid ∈ asked, ∀ c, p.registry.roster.get? cid = some c →
          (p.registry.component c).requestStop.state ≠ .running) →
        (∀ cid ∈ asked, ¬ q.Scheduled cid) ∧
          q.unscheduleReferrers undisturbed id = (.ok [], q)) := by
  intro p
  have hnumbered : p.registry.Numbered := setup.numbered_after events
  have hnamed : Scene.Named p.scene := (setup.lawful_after events).orderly.named
  have hrecorded : ∀ y, ∀ cid ∈ p.registry.referrers.components y,
      p.registry.roster.contains cid = true := by
    intro y cid hcid
    exact ((setup.referenced_after events).components y cid
      (Referrers.has_iff.mpr (Referrers.mem_components_iff.mp hcid))).1
  have hreach : ∀ k, k ∈ id :: p.registry.recursiveReferrers id ↔ ∃ j, p.Leads j k id := by
    intro k
    rw [List.mem_cons, Provider.mem_recursiveReferrers_iff hnamed]
    constructor
    · rintro (rfl | ⟨-, hleads⟩)
      · exact ⟨0, .refl k⟩
      · exact hleads
    · intro hleads
      by_cases heq : k = id
      · exact .inl heq
      · exact .inr ⟨heq, hleads⟩
  obtain ⟨asked, remarks, heq, hnodup, hlength, hmem⟩ :=
    Provider.unscheduleReferrers_asking hnumbered hrecorded hn
  refine ⟨asked, remarks, heq, hnodup, hlength, fun cid => ?_,
    fun cid c hc => Provider.component_asking hnumbered hc, fun hstops => ?_⟩
  · rw [hmem]
    simp only [hreach, Referrers.mem_components_iff]
  · exact ⟨fun cid hcid => Provider.not_scheduled_asking hnumbered hstops hcid,
      Provider.unscheduleReferrers_again hnumbered hrecorded hn (fun cid => (hmem cid).mpr) hstops⟩

/-- Two services refer to each other and a third one to the first of them. A component refers to
two of these, another one to the third, one that does not run to the first, and the last one to a
service apart. -/
def sharedRun : List Event :=
  [.request (.create "plain" ⟨"a"⟩ false), .request (.create "plain" ⟨"b"⟩ false),
    .request (.create "plain" ⟨"c"⟩ false), .request (.create "plain" ⟨"d"⟩ false),
    .request (.setProperty ⟨"a"⟩ "upstream" "b"), .request (.setProperty ⟨"b"⟩ "upstream" "a"),
    .request (.setProperty ⟨"c"⟩ "upstream" "a"),
    .request (.registerComponent { id := ⟨"w"⟩, state := .running }),
    .request (.registerComponent { id := ⟨"x"⟩, state := .running }),
    .request (.registerComponent { id := ⟨"y"⟩ }),
    .request (.registerComponent { id := ⟨"z"⟩, state := .running }),
    .request (.addReference ⟨"b"⟩ ⟨"x"⟩), .request (.addReference ⟨"c"⟩ ⟨"x"⟩),
    .request (.addReference ⟨"c"⟩ ⟨"w"⟩), .request (.addReference ⟨"a"⟩ ⟨"y"⟩),
    .request (.addReference ⟨"d"⟩ ⟨"z"⟩)]

/-- The two in reach are asked, each once, and stop. -/
theorem unscheduleReferrers_exact_shared :
    let p := plain.provider.after sharedRun
    p.registry.find? ⟨"a"⟩ = some 0 ∧
      ∃ remarks, p.unscheduleReferrers undisturbed ⟨"a"⟩ =
          (.ok [⟨"x"⟩, ⟨"w"⟩], p.asking [⟨"x"⟩, ⟨"w"⟩] remarks) ∧
        (p.asking [⟨"x"⟩, ⟨"w"⟩] remarks).unscheduleReferrers undisturbed ⟨"a"⟩ =
          (.ok [], p.asking [⟨"x"⟩, ⟨"w"⟩] remarks) := by
  intro p
  have hfind : p.registry.find? ⟨"a"⟩ = some 0 := by decide +kernel
  obtain ⟨asked, remarks, heq, -, -, -, -, hagain⟩ :=
    unscheduleReferrers_exact plain sharedRun hfind
  have hasked : (p.unscheduleReferrers undisturbed ⟨"a"⟩).1.toOption = some [⟨"x"⟩, ⟨"w"⟩] := by
    decide +kernel
  obtain rfl : asked = [⟨"x"⟩, ⟨"w"⟩] := by
    rw [heq] at hasked
    exact Option.some.inj hasked
  have hroster : p.registry.roster.get? ⟨"x"⟩ = some 1 ∧ p.registry.roster.get? ⟨"w"⟩ = some 0 := by
    decide +kernel
  refine ⟨hfind, remarks, heq, (hagain fun cid hcid c hc => ?_).2⟩
  rcases List.mem_cons.mp hcid with rfl | hcid
  · obtain rfl := Option.some.inj (hroster.1.symm.trans hc)
    decide +kernel
  · obtain rfl := List.mem_singleton.mp hcid
    obtain rfl := Option.some.inj (hroster.2.symm.trans hc)
    decide +kernel

end Setup

end ServiceLifecycle

import ServiceLifecycle.Proofs.Ledger

/-!
# What requests do that are no edits

Requests that are no edits keep what is on record and do little else: they submit tasks, begin
transitions, set up the state of a component or shut the scheduler down, whoever gets in before
they are done. So whatever these few things keep, such a request keeps.

* **touches** — the single things that are done with the ledger kept (`Provider.Touches`), and
  several of them, one after the other (`Provider.Handles`);
* **deeds** — the same, but told service by service (`Provider.Deed`, `Provider.Deeds`);
* **requests** — every request but an edit is made up of them (`Provider.deeds_perform`,
  `Provider.handles_perform`).
-/

namespace ServiceLifecycle

open Relation

namespace Provider

variable {between : Interference} {p p' : Provider}

/-! ## Touches -/

/-- A single thing that is done with the ledger kept. No component comes in or goes away. -/
inductive Touches (between : Interference) (p : Provider) : Provider → Prop
  | keeps {p' : Provider} : p'.tasks = p.tasks → p'.registry.ledger = p.registry.ledger →
      p'.registry.memory = p.registry.memory →
      p'.registry.components.size = p.registry.components.size → Touches between p p'
  | submits (job : Job) (gates : List TaskId) : Touches between p (p.submit job gates).2
  | shuts : Touches between p { p with tasks := p.tasks.shutdown }
  /-- The state of a component is looked at, and set up if need be. -/
  | opens (component : String) :
      Touches between p { p with registry :=
        { p.registry with memory := (p.registry.memory.acquire component).2 } }
  /-- Others get in. -/
  | yields (probe : Probe) : Touches between p (between probe p)

/-- Several such things are done, one after the other. -/
abbrev Handles (between : Interference) : Provider → Provider → Prop :=
  ReflTransGen (Touches between)

theorem Handles.keep {p'' : Provider} (h : Handles between p p') (htasks : p''.tasks = p'.tasks)
    (hledger : p''.registry.ledger = p'.registry.ledger)
    (hmemory : p''.registry.memory = p'.registry.memory)
    (hsize : p''.registry.components.size = p'.registry.components.size) :
    Handles between p p'' :=
  h.tail (.keeps htasks hledger hmemory hsize)

theorem Handles.say (h : Handles between p p') (remark : Remark) :
    Handles between p (p'.say remark) := h.keep rfl rfl rfl rfl

theorem handles_of_eq (htasks : p'.tasks = p.tasks)
    (hledger : p'.registry.ledger = p.registry.ledger)
    (hmemory : p'.registry.memory = p.registry.memory)
    (hsize : p'.registry.components.size = p.registry.components.size) : Handles between p p' :=
  .single (.keeps htasks hledger hmemory hsize)

theorem Handles.modify (h : Handles between p p') (n : Incarnation) {f : Service → Service}
    (hf : ∀ s, (f s).card = s.card) : Handles between p (p'.modify n f) :=
  h.tail (.keeps rfl (Registry.ledger_modify f hf) rfl rfl)

/-! ## Deeds -/

/-- Nothing tells one provider from another but what was said, how components are doing and who
watches. -/
structure Alike (p p' : Provider) : Prop where
  ambushes : p'.ambushes = p.ambushes
  tasks : p'.tasks = p.tasks
  services : p'.registry.services = p.registry.services
  ledger : p'.registry.ledger = p.registry.ledger
  memory : p'.registry.memory = p.registry.memory
  components : p'.registry.components.size = p.registry.components.size

/-- A single thing that a request does that is no edit, service by service. -/
inductive Deed (between : Interference) (p : Provider) : Provider → Prop
  | calm {p' : Provider} : Alike p p' → Deed between p p'
  | submits (job : Job) (gates : List TaskId) : Deed between p (p.submit job gates).2
  | shuts : Deed between p { p with tasks := p.tasks.shutdown }
  | opens (component : String) :
      Deed between p { p with registry :=
        { p.registry with memory := (p.registry.memory.acquire component).2 } }
  /-- Others get in. -/
  | yields (probe : Probe) : Deed between p (between probe p)
  /-- A transition begins. -/
  | departs (d : Direction) (n : Incarnation) : (d = .up → (p.service n).state = .disabled) →
      Deed between p (p.modify n fun s => { s.publish d.via with fault := none })
  /-- A service is told which task is to take it through its transition. -/
  | assigns (n : Incarnation) (i : TaskId) :
      Deed between p (p.modify n fun s => { s with transition := some i })

/-- Several such things are done, one after the other. -/
abbrev Deeds (between : Interference) : Provider → Provider → Prop := ReflTransGen (Deed between)

theorem Deed.handles (h : Deed between p p') : Handles between p p' := by
  cases h with
  | calm halike => exact handles_of_eq halike.tasks halike.ledger halike.memory halike.components
  | submits job gates => exact .single (.submits job gates)
  | shuts => exact .single .shuts
  | opens component => exact .single (.opens component)
  | yields probe => exact .single (.yields probe)
  | departs d n => exact Handles.modify .refl n fun _ => rfl
  | assigns n i => exact Handles.modify .refl n fun _ => rfl

/-- None of it goes on record. -/
theorem Deeds.handles (h : Deeds between p p') : Handles between p p' := by
  induction h with
  | refl => exact .refl
  | tail _ hdeed ih => exact ih.trans hdeed.handles

theorem Deeds.keep {p'' : Provider} (h : Deeds between p p') (halike : Alike p' p'') :
    Deeds between p p'' := h.tail (.calm halike)

theorem Deeds.say (h : Deeds between p p') (remark : Remark) :
    Deeds between p (p'.say remark) := h.keep ⟨rfl, rfl, rfl, rfl, rfl, rfl⟩

theorem Deeds.sayAll (h : Deeds between p p') (remarks : List Remark) :
    Deeds between p { p' with registry := p'.registry.sayAll remarks } := by
  rw [sayAll_eq]
  exact h.keep ⟨rfl, rfl, rfl, rfl, rfl, rfl⟩

theorem alike_modifyComponent (p : Provider) (c : ComponentNumber) (f : Component → Component) :
    Alike p { p with registry := p.registry.modifyComponent c f } :=
  ⟨rfl, rfl, rfl, rfl, rfl, Registry.size_modifyComponent ..⟩

theorem Deeds.yield (probe : Probe) (p' : Provider) (h : Deeds between p p') :
    Deeds between p (between probe p') := h.tail (.yields probe)

theorem deeds_askComponent (h : Deeds between p p') (c : ComponentNumber) :
    Deeds between p (p'.askComponent between c).2 := kept_askComponent Deeds.yield h c

theorem deeds_claim (h : Deeds between p p') (d : Direction) (n : Incarnation) (job : Job)
    (gates : List TaskId) (confirm : Provider → Except RequestError Unit × Provider)
    (hconfirm : Deeds between p' (confirm p').2) (hup : d = .up → (confirm p').2 = p') :
    Deeds between p (p'.claim n d.origin d.via job gates confirm).2 := by
  have hclaiming := claiming p' n d.origin d.via job gates confirm
  generalize p'.claim n d.origin d.via job gates confirm = result at hclaiming ⊢
  cases hclaiming with
  | removed | busy => exact h
  | rejected _ _ heq =>
    rw [heq] at hconfirm
    exact h.trans hconfirm
  | @granted q _ hstate heq =>
    rw [heq] at hconfirm hup
    have hdown : d = .up → (q.service n).state = .disabled := by
      intro hd
      obtain rfl : q = p' := hup hd
      subst hd
      exact hstate
    have hmoved := (h.trans hconfirm).tail (.departs d n hdown)
    have hsubmitted := hmoved.tail (.submits job gates)
    exact hsubmitted.tail (.assigns n _)

/-! ## On the way up -/

theorem deeds_submitStep (h : Deeds between p p') (n : Incarnation) (gate : Option TaskId)
    (willEnable : List ServiceId) : Deeds between p (p'.submitStep n gate willEnable).2.2 := by
  have hclaim : Deeds between p (p'.claim n .disabled .enabling (.enable n) gate.toList
      fun p => (p.verifyDependenciesUp n willEnable, p)).2 :=
    deeds_claim h .up n (.enable n) gate.toList _ .refl fun _ => rfl
  unfold submitStep
  split <;> rename_i heq <;> rw [heq] at hclaim
  · exact hclaim.keep ⟨rfl, rfl, rfl, rfl, rfl, rfl⟩
  · exact (hclaim.say _).tail (.submits _ _)
  · exact hclaim.tail (.submits _ _)
  · exact hclaim.tail (.submits _ _)

theorem deeds_submitBranch (branch : List (Graph.Vertex Incarnation))
    (willEnable : List ServiceId) (initiated : OrderedSet ServiceId) (h : Deeds between p p') :
    Deeds between p (submitBranch branch willEnable initiated p').2 :=
  kept_submitBranch (I := Deeds between p)
    (fun v _ gate _ h => deeds_submitStep h v.item gate willEnable) initiated h

theorem deeds_submitBranches (branches : List (List (Graph.Vertex Incarnation)))
    (willEnable : List ServiceId) (h : Deeds between p p') :
    Deeds between p (submitBranches branches willEnable p').2 :=
  kept_submitBranches (I := Deeds between p)
    (fun branch _ initiated _ h => deeds_submitBranch branch willEnable initiated h) h

theorem deeds_foldl_sayNotes (walks : List (Graph.Walk Incarnation)) (h : Deeds between p p') :
    Deeds between p (walks.foldl sayNotes p') :=
  List.foldlRecOn (motive := Deeds between p) walks sayNotes h fun _ h _ _ => h.sayAll _

theorem deeds_enable (p : Provider) (id : ServiceId) :
    Deeds between p (p.enable between id).2 := by
  unfold enable
  split
  · exact .refl
  · next n _ =>
    dsimp only
    split
    · exact .refl
    · have hcheck := kept_verifyCanEnable (I := Deeds between p) Deeds.yield .refl n []
      split
      · next heq =>
        rw [heq] at hcheck
        exact hcheck
      · next q heq =>
        rw [heq] at hcheck
        let walk := Graph.walkFrom (q.registry.dependencyGraph [n]) (q.registry.vertex n)
        have hall := deeds_submitBranch walk.branch [] .empty
          (hcheck.sayAll (walk.notes.reverse.map fun n => ⟨.trace, n.text⟩))
        split
        · split
          · exact hall
          · split <;> exact hall
        · exact hall

theorem deeds_enableServices (p : Provider) (ns : List Incarnation) :
    Deeds between p (p.enableServices between ns).2 := by
  have hselect := kept_selectTargets (I := Deeds between p)
    (fun _ _ h => h.keep ⟨rfl, rfl, rfl, rfl, rfl, rfl⟩) ns .refl
  unfold enableServices
  split
  · next heq =>
    rw [heq] at hselect
    exact hselect
  · next targets q heq =>
    rw [heq] at hselect
    have hcheck := kept_verifyAll Deeds.yield (targets.map fun n => (q.service n).id) targets
      hselect
    dsimp only
    split <;> rename_i heq <;> rw [heq] at hcheck
    · exact hcheck
    · exact deeds_submitBranches _ _ (deeds_foldl_sayNotes _ hcheck)

theorem deeds_enableAll (p : Provider) (ids : List ServiceId) :
    Deeds between p (p.enableAll between ids).2 := by
  unfold enableAll
  split
  · exact .refl
  · exact deeds_enableServices p _

theorem deeds_enableReferrers (p : Provider) (id : ServiceId) :
    Deeds between p (p.enableReferrers between id).2 := by
  unfold enableReferrers
  split
  · exact .refl
  · split
    · exact deeds_enableServices p _
    · exact .refl

/-! ## On the way down -/

theorem deeds_claimDown (h : Deeds between p p') (n : Incarnation) (excluded : List ServiceId)
    (gate : Option TaskId) : Deeds between p (p'.claimDown between n excluded gate).2 := by
  have hclaim : Deeds between p (p'.claim n .enabled .disabling (.disable n) gate.toList
      fun p => p.verifyNoActiveReferrers between n excluded).2 :=
    deeds_claim h .down n (.disable n) gate.toList _
      (kept_verifyNoActiveReferrers Deeds.yield .refl n excluded) fun heq => nomatch heq
  unfold claimDown
  split <;> rename_i heq <;> rw [heq] at hclaim
  · exact hclaim.keep ⟨rfl, rfl, rfl, rfl, rfl, rfl⟩
  · exact hclaim

theorem deeds_disable (p : Provider) (id : ServiceId) :
    Deeds between p (p.disable between id).2 := by
  unfold disable
  split
  · exact .refl
  · next n _ =>
    dsimp only
    split
    · exact .refl
    · have hcheck := kept_verifyNoActiveReferrers (I := Deeds between p) Deeds.yield .refl n []
      split <;> rename_i heq <;> rw [heq] at hcheck
      · exact hcheck
      · have hclaim := deeds_claimDown hcheck n [] none
        split <;>
        · next heq =>
          rw [heq] at hclaim
          exact hclaim

theorem deeds_claimChain (excluded : List ServiceId) (order : List (Graph.Vertex Incarnation))
    (gate : Option TaskId) (h : Deeds between p p') :
    Deeds between p (claimChain between excluded order gate p').2 := by
  induction order generalizing gate p' with
  | nil => exact h
  | cons v order ih =>
    have hclaim := deeds_claimDown h v.item excluded gate
    unfold claimChain
    split <;> rename_i heq <;> rw [heq] at hclaim
    · next i _ =>
      have hrest := ih (some i) hclaim
      split <;>
      · next heq =>
        rw [heq] at hrest
        exact hrest
    · exact hclaim
    · exact ih gate (hclaim.keep ⟨rfl, rfl, rfl, rfl, rfl, rfl⟩)

theorem deeds_disableReferrers (p : Provider) (id : ServiceId) :
    Deeds between p (p.disableReferrers between id).2 := by
  unfold disableReferrers
  split
  · exact .refl
  · split
    · exact .refl
    · next targets _ =>
      have hcheck := kept_verifyNoneInUse (I := Deeds between p) Deeds.yield targets .refl
      split <;> rename_i heq <;> rw [heq] at hcheck
      · exact hcheck
      · exact deeds_claimChain _ _ none (hcheck.sayAll _)

/-! ## Components -/

theorem deeds_stopComponents (service : ServiceId) (ids : List ComponentId)
    (stopped : OrderedSet ComponentId) (h : Deeds between p p') :
    Deeds between p (stopComponents between service ids stopped p').2 := by
  induction ids generalizing stopped p' with
  | nil => exact h
  | cons id ids ih =>
    unfold stopComponents
    split
    · exact ih stopped (h.keep ⟨rfl, rfl, rfl, rfl, rfl, rfl⟩)
    · next c _ =>
      have hask := deeds_askComponent h c
      dsimp only
      split
      · exact ih _ ((hask.keep (alike_modifyComponent _ _ _)).say _)
      · exact ih _ hask

theorem deeds_unscheduleReferrers (p : Provider) (id : ServiceId) :
    Deeds between p (p.unscheduleReferrers between id).2 := by
  unfold unscheduleReferrers
  split
  · exact .refl
  · exact List.foldlRecOn
      (motive := fun acc : OrderedSet ComponentId × Provider => Deeds between p acc.2) _ _ .refl
      fun acc h service _ => deeds_stopComponents service _ acc.1 h

theorem deeds_startComponents (service : ServiceId) (ids : List ComponentId)
    (h : Deeds between p p') :
    Deeds between p (startComponents between service ids p').2 := by
  induction ids generalizing p' with
  | nil => exact h
  | cons id ids ih =>
    unfold startComponents
    split
    · exact ih h
    · next c _ =>
      have hask := deeds_askComponent h c
      dsimp only
      split
      · exact ih ((hask.keep (alike_modifyComponent _ c _)).say _)
      · exact ih hask

theorem deeds_scheduleReferrers (p : Provider) (id : ServiceId) :
    Deeds between p (p.scheduleReferrers between id).2 := by
  unfold scheduleReferrers
  split
  · exact .refl
  · split
    · exact deeds_startComponents id _ .refl
    · exact .refl

end Provider

/-! ## Requests -/

/-- Whether a request edits what is on record. -/
def Request.isEdit : Request → Bool
  | .create _ _ _ | .remove _ | .setProperty _ _ _ | .removeProperty _ _ | .registerComponent _
  | .unregisterComponent _ | .addReference _ _ | .removeReference _ _ => true
  | _ => false

/-- Every request but an edit, and but one that sets up what others do, is made up of such deeds. -/
theorem Provider.deeds_perform {between : Interference} {q : Request} (hq : q.isEdit = false)
    (harm : ∀ probe requests, q ≠ .arm probe requests) (p : Provider) :
    Deeds between p (p.perform between q).2 := by
  cases q with
  | create | remove | setProperty | removeProperty | registerComponent | unregisterComponent
  | addReference | removeReference => cases hq
  | enable id => exact deeds_enable p id
  | disable id => exact deeds_disable p id
  | enableAll ids => exact deeds_enableAll p ids
  | enableReferrers id => exact deeds_enableReferrers p id
  | disableReferrers id => exact deeds_disableReferrers p id
  | unscheduleReferrers id => exact deeds_unscheduleReferrers p id
  | scheduleReferrers id => exact deeds_scheduleReferrers p id
  | shutdown => exact Deeds.say (.single .shuts) _
  | orderBranches ids => exact deeds_foldl_sayNotes (p.walksOf ids) .refl
  | inspectComponent id =>
    unfold perform
    dsimp only
    split
    · exact .refl
    · exact deeds_askComponent .refl _
  | setComponent id =>
    unfold perform setComponent
    dsimp only
    split
    · exact .refl
    · exact Deeds.keep .refl (alike_modifyComponent p _ _)
  | task i =>
    unfold perform
    dsimp only
    split <;> exact .refl
  | subscribe id =>
    unfold perform subscribe
    dsimp only
    split <;> exact Deeds.keep .refl ⟨rfl, rfl, rfl, rfl, rfl, rfl⟩
  | lookForChange id =>
    unfold perform lookForChange
    dsimp only
    split <;> exact Deeds.keep .refl ⟨rfl, rfl, rfl, rfl, rfl, rfl⟩
  | readMemory id => exact .single (.opens id.text)
  | arm probe requests => exact absurd rfl (harm probe requests)
  | listReferrers | listRecursiveReferrers | listServices | inspect | property | query | describe
  | counts | configuration | countCalls | readJournal | holdsMemory | unreadable => exact .refl

/-- Every request but an edit keeps what is on record. -/
theorem Provider.handles_perform {between : Interference} {q : Request} (hq : q.isEdit = false)
    (p : Provider) : Handles between p (p.perform between q).2 := by
  by_cases harm : ∃ probe requests, q = .arm probe requests
  · obtain ⟨probe, requests, rfl⟩ := harm
    exact handles_of_eq rfl rfl rfl rfl
  · exact (deeds_perform hq (fun probe requests heq => harm ⟨probe, requests, heq⟩) p).handles

end ServiceLifecycle

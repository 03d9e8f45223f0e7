import ServiceLifecycle.Proofs.Footprint
import ServiceLifecycle.Proofs.Operation
import ServiceLifecycle.Proofs.Ownership
import ServiceLifecycle.Proofs.References

/-!
# One incarnation after another

A service that is removed is gone for good. What was recorded of it is taken back, its memory is
given up together with every handle on it, and a service that is created under the same name
afterwards starts from nothing. Tasks that were submitted for the old one may still have turns
then. They do nothing to the new one.

* **requests** — what a request but a removal makes of names and memory (`Registry.Retains`), and
  what a removal does (`Provider.Removes`);
* **toil** — what a task makes of services and memory (`Provider.Toils`);
* **memory** — the memory is in order, every hook that is asleep has that of its service, and
  nobody has written for a name that is free (`Provider.Furnished`);
* **removal** — what is left of a service once it is removed, whatever happens next
  (`Setup.removed_for_good`).
-/

namespace ServiceLifecycle

open Relation Memory

/-! ## Requests -/

namespace Registry

variable {r r' r'' : Registry}

/-- Names stay taken, and no more is done to the memory than to set some up. -/
structure Retains (r r' : Registry) : Prop where
  names : ∀ id n, r.find? id = some n → r'.find? id = some n
  memory : ∃ components : List String, r'.memory = r.memory.after (components.map .acquire)

theorem retains_of_eq (hnames : r'.names = r.names) (hmemory : r'.memory = r.memory) :
    r.Retains r' :=
  ⟨fun id n hn => by rwa [find?, hnames], [], hmemory⟩

theorem Retains.refl (r : Registry) : r.Retains r := retains_of_eq rfl rfl

theorem Retains.trans (h : r.Retains r') (h' : r'.Retains r'') : r.Retains r'' := by
  obtain ⟨components, hmemory⟩ := h.memory
  obtain ⟨components', hmemory'⟩ := h'.memory
  refine ⟨fun id n hn => h'.names id n (h.names id n hn), components ++ components', ?_⟩
  rw [hmemory', hmemory, ← Memory.after_append, List.map_append]

end Registry

/-- A task is that of a transition, or is to see whether a service is up. -/
theorem Scene.Gated.job_cases {S : Scene} {i : TaskId} {t : Task Job HookRun} (h : S.Gated)
    (ht : S.task? i = some t) :
    (∃ (d : Direction) (n : Incarnation), t.job = some (d.job n)) ∨
      ∃ n, t.job = some (.confirm n) := by
  obtain ⟨job, hjob, -⟩ := h.employed i t ht
  cases job with
  | enable n => exact .inl ⟨.up, n, hjob⟩
  | disable n => exact .inl ⟨.down, n, hjob⟩
  | confirm n => exact .inr ⟨n, hjob⟩

namespace Provider

open Registry

variable {p p' : Provider} {id : ServiceId} {n m : Incarnation} {i : TaskId} {e : Event}

theorem Handles.retains (h : Handles undisturbed p p') : p.registry.Retains p'.registry := by
  induction h with
  | refl => exact .refl _
  | tail _ htouch ih =>
    refine ih.trans ?_
    cases htouch with
    | keeps _ hledger hmemory => exact retains_of_eq (congrArg Ledger.names hledger) hmemory
    | submits | shuts | yields => exact retains_of_eq rfl rfl
    | opens component => exact ⟨fun _ _ hn => hn, [component], rfl⟩

theorem Edit.retains (h : Edit undisturbed p p') : p.registry.Retains p'.registry := by
  cases h with
  | yields | tells | makes | alters | refers => exact retains_of_eq rfl rfl
  | @names id n hfree =>
    refine ⟨fun x m hm => ?_, [], rfl⟩
    show (p.registry.names.insert id n).get? x = some m
    rw [Table.get?_insert, if_neg]
    · exact hm
    · rintro rfl
      rw [hfree] at hm
      cases hm

theorem Works.retains (h : Works undisturbed p p') : p.registry.Retains p'.registry := by
  induction h with
  | refl => exact .refl _
  | tail _ hwork ih =>
    refine ih.trans ?_
    cases hwork with
    | deed hdeed => exact hdeed.handles.retains
    | edit hedit => exact hedit.retains

theorem Blames.retains (h : Blames p p') : p.registry.Retains p'.registry := by
  cases h with
  | nobody => exact .refl _
  | somebody => exact retains_of_eq rfl rfl

theorem retains_create (p : Provider) (typeName : String) (id : ServiceId) (enabled : Bool) :
    p.registry.Retains (p.create undisturbed typeName id enabled).2.registry := by
  obtain ⟨r, hworks, hblames⟩ := (creates_create undisturbed p typeName id enabled).works_blames
  exact (Works.retains hworks).trans hblames.retains

/-- A request that removes nothing retains names and memory. -/
theorem retains_perform {q : Request} (hq : ∀ id, q ≠ .remove id) (p : Provider) :
    p.registry.Retains (p.perform undisturbed q).2.registry := by
  cases q with
  | remove id => exact absurd rfl (hq id)
  | create typeName id enabled =>
    rw [perform_create]
    exact retains_create p typeName id enabled
  | setProperty id | removeProperty id => exact Works.retains (edits_edit p id _ _).works
  | registerComponent | removeReference => exact retains_of_eq rfl rfl
  | unregisterComponent id =>
    show p.registry.Retains (p.unregisterComponent id).2.registry
    unfold unregisterComponent
    split <;> exact retains_of_eq rfl rfl
  | addReference target id =>
    show p.registry.Retains (p.addReference target id).2.registry
    unfold addReference
    split
    · exact .refl _
    · split <;> exact retains_of_eq rfl rfl
  | _ => exact (handles_perform rfl p).retains

/-- The removal of service `n`, by what it does. -/
structure Removes (p p' : Provider) (id : ServiceId) (n : Incarnation) : Prop where
  found : p.registry.find? id = some n
  down : (p.service n).state = .disabled
  alone : ∀ x ∈ p.registry.referrers.of id, x = .service id
  others : ∀ m, m ≠ n → p'.service m = p.service m
  names : p'.registry.names = p.registry.names.erase id
  referrers : p'.registry.referrers = (p.service n).references.foldl
    (fun rs target => rs.remove target (.service id)) p.registry.referrers
  memory : p'.registry.memory = p.registry.memory.drop id.text
  tasks : p'.tasks = p.tasks

/-- A service is removed, or the request is refused and nothing is done. -/
theorem Removal.removes (h : Scene.Named p.scene) {q : Except RequestError Unit × Provider}
    (hq : Removal p id q) :
    (∃ e, q.1 = .error e) ∧ q.2 = p ∨ q.1 = .ok () ∧ ∃ n, p.Removes q.2 id n := by
  cases hq with
  | refused e => exact .inl ⟨⟨e, rfl⟩, rfl⟩
  | @done n log hfind honly _ hdown =>
    refine .inr ⟨rfl, n, hfind, hdown, honly, fun m hm => ?_, rfl, rfl, rfl, rfl⟩
    have hmodify := Registry.service_modify (h.within id n hfind)
      (fun s => { s with removed := true }) m
    rw [if_neg hm] at hmodify
    exact hmodify

/-! ## Toil -/

/-- What task `i` makes of services and memory, with a move or when it is torn down. -/
structure Toils (p p' : Provider) (i : TaskId) : Prop where
  names : p'.registry.find? = p.registry.find?
  tasks : ∀ j, j ≠ i → p'.tasks.tasks[j]? = p.tasks.tasks[j]?
  /-- It does nothing to them, or it is that of a transition and keeps to its service. -/
  tends : p.registry.Spares p'.registry ∨
    ∃ (t : Task Job HookRun) (d : Direction) (n : Incarnation), p.tasks.tasks[i]? = some t ∧
      t.job = some (d.job n) ∧ t.stage.isLive = true ∧ p.registry.Tends n p'.registry
  /-- If it is asleep afterwards it has the memory of its service. -/
  asleep : ∀ (t : Task Job HookRun) (wake : Option Nat) (run : HookRun),
    p'.tasks.tasks[i]? = some t → t.stage = .running wake run →
    p'.registry.memory.component? run.context.memory = some (p'.service run.service).id.text

/-- The memory is in order, every hook that is asleep has that of its service, and nobody has
written for a name that is free. -/
structure Furnished (p : Provider) : Prop where
  sound : p.registry.memory.Sound
  own : ∀ (i : TaskId) (t : Task Job HookRun) (wake : Option Nat) (run : HookRun),
    p.tasks.tasks[i]? = some t → t.stage = .running wake run →
    p.registry.memory.component? run.context.memory = some (p.service run.service).id.text
  fresh : ∀ id, p.registry.find? id = none → p.registry.memory.IsFresh id.text

/-- What a hook that is asleep is about is the service of its task. -/
theorem service_of_running (h : p.scene.Lawful) {t : Task Job HookRun} {wake : Option Nat}
    {run : HookRun} {d : Direction} (ht : p.tasks.tasks[i]? = some t)
    (hstage : t.stage = .running wake run) (hjob : t.job = some (d.job n)) : run.service = n := by
  have hmatched := h.orderly.owned.matched i t wake run ht hstage
  exact (Direction.job_inj.mp (Option.some.inj (hmatched.symm.trans hjob))).2

theorem toils_move (h : p.scene.Lawful) (hf : p.Furnished) (i : TaskId) :
    p.Toils (p.step (.move i)) i := by
  have hlaw' : (p.step (.move i)).scene.Lawful := h.after [.move i]
  revert hlaw'
  show ((Scheduler.move Registry.workload i p.tasks p.registry).elim p
    p.withParts).scene.Lawful → p.Toils ((Scheduler.move Registry.workload i p.tasks
      p.registry).elim p p.withParts) i
  cases hmove : Scheduler.move Registry.workload i p.tasks p.registry with
  | none => exact fun _ => ⟨rfl, fun _ _ => rfl, .inl ⟨rfl, rfl, rfl⟩, hf.own i⟩
  | some parts =>
    intro hlaw'
    obtain ⟨s, r⟩ := parts
    have hmoves := (Scheduler.moves_of_move hmove).1
    obtain ⟨t, stage, ht, htasks, hgoes⟩ := hmoves.goes
    have hnames : r.names = p.registry.names :=
      congrArg Ledger.names (hmoves.kept Registry.keeps_ledger)
    have hrun : ∀ {d : Direction} {n : Incarnation}, t.job = some (d.job n) → ∀ wake run,
        t.stage = .running wake run → run.service = n ∧
          p.registry.memory.component? run.context.memory = some (p.service n).id.text := by
      intro d n hjob wake run hstage
      obtain rfl := service_of_running h ht hstage hjob
      exact ⟨rfl, hf.own i t wake run ht hstage⟩
    have hget : s.tasks[i]? = some { t with stage } := by
      rw [htasks, getElem?_putStage, if_pos rfl, ht]
      rfl
    exact {
      names := by
        funext id
        exact congrArg (Table.get? · id) hnames
      tasks j hj := by
        show s.tasks[j]? = _
        rw [htasks, getElem?_putStage, if_neg (Ne.symm hj)]
      tends := by
        rcases h.orderly.gated.job_cases ht with ⟨d, n, hjob⟩ | ⟨n, hjob⟩
        · exact .inr ⟨t, d, n, ht, hjob, hgoes.isLive.1,
            (hmoves.tends ht hjob hf.sound (hrun hjob)).1⟩
        · refine .inl (hmoves.confirms ht hjob fun wake run hstage => ?_)
          have hmatched := h.orderly.owned.matched i t wake run ht hstage
          exact Direction.job_ne_confirm (Option.some.inj (hmatched.symm.trans hjob))
      asleep t' wake run ht' hstage' := by
        have hmatched := hlaw'.orderly.owned.matched i t' wake run ht' hstage'
        obtain rfl : { t with stage } = t' := Option.some.inj (hget.symm.trans ht')
        obtain ⟨htends, hasleep⟩ := hmoves.tends ht hmatched hf.sound (hrun hmatched)
        have hid : (r.service run.service).id = (p.registry.service run.service).id := htends.id
        show r.memory.component? _ = some (r.service run.service).id.text
        rw [hid]
        exact hasleep _ wake run ht' hstage' }

theorem toils_tear (h : p.scene.Lawful) (hf : p.Furnished) (i : TaskId) :
    p.Toils (p.step (.tear i)) i := by
  have hrefl : p.Toils p i := ⟨rfl, fun _ _ => rfl, .inl ⟨rfl, rfl, rfl⟩, hf.own i⟩
  show p.Toils (if p.tasks.isAlive then p
    else p.withParts (Scheduler.tear Registry.workload i p.tasks p.registry)) i
  split
  · exact hrefl
  obtain ⟨htorn, -⟩ := Scheduler.torn_of_tear Registry.workload i p.tasks p.registry
  generalize Scheduler.tear Registry.workload i p.tasks p.registry = parts at htorn
  obtain ⟨s, r⟩ := parts
  have hnames : r.names = p.registry.names :=
    congrArg Ledger.names (htorn.kept Registry.keeps_ledger)
  exact {
    names := by
      funext id
      exact congrArg (Table.get? · id) hnames
    tasks j hj := htorn.other hj
    tends := by
      rcases htorn.aborts with heq | ⟨t, ht, hlive⟩
      · exact .inl (heq ▸ ⟨rfl, rfl, rfl⟩)
      · rcases h.orderly.gated.job_cases ht with ⟨d, n, hjob⟩ | ⟨n, hjob⟩
        · exact .inr ⟨t, d, n, ht, hjob, hlive, htorn.tends ht hjob⟩
        · exact .inl (htorn.confirms ht hjob)
    asleep t wake run ht hstage := by
      obtain ⟨hbefore, rfl⟩ := htorn.awake ht hstage
      exact hf.own i t wake run hbefore hstage }

end Provider

/-! ## Memory -/

/-- A name is known by its text. -/
theorem ServiceId.eq_of_text {a b : ServiceId} (h : a.text = b.text) : a = b :=
  congrArg ServiceId.mk h

/-- What a service was created with, for good. -/
def Service.make (s : Service) : ServiceId × Behaviour := (s.id, s.behaviour)

/-- A service stays what it was created as. -/
theorem Amends.make {L L' : Ledger} (amends : Amends L L') :
    L.size ≤ L'.size ∧ ∀ n < L.size, (L'.card n).make = (L.card n).make := by
  have hjudge : ∀ (T : Ledger) (ns : List Incarnation) (n : Incarnation),
      ((T.judge ns).card n).make = (T.card n).make := by
    intro T ns n
    rw [Ledger.card_judge]
    split <;> rfl
  have hput : ∀ (k : Incarnation) (s : Service), s.make = (L.card k).make → ∀ n,
      (Function.update L.card k s n).make = (L.card n).make := by
    intro k s hs n
    rw [Function.update_apply]
    split
    · next heq => rw [hs, heq]
    · rfl
  have happear : ∀ (s : Service), ∀ n < L.size,
      (Function.update L.card L.size s n).make = (L.card n).make :=
    fun s n hn => congrArg Service.make (Function.update_of_ne (Nat.ne_of_lt hn) ..)
  cases amends with
  | keeps | enlists | dismisses | links | unlinks => exact ⟨Nat.le_refl _, fun _ _ => rfl⟩
  | prepares => exact ⟨Nat.le_succ _, happear _⟩
  | registers => exact ⟨Nat.le_succ _, fun n hn => (hjudge _ _ n).trans (happear _ n hn)⟩
  | @edits id k values =>
    exact ⟨Nat.le_refl _, fun n _ => (hjudge _ _ n).trans
      (hput k { L.card k with properties := ((L.card k).properties.withValues values).1 } rfl n)⟩
  | @removes id k => exact ⟨Nat.le_refl _, fun n _ => hput k { L.card k with removed := true } rfl n⟩

/-- Whoever is registered under a name keeps it. -/
theorem Amends.id {L L' : Ledger} (amends : Amends L L') :
    L.size ≤ L'.size ∧ ∀ n < L.size, (L'.card n).id = (L.card n).id :=
  ⟨amends.make.1, fun n hn => congrArg Prod.fst (amends.make.2 n hn)⟩

/-- A hook that is asleep after some requests was asleep before. -/
theorem Scene.running_of_requests {S S' : Scene} {i : TaskId} {t : Task Job HookRun}
    {wake : Option Nat} {run : HookRun} (changes : Changes Cause.IsRequest S S')
    (ht : S'.task? i = some t) (hstage : t.stage = .running wake run) : S.task? i = some t := by
  induction changes with
  | refl => exact ht
  | @tail T T' _ hstep ih =>
    obtain ⟨cause, hcause, change⟩ := hstep
    refine ih ?_
    have hpush : ∀ (name : String) (gates : List TaskId) (job : Job),
        (T.push name gates job).task? i = some t → T.task? i = some t := by
      intro name gates job hpushed
      rw [task?_push] at hpushed
      split at hpushed
      · rw [← Option.some.inj hpushed] at hstage
        exact absurd hstage ((newcomer_idle T name gates job).1 wake run)
      · exact hpushed
    cases change with
    | appears | edits | removes | blames | shuts => exact ht
    | claims | joins => exact hpush _ _ _ ht
    | stops | advances | sleeps | concludes | confirms | denies | drops => exact hcause.elim

namespace Provider

open Registry

variable {p p' : Provider} {id : ServiceId} {n m : Incarnation} {i : TaskId} {e : Event}

theorem id_step (h : Scene.Named p.scene) (e : Event) :
    p.registry.services.size ≤ (p.step e).registry.services.size ∧
      ∀ n < p.registry.services.size, ((p.step e).service n).id = (p.service n).id :=
  (amends_step h e).id

/-- Whatever a task makes of the memory is done by accesses to it. -/
theorem Toils.accesses (h : p.Toils p' i) :
    ∃ accesses, p'.registry.memory = p.registry.memory.after accesses := by
  rcases h.tends with hspares | ⟨t, d, n, -, -, -, htends⟩
  · exact ⟨[], hspares.memory⟩
  · exact htends.memory.after

/-- A task keeps the memory of whatever is not the name of its service. -/
theorem Toils.frame (h : p.Toils p' i) (hf : p.Furnished) {c : String}
    (hc : ∀ (t : Task Job HookRun) (d : Direction) (n : Incarnation), p.tasks.tasks[i]? = some t →
      t.job = some (d.job n) → t.stage.isLive = true → c ≠ (p.service n).id.text) :
    SameFor c p.registry.memory p'.registry.memory := by
  rcases h.tends with hspares | ⟨t, d, n, ht, hjob, hlive, htends⟩
  · rw [hspares.memory]
    exact .refl _ _
  · exact htends.memory.frame hf.sound (hc t d n ht hjob hlive)

/-- A service whose task is under way is registered. -/
theorem registered_of_live (h : p.scene.Lawful) {t : Task Job HookRun} {d : Direction}
    (ht : p.tasks.tasks[i]? = some t) (hjob : t.job = some (d.job n))
    (hlive : t.stage.isLive = true) : p.registry.find? (p.service n).id = some n := by
  refine h.orderly.named.housed n ?_
  rw [(h.orderly.owned.held i t d n ht hjob hlive).1]
  exact d.via_ne_disabled

/-- Whatever is done to the memory is done by accesses to it. -/
theorem accesses_step (h : p.scene.Lawful) (hf : p.Furnished) (e : Event) :
    ∃ accesses, (p.step e).registry.memory = p.registry.memory.after accesses := by
  cases e with
  | request q =>
    by_cases hq : ∃ id, q = .remove id
    · obtain ⟨id, rfl⟩ := hq
      rcases (removal p id).removes h.orderly.named with ⟨-, heq⟩ | ⟨-, n, hremoves⟩
      · exact ⟨[], congrArg (fun q : Provider => q.registry.memory) heq⟩
      · exact ⟨[.drop id.text], hremoves.memory⟩
    · obtain ⟨components, hmemory⟩ := (retains_perform (fun id heq => hq ⟨id, heq⟩) p).memory
      exact ⟨_, hmemory⟩
  | move i => exact (toils_move h hf i).accesses
  | tear i => exact (toils_tear h hf i).accesses
  | pass | stop => exact ⟨[], rfl⟩

/-- Nobody has written for a name that is free after an event. -/
theorem fresh_step (h : p.scene.Lawful) (hf : p.Furnished) (e : Event)
    (hfree : (p.step e).registry.find? id = none) :
    (p.step e).registry.memory.IsFresh id.text := by
  have hretains : p.registry.Retains (p.step e).registry →
      (p.step e).registry.memory.IsFresh id.text := by
    intro hretains
    have hbefore : p.registry.find? id = none := by
      cases hfind : p.registry.find? id with
      | none => rfl
      | some n =>
        rw [hretains.names id n hfind] at hfree
        cases hfree
    obtain ⟨components, hmemory⟩ := hretains.memory
    rw [hmemory]
    exact (hf.fresh id hbefore).acquires hf.sound components
  have htoils : ∀ {i : TaskId}, p.Toils (p.step e) i →
      (p.step e).registry.memory.IsFresh id.text := by
    intro i htoils
    rw [htoils.names] at hfree
    refine (hf.fresh id hfree).same hf.sound (htoils.frame hf fun t d n ht hjob hlive heq => ?_)
    rw [ServiceId.eq_of_text heq, registered_of_live h ht hjob hlive] at hfree
    cases hfree
  cases e with
  | request q =>
    by_cases hq : ∃ x, q = .remove x
    · obtain ⟨x, rfl⟩ := hq
      rcases (removal p x).removes h.orderly.named with ⟨-, heq⟩ | ⟨-, n, hremoves⟩
      · exact hretains (heq.symm ▸ .refl p.registry : p.registry.Retains (p.remove x).2.registry)
      · show (p.remove x).2.registry.memory.IsFresh id.text
        replace hfree : (p.remove x).2.registry.names.get? id = none := hfree
        rw [hremoves.names, Table.get?_erase] at hfree
        rw [hremoves.memory]
        split at hfree
        · next heq =>
          -- the state of what has just been removed is given up
          intro k hcurrent
          exact absurd hcurrent (by simp [Memory.current_drop, heq])
        · next hne =>
          refine (hf.fresh id hfree).same hf.sound
            ((Memory.does_step _ (.drop x.text)).frame hf.sound fun heq => hne ?_)
          exact (ServiceId.eq_of_text (Option.some.inj heq)).symm
    · exact hretains (retains_perform (fun x heq => hq ⟨x, heq⟩) p)
  | move i => exact htoils (toils_move h hf i)
  | tear i => exact htoils (toils_tear h hf i)
  | pass | stop => exact hf.fresh id hfree

theorem Furnished.step (hf : p.Furnished) (h : p.scene.Lawful) (e : Event) :
    (p.step e).Furnished := by
  obtain ⟨accesses, hmemory⟩ := accesses_step h hf e
  -- a hook that was asleep before and is still
  have hkept : ∀ (i : TaskId) (t : Task Job HookRun) (wake : Option Nat) (run : HookRun),
      p.tasks.tasks[i]? = some t → t.stage = .running wake run →
      (p.step e).registry.memory.component? run.context.memory =
        some ((p.step e).service run.service).id.text := by
    intro i t wake run ht hstage
    have hfind := registered_of_live h ht (h.orderly.owned.matched i t wake run ht hstage)
      (by rw [hstage]; rfl)
    rw [hmemory, (id_step h.orderly.named e).2 _ (h.orderly.named.within _ _ hfind)]
    exact component?_after (hf.own i t wake run ht hstage) accesses
  have htoils : ∀ {j : TaskId}, p.Toils (p.step e) j → ∀ (i : TaskId) (t : Task Job HookRun)
      (wake : Option Nat) (run : HookRun), (p.step e).tasks.tasks[i]? = some t →
      t.stage = .running wake run → (p.step e).registry.memory.component? run.context.memory =
        some ((p.step e).service run.service).id.text := by
    intro j htoils i t wake run ht hstage
    by_cases hij : i = j
    · subst hij
      exact htoils.asleep t wake run ht hstage
    · rw [htoils.tasks i hij] at ht
      exact hkept i t wake run ht hstage
  refine ⟨hmemory ▸ hf.sound.after accesses, ?_, fun id hfree => fresh_step h hf e hfree⟩
  cases e with
  | request q =>
    intro i t wake run ht hstage
    exact hkept i t wake run (Scene.running_of_requests (happens_step h (.request q)) ht hstage)
      hstage
  | move i => exact htoils (toils_move h hf i)
  | tear i => exact htoils (toils_tear h hf i)
  | pass | stop => exact hkept

theorem Furnished.after (hf : p.Furnished) (h : p.scene.Lawful) (events : List Event) :
    (p.after events).Furnished ∧ ∃ accesses,
      (p.after events).registry.memory = p.registry.memory.after accesses := by
  induction events using List.reverseRecOn with
  | nil => exact ⟨hf, [], rfl⟩
  | append_singleton done e ih =>
    obtain ⟨hdone, accesses, hmemory⟩ := ih
    obtain ⟨accesses', hmemory'⟩ := accesses_step (h.after done) hdone e
    rw [after_append]
    refine ⟨hdone.step (h.after done) e, accesses ++ accesses', ?_⟩
    rw [Memory.after_append, ← hmemory]
    exact hmemory'

end Provider

theorem Setup.furnished_after (setup : Setup) (events : List Event) :
    (setup.provider.after events).Furnished := by
  have hfirst : setup.provider.Furnished := by
    refine ⟨Memory.sound_empty, fun i t wake run ht => ?_, fun id _ k hcurrent => ?_⟩
    · cases (setup.task?_provider i).symm.trans ht
    · cases hcurrent
  exact (hfirst.after setup.lawful_provider events).1

/-! ## Removal -/

/-- Requests move a service that is down on by one step at most. -/
theorem Scene.Orderly.history_of_requests {S S' : Scene} {n : Incarnation} (h : S.Orderly)
    (changes : Changes Cause.IsRequest S S') (hdown : (S.service n).state = .disabled) :
    (S'.service n).history = (S.service n).history ∨
      (S'.service n).history = .enabling :: (S.service n).history := by
  induction changes with
  | refl => exact .inl rfl
  | @tail T T' hsteps hstep ih =>
    obtain ⟨cause, hcause, change⟩ := hstep
    rcases (h.changes hsteps).owned.history_step change n with heq | ⟨later, hlater, heq⟩
    · rw [heq]
      exact ih
    · rcases ih with hold | hold
      · rw [(List.cons.inj hold).1, hdown] at hlater
        obtain rfl := List.mem_singleton.mp hlater
        exact .inr (heq.trans (congrArg _ hold))
      · -- a service in transit is not moved
        have henabling : (T.service n).state = Direction.up.via := (List.cons.inj hold).1
        have hsame : later = Direction.up.via := (List.cons.inj heq).1.symm.trans
          ((state_of_request hcause change (by rw [henabling]; rfl)).trans henabling)
        rw [henabling, hsame] at hlater
        exact absurd hlater Direction.up.via_notMem_next

namespace Provider

variable {p p' q : Provider} {id : ServiceId} {n : Incarnation} {i : TaskId} {enabled : Bool}

/-- The removal of a service leaves no trace. -/
structure Erases (p p' : Provider) (id : ServiceId) : Prop where
  unregistered : p'.registry.find? id = none
  /-- It is not recorded as referring to any service. -/
  unmentioned : ∀ y, .service id ∉ p'.registry.referrers.of y
  unreferenced : p'.registry.referrers.of id = []
  /-- What is recorded of others is as before. -/
  recorded : ∀ x y, x ≠ .service id →
    (x ∈ p'.registry.referrers.of y ↔ x ∈ p.registry.referrers.of y)
  names : ∀ x, x ≠ id → p'.registry.find? x = p.registry.find? x
  services : ∀ m, p.registry.find? id ≠ some m → p'.service m = p.service m

/-- A service has just been created under a free name and starts from nothing. -/
structure Bears (p p' : Provider) (id : ServiceId) (n : Incarnation) (enabled : Bool) : Prop where
  found : p'.registry.find? id = some n
  history : (p'.service n).history = [.disabled] ∨
    enabled = true ∧ (p'.service n).history = [.enabling, .disabled]
  properties : (p'.service n).properties = .empty
  /-- Whoever opens its state finds nothing written. -/
  memory : (p'.registry.memory.acquire id.text).2.get (p'.registry.memory.acquire id.text).1 =
    .ok .initial

/-- What holds of a name for ever, once `p` was asked to remove the service of that name. -/
structure Outlives (p q : Provider) (id : ServiceId) : Prop where
  /-- A handle that was obtained before gives access to nothing. -/
  gone : ∀ h, p.registry.memory.component? h = some id.text → q.registry.memory.IsGone id.text h
  /-- What is created under that name is another service, and starts from nothing. -/
  renewed : ∀ (typeName : String) (enabled : Bool) (n : Incarnation),
    (q.create undisturbed typeName id enabled).1 = .ok n →
    p.registry.services.size ≤ n ∧
      q.Bears (q.step (.request (.create typeName id enabled))) id n enabled
  /-- The tasks from before do nothing to services created since and to the state under that
  name. -/
  apart : ∀ i < p.tasks.tasks.size, ∀ e, e = .move i ∨ e = .tear i →
    (∀ m, p.registry.services.size ≤ m → (q.step e).service m = q.service m) ∧
      SameFor id.text q.registry.memory (q.step e).registry.memory

theorem Removes.erases (h : p.Removes p' id n) (hnamed : Scene.Named p'.scene) :
    p.Erases p' id := by
  have hnone : p'.registry.find? id = none := by
    show p'.registry.names.get? id = none
    rw [h.names, Table.get?_erase, if_pos rfl]
  have hunmentioned : ∀ y, .service id ∉ p'.registry.referrers.of y := by
    intro y hy
    obtain ⟨m, hm, -⟩ := (hnamed.indexed y id).mp (Referrers.has_iff.mpr hy)
    cases hnone.symm.trans hm
  have hkept : ∀ x y, x ∈ p'.registry.referrers.of y ↔
      x ∈ p.registry.referrers.of y ∧ ¬ (y ∈ (p.service n).references ∧ x = .service id) := by
    intro x y
    rw [← Referrers.has_iff, ← Referrers.has_iff, h.referrers, Referrers.has_foldl_remove]
  refine ⟨hnone, hunmentioned, List.eq_nil_iff_forall_not_mem.mpr fun x hx => ?_,
    fun x y hne => ?_, fun x hne => ?_, fun m hm => h.others m ?_⟩
  · exact hunmentioned id (h.alone x ((hkept x id).mp hx).1 ▸ hx)
  · rw [hkept]
    exact and_iff_left fun heq => hne heq.2
  · show p'.registry.names.get? x = _
    rw [h.names, Table.get?_erase, if_neg hne]
    rfl
  · rintro rfl
    exact hm h.found

/-- The latest service has come into being under a name that was free. -/
structure Newborn (p r : Provider) (id : ServiceId) (n : Incarnation) : Prop where
  latest : n = p.registry.services.size
  free : p.registry.find? id = none
  orderly : r.scene.Orderly
  found : r.scene.find? id = some n
  history : (r.scene.service n).history = [.disabled]
  properties : (r.scene.service n).properties = .empty

theorem newborn_enrol (h : Scene.Orderly p.scene) (made : Implementation) (typeName : String)
    (hfree : p.registry.find? id = none) :
    p.Newborn (p.enrol undisturbed made typeName id) id p.registry.services.size := by
  have hservice : (p.enrol undisturbed made typeName id).scene.service p.scene.size =
      { id, typeName, descriptors := made.descriptors, behaviour := made.behaviour } := by
    rw [scene_enrol, Scene.service_appear_self]
  exact ⟨rfl, hfree, h.step (change_enrol made typeName hfree),
    (made_enrol made typeName hfree).found, congrArg Service.history hservice,
    congrArg Service.properties hservice⟩

/-- What a request to enable it makes of a service that has just come into being. -/
theorem Newborn.enable {r : Provider} (h : p.Newborn r id n) :
    (r.enable undisturbed id).2.scene.Orderly ∧
      (r.enable undisturbed id).2.scene.find? id = some n ∧
      (((r.enable undisturbed id).2.scene.service n).history = [.disabled] ∨
        ((r.enable undisturbed id).2.scene.service n).history = [.enabling, .disabled]) ∧
      ((r.enable undisturbed id).2.scene.service n).properties = .empty := by
  obtain ⟨hchanges, hsame⟩ := changes_enable h.orderly id
  have hraised := h.orderly.history_of_requests (hchanges.mono fun _ hcause => hcause ▸ trivial)
    (List.cons.inj h.history).1
  rw [h.history] at hraised
  exact ⟨h.orderly.changes hchanges, hsame.find? ▸ h.found, hraised,
    (hsame.properties n).trans h.properties⟩

/-- What is created is the latest service, under a name that was free. -/
theorem Creation.newborn (h : Scene.Orderly p.scene) {typeName : String} {enabled : Bool}
    {q : Except RequestError Incarnation × Provider}
    (hq : Creation undisturbed p typeName id enabled q) (hn : q.1 = .ok n) :
    n = p.registry.services.size ∧ p.registry.find? id = none ∧
      q.2.scene.find? id = some n ∧ ((q.2.scene.service n).history = [.disabled] ∨
        enabled = true ∧ (q.2.scene.service n).history = [.enabling, .disabled]) ∧
      (q.2.scene.service n).properties = .empty := by
  cases hq with
  | unknown | taken => cases hn
  | @enrolled made _ hfree =>
    obtain rfl := Except.ok.inj hn
    have hnewborn := newborn_enrol h made typeName hfree
    exact ⟨rfl, hfree, hnewborn.found, .inl hnewborn.history, hnewborn.properties⟩
  | @enabled made i r _ hfree heq =>
    obtain rfl := Except.ok.inj hn
    obtain ⟨-, hfound, hraised, hproperties⟩ := (newborn_enrol h made typeName hfree).enable
    rw [heq] at hfound hraised hproperties
    exact ⟨rfl, hfree, hfound, hraised.imp_right fun hold => ⟨rfl, hold⟩, hproperties⟩
  | @refused made e r _ hfree heq =>
    obtain rfl := Except.ok.inj hn
    obtain ⟨horderly, hfound, hraised, hproperties⟩ :=
      (newborn_enrol h made typeName hfree).enable
    rw [heq] at horderly hfound hraised hproperties
    refine ⟨rfl, hfree, hfound, ?_⟩
    have hin : p.registry.services.size < (r.say (refusalRemark id e)).scene.size :=
      horderly.named.within id _ hfound
    dsimp only [blame]
    rw [scene_modify hin, Scene.service_put_self]
    exact ⟨hraised.imp_right fun hold => ⟨rfl, hold⟩, hproperties⟩

theorem bears_create (h : p.scene.Lawful) (hf : p.Furnished) {typeName : String}
    (hcreated : (p.create undisturbed typeName id enabled).1 = .ok n) :
    n = p.registry.services.size ∧
      p.Bears (p.step (.request (.create typeName id enabled))) id n enabled := by
  have hstep : p.step (.request (.create typeName id enabled)) =
      (p.create undisturbed typeName id enabled).2 :=
    perform_create undisturbed p typeName id enabled
  obtain ⟨rfl, hfree, hfound, hhistory, hproperties⟩ :=
    (creation undisturbed p typeName id enabled).newborn h.orderly hcreated
  obtain ⟨components, hmemory⟩ := (retains_create p typeName id enabled).memory
  refine ⟨rfl, ?_⟩
  rw [hstep]
  refine ⟨hfound, hhistory, hproperties, Memory.IsFresh.first ?_⟩
  rw [hmemory]
  exact (hf.fresh id hfree).acquires hf.sound components

/-- A task that is under way later was under way before. -/
theorem live_before (h : p.scene.Lawful) (events : List Event) {t' : Task Job HookRun}
    (hi : i < p.tasks.tasks.size) (ht' : (p.after events).tasks.tasks[i]? = some t')
    (hlive : t'.stage.isLive = true) :
    ∃ t, p.tasks.tasks[i]? = some t ∧ t.job = t'.job ∧ t.stage.isLive = true := by
  obtain ⟨t, ht⟩ : ∃ t, p.tasks.tasks[i]? = some t := ⟨_, Array.getElem?_eq_getElem hi⟩
  have hkept : ∃ u, (p.after events).scene.task? i = some u ∧ u.job = t.job ∧
      (u.stage.isLive = true → t.stage.isLive = true) := by
    refine h.keeps_after (K := fun _ => True)
      (I := fun S => ∃ u, S.task? i = some u ∧ u.job = t.job ∧
        (u.stage.isLive = true → t.stage.isLive = true))
      ⟨t, ht, rfl, fun hlive => hlive⟩ (fun hlaw hbefore _ change => ?_) events
      fun _ _ _ _ => trivial
    obtain ⟨u, hu, hjob, hback⟩ := hbefore
    obtain ⟨stage, hu', hended⟩ := (hlaw.orderly.gated.continues change i).task hu
    refine ⟨_, hu', hjob, fun hlive => hback ?_⟩
    by_contra hnot
    rw [Bool.not_eq_true] at hnot
    rw [hended hnot, hnot] at hlive
    cases hlive
  obtain ⟨u, hu, hjob, hback⟩ := hkept
  obtain rfl := Option.some.inj (hu.symm.trans ht')
  exact ⟨t, ht, hjob.symm, hback hlive⟩

/-- The names of services that have come into being do not change. -/
theorem id_after (h : p.scene.Lawful) (events : List Event) :
    p.registry.services.size ≤ (p.after events).registry.services.size ∧
      ∀ n < p.registry.services.size, ((p.after events).service n).id = (p.service n).id := by
  induction events using List.reverseRecOn with
  | nil => exact ⟨Nat.le_refl _, fun _ _ => rfl⟩
  | append_singleton done e ih =>
    obtain ⟨hsize, hid⟩ := id_step (h.after done).orderly.named e
    rw [after_append]
    exact ⟨ih.1.trans hsize, fun n hn => (hid n (Nat.lt_of_lt_of_le hn ih.1)).trans (ih.2 n hn)⟩

/-- What task `i` of a time when a name was that of a service at rest makes of later services and
of the state under that name: nothing. -/
theorem Toils.apart (htoils : p'.Toils q i) (h : p.scene.Lawful) (hf : p'.Furnished) {events : List Event}
    (hafter : p' = p.after events) (hfind : p.registry.find? id = some n)
    (hdown : (p.service n).state = .disabled) (hi : i < p.tasks.tasks.size) :
    (∀ m, p.registry.services.size ≤ m → q.service m = p'.service m) ∧
      SameFor id.text p'.registry.memory q.registry.memory := by
  subst hafter
  -- the service of the task was in transit then, so that it is not the one that was at rest
  have hother : ∀ (t : Task Job HookRun) (d : Direction) (k : Incarnation),
      (p.after events).tasks.tasks[i]? = some t → t.job = some (d.job k) →
      t.stage.isLive = true →
      k < p.registry.services.size ∧ ((p.after events).service k).id ≠ id := by
    intro t d k ht hjob hlive
    obtain ⟨u, hu, hujob, hulive⟩ := live_before h events hi ht hlive
    have hregistered := registered_of_live h hu (hujob.trans hjob) hulive
    have hk := h.orderly.named.within _ _ hregistered
    refine ⟨hk, ?_⟩
    rw [(id_after h events).2 k hk]
    rintro heq
    obtain rfl : k = n := Option.some.inj ((heq ▸ hregistered).symm.trans hfind)
    have hvia := (h.orderly.owned.held i u d k hu (hujob.trans hjob) hulive).1
    exact d.via_ne_disabled (hvia.symm.trans hdown)
  refine ⟨fun m hm => ?_, htoils.frame hf fun t d k ht hjob hlive heq => ?_⟩
  · rcases htoils.tends with hspares | ⟨t, d, k, ht, hjob, hlive, htends⟩
    · show (q.registry.services[m]?).getD default = _
      rw [hspares.services]
      rfl
    · exact htends.others m (Nat.ne_of_gt (Nat.lt_of_lt_of_le (hother t d k ht hjob hlive).1 hm))
  · exact (hother t d k ht hjob hlive).2 (ServiceId.eq_of_text heq.symm)

end Provider

/-- Once a service is removed nothing is left of it on record, and whatever happens next, its state
cannot be had any more, and a service that is created under its name starts from nothing and has
nothing to do with it. -/
theorem Setup.removed_for_good (setup : Setup) (before later : List Event) (id : ServiceId) :
    let p := setup.provider.after before
    let p' := p.step (.request (.remove id))
    (p.remove id).1 = .ok () → p.Erases p' id ∧ p.Outlives (p'.after later) id := by
  intro p p' hok
  have hlawful : p.scene.Lawful := setup.lawful_after before
  have hf : p.Furnished := setup.furnished_after before
  obtain ⟨n, hremoves⟩ : ∃ n, p.Removes p' id n := by
    rcases (Provider.removal _ id).removes hlawful.orderly.named with ⟨⟨e, herror⟩, -⟩ | ⟨-, hremoves⟩
    · rw [herror] at hok
      cases hok
    · exact hremoves
  have hlawful' : p'.scene.Lawful := hlawful.after [.request (.remove id)]
  have hf' : p'.Furnished := hf.step hlawful _
  have hlawful'' : (p'.after later).scene.Lawful := hlawful'.after later
  obtain ⟨hf'', accesses, hmemory⟩ := hf'.after hlawful' later
  have hafter : p'.after later = p.after (.request (.remove id) :: later) := rfl
  have hsize : p.registry.services.size ≤ (p'.after later).registry.services.size :=
    hafter ▸ (Provider.id_after hlawful _).1
  refine ⟨hremoves.erases hlawful'.orderly.named, ⟨fun k hk => ?_, ?_, ?_⟩⟩
  · obtain ⟨cell, hcell, hcomponent, hremoved⟩ := hf.sound.closed_drop hk
    rw [← hremoves.memory] at hcell
    rw [hmemory, ← hcomponent]
    exact Memory.isGone_of_cell (closed_after hcell hremoved accesses) hremoved
  · intro typeName enabled m hcreated
    obtain ⟨rfl, hbears⟩ := Provider.bears_create hlawful'' hf'' hcreated
    exact ⟨hsize, hbears⟩
  · intro i hi e he
    have happart : ∀ {q : Provider}, (p'.after later).Toils q i → _ :=
      fun htoils => htoils.apart hlawful hf'' hafter hremoves.found hremoves.down hi
    rcases he with rfl | rfl
    · exact happart (Provider.toils_move hlawful'' hf'' i)
    · exact happart (Provider.toils_tear hlawful'' hf'' i)

/-- A service has been up and refers to itself now. Another one refers to it no more. -/
def Setup.departingRun : List Event :=
  [.request (.create "mock.Dependent" ⟨"a"⟩ false), .request (.create "mock.Dependent" ⟨"b"⟩ false),
    .request (.setProperty ⟨"b"⟩ "Other Service" "a"), .request (.enable ⟨"a"⟩)] ++
    Event.rounds 1 4 ++ [.request (.disable ⟨"a"⟩)] ++ Event.rounds 2 4 ++
  [.request (.setProperty ⟨"a"⟩ "Other Service 2" "a"), .request (.removeProperty ⟨"b"⟩ "Other Service"),
    .request (.enable ⟨"b"⟩)]

theorem Setup.removed_for_good_departing :
    let p := mock.provider.after departingRun
    let p' := p.step (.request (.remove ⟨"a"⟩))
    let q := p'.after [.request (.create "mock.Dependent" ⟨"a"⟩ false), .move 2]
    (p.remove ⟨"a"⟩).1 = .ok () ∧ p.registry.memory.component? ⟨0⟩ = some "a" ∧
      p.registry.referrers.of ⟨"a"⟩ = [.service ⟨"a"⟩] ∧ p.tasks.tasks.size = 3 ∧
      q.registry.find? ⟨"a"⟩ = some 2 ∧ p.Erases p' ⟨"a"⟩ ∧ p.Outlives q ⟨"a"⟩ :=
  ⟨by decide +kernel, by decide +kernel, by decide +kernel, by decide +kernel, by decide +kernel,
    removed_for_good mock departingRun [.request (.create "mock.Dependent" ⟨"a"⟩ false), .move 2]
      ⟨"a"⟩ (by decide +kernel)⟩

end ServiceLifecycle

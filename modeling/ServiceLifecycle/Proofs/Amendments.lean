import ServiceLifecycle.Proofs.Deeds
import ServiceLifecycle.Proofs.Run

/-!
# What edits do to the ledger

There are few ways in which the ledger can change, one for each kind of edit. So what holds in
the beginning and is kept by each of them holds after every run.

* **operations** — what is done to a ledger: a service appears, is given its name, gets other
  properties, is judged anew (`Ledger.appear`, `Ledger.judge`);
* **amendments** — all that edits can do to the ledger (`Amends`, `amends_perform`);
* **runs** — each event is an amendment (`Provider.amends_step`), and what amendments keep
  holds after every run (`Setup.on_record_after`).
-/

namespace ServiceLifecycle

open Relation

/-! ## Operations -/

namespace Ledger

/-- The incarnation registered under a name. -/
def find? (L : Ledger) (id : ServiceId) : Option Incarnation := L.names.get? id

/-- What the validator says of a service, as things are now. -/
def verdict (L : Ledger) (n : Incarnation) : Verdict :=
  L.settings.2.1
    { id := (L.card n).id, descriptors := (L.card n).descriptors
      properties := (L.card n).properties, serviceExists := fun id => L.names.contains id }

/-- Replaces what is on record of a service. -/
def put (L : Ledger) (n : Incarnation) (s : Service) : Ledger :=
  { L with card := Function.update L.card n s }

/-- A service appears. It is not registered yet. -/
def appear (L : Ledger) (s : Service)
    (latestCounting latestScripted : Table ServiceId Incarnation) : Ledger :=
  { L with
    size := L.size + 1
    card := Function.update L.card L.size s
    latestCounting
    latestScripted }

/-- The latest service is registered under a name. -/
def name (L : Ledger) (id : ServiceId) (n : Incarnation) : Ledger :=
  { L with names := L.names.insert id n }

/-- A service with its verdict brought up to date. -/
def judged (L : Ledger) (n : Incarnation) : Service := { L.card n with verdict := L.verdict n }

/-- Judges some services anew. -/
def judge (L : Ledger) (ns : List Incarnation) : Ledger :=
  { L with card := fun m => if m ∈ ns ∧ m < L.size then L.judged m else L.card m }

/-- A service gets other values, and the record of references follows. -/
def edit (L : Ledger) (n : Incarnation) (id : ServiceId) (values : Table String PropertyValue) :
    Ledger :=
  let edited := (L.card n).properties.withValues values
  let added := edited.2.added.foldl (fun rs target => rs.add target (.service id)) L.referrers
  { L.put n { L.card n with properties := edited.1 } with
    referrers := edited.2.removed.foldl (fun rs target => rs.remove target (.service id)) added }

/-- A service is removed for good. -/
def remove (L : Ledger) (n : Incarnation) (id : ServiceId) : Ledger :=
  { L.put n { L.card n with removed := true } with
    names := L.names.erase id
    referrers := (L.card n).references.foldl (fun rs target => rs.remove target (.service id))
      L.referrers }

variable {L : Ledger} {n m : Incarnation}

theorem card_judge (L : Ledger) (ns : List Incarnation) (m : Incarnation) :
    (L.judge ns).card m = if m ∈ ns ∧ m < L.size then L.judged m else L.card m := rfl

/-- What the validator says does not depend on what it has said. -/
theorem verdict_judge (L : Ledger) (ns : List Incarnation) (m : Incarnation) :
    (L.judge ns).verdict m = L.verdict m := by
  unfold verdict
  rw [card_judge]
  split <;> rfl

theorem judged_judge (L : Ledger) (ns : List Incarnation) (m : Incarnation) :
    (L.judge ns).judged m = L.judged m := by
  unfold judged
  rw [verdict_judge, card_judge]
  split <;> rfl

@[simp] theorem judge_nil (L : Ledger) : L.judge [] = L := by
  simp [judge]

/-- To judge some services and then others is to judge them all. -/
theorem judge_judge (L : Ledger) (ns ms : List Incarnation) :
    (L.judge ns).judge ms = L.judge (ns ++ ms) := by
  show { L with card := _ } = { L with card := _ }
  congr 1
  funext m
  have hsize : (L.judge ns).size = L.size := rfl
  rw [judged_judge, card_judge, hsize]
  by_cases hns : m ∈ ns <;> by_cases hms : m ∈ ms <;> by_cases hm : m < L.size <;>
    simp [hns, hms, hm]

end Ledger

/-! ## Amendments -/

/-- All that edits can do to the ledger. -/
inductive Amends (L : Ledger) : Ledger → Prop
  | keeps : Amends L L
  /-- An implementation is made for a service whose name turns out to be taken. -/
  | prepares (id : ServiceId) (typeName : String) (descriptors : List Descriptor)
      (behaviour : Behaviour) (latestCounting latestScripted : Table ServiceId Incarnation) :
      Amends L (L.appear { id, typeName, descriptors, behaviour } latestCounting latestScripted)
  /-- A service is registered under a free name. It is judged, and so is everybody who has been
  waiting for a service of that name. -/
  | registers {id : ServiceId} (typeName : String) (descriptors : List Descriptor)
      (behaviour : Behaviour) (latestCounting latestScripted : Table ServiceId Incarnation) :
      L.find? id = none →
      Amends L (((L.appear { id, typeName, descriptors, behaviour } latestCounting
        latestScripted).name id L.size).judge
          (L.size :: (L.referrers.services id).filterMap (L.names.insert id L.size).get?))
  | edits {id : ServiceId} {n : Incarnation} (values : Table String PropertyValue) :
      L.find? id = some n → Amends L ((L.edit n id values).judge [n])
  /-- Nobody but the service itself refers to it. -/
  | removes {id : ServiceId} {n : Incarnation} :
      L.find? id = some n → (∀ x ∈ L.referrers.of id, x = .service id) → Amends L (L.remove n id)
  | enlists (id : ComponentId) (c : ComponentNumber) :
      Amends L { L with roster := L.roster.insert id c }
  | dismisses (id : ComponentId) :
      Amends L { L with
        roster := L.roster.erase id
        referrers := L.referrers.removeEverywhere (.component id) }
  | links {target : ServiceId} {id : ComponentId} :
      L.names.contains target = true → L.roster.contains id = true →
      Amends L { L with referrers := L.referrers.add target (.component id) }
  | unlinks (target : ServiceId) (id : ComponentId) :
      Amends L { L with referrers := L.referrers.remove target (.component id) }

/-- The settings are not edited. -/
theorem Amends.settings {L L' : Ledger} (amends : Amends L L') : L'.settings = L.settings := by
  cases amends <;> rfl

namespace Registry

variable {r : Registry} {n : Incarnation}

theorem ledger_modify_put (hn : n < r.services.size) (f : Service → Service) :
    (r.modify n f).ledger = r.ledger.put n (f (r.service n)).card := by
  unfold ledger Ledger.put
  congr 1
  · simp [modify]
  · funext m
    rw [service_modify hn, Function.update_apply]
    split <;> rfl

end Registry

namespace Provider

variable {p : Provider} {n : Incarnation} {id : ServiceId}

theorem ledger_instantiate (p : Provider) (made : Implementation) (typeName : String)
    (id : ServiceId) :
    let made' := (p.instantiate made typeName id).2.registry
    made'.ledger = p.registry.ledger.appear
      { id, typeName, descriptors := made.descriptors, behaviour := made.behaviour }
      made'.latestCounting made'.latestScripted := by
  unfold instantiate Registry.ledger Ledger.appear
  dsimp only
  congr 1
  · simp
  · funext m
    rw [Function.update_apply]
    unfold Registry.service
    rw [Array.getElem?_push]
    split <;> rfl

theorem ledger_revalidate (p : Provider) (n : Incarnation) :
    (p.revalidate undisturbed n).registry.ledger = p.registry.ledger.judge [n] := by
  unfold revalidate
  rw [judge_undisturbed]
  show (p.registry.modify n _).ledger = _
  unfold Registry.ledger Ledger.judge
  congr 1
  · simp [Registry.modify]
  · funext m
    rw [Registry.service_modify_eq]
    by_cases hm : m = n
    · subst hm
      simp only [List.mem_singleton, true_and]
      split <;> rfl
    · simp [hm]

theorem ledger_revalidateAll (ids : List ServiceId) (p : Provider) :
    (revalidateAll undisturbed ids p).registry.ledger =
      p.registry.ledger.judge (ids.filterMap p.registry.names.get?) := by
  unfold revalidateAll Registry.find?
  induction ids generalizing p with
  | nil => exact (Ledger.judge_nil _).symm
  | cons id ids ih =>
    rw [List.foldl_cons, ih]
    cases hfind : p.registry.names.get? id with
    | none =>
      rw [List.filterMap_cons_none hfind]
    | some n =>
      rw [List.filterMap_cons_some hfind]
      dsimp only
      have hnames : (p.revalidate undisturbed n).registry.names = p.registry.names :=
        congrArg Ledger.names (ledger_revalidate p n)
      rw [ledger_revalidate, hnames, Ledger.judge_judge]
      rfl

@[simp] theorem ledger_say (p : Provider) (remark : Remark) :
    (p.say remark).registry.ledger = p.registry.ledger := rfl

/-- A service that is registered is judged, and so is everybody who refers to its name. -/
theorem ledger_register (p : Provider) (n : Incarnation) (id : ServiceId) :
    (p.register undisturbed n id).registry.ledger = (p.registry.ledger.name id n).judge
      (n :: (p.registry.referrers.services id).filterMap (p.registry.names.insert id n).get?) := by
  let q : Provider := { p with registry := { p.registry with names := p.registry.names.insert id n } }
  have hq := ledger_revalidate q n
  have hnames : (q.revalidate undisturbed n).registry.names = p.registry.names.insert id n :=
    congrArg Ledger.names hq
  have hreferrers : (q.revalidate undisturbed n).registry.referrers = p.registry.referrers :=
    congrArg Ledger.referrers hq
  show (revalidateAll undisturbed ((q.revalidate undisturbed n).registry.referrers.services id)
    (q.revalidate undisturbed n)).registry.ledger = _
  rw [ledger_revalidateAll, hq, hnames, hreferrers, Ledger.judge_judge]
  rfl

/-- What is made of such requests keeps the ledger, where nobody gets in. -/
theorem Handles.ledger {p' : Provider} (h : Handles undisturbed p p') :
    p'.registry.ledger = p.registry.ledger := by
  induction h with
  | refl => rfl
  | tail _ htouch ih =>
    refine Eq.trans ?_ ih
    cases htouch with
    | keeps _ hledger => exact hledger
    | submits | shuts | opens | yields => rfl

theorem Handles.amends {L : Ledger} {p' : Provider} (h : Handles undisturbed p p')
    (hamends : Amends L p.registry.ledger) : Amends L p'.registry.ledger := h.ledger ▸ hamends

/-- What goes on record when a service is registered. -/
theorem ledger_enrol (p : Provider) (made : Implementation) (typeName : String) (id : ServiceId) :
    (p.enrol undisturbed made typeName id).registry.ledger =
      ((p.instantiate made typeName id).2.registry.ledger.name id p.registry.ledger.size).judge
        (p.registry.ledger.size :: (p.registry.referrers.services id).filterMap
          (p.registry.names.insert id p.registry.ledger.size).get?) :=
  (ledger_say _ _).trans (ledger_register _ _ _)

/-- Whether or not a service can be enabled as soon as it is registered, nothing more goes on
record. -/
theorem Creation.ledger {typeName : String} {made : Implementation} {enabled : Bool}
    {q : Except RequestError Incarnation × Provider}
    (h : Creation undisturbed p typeName id enabled q)
    (hmade : p.registry.catalogue.instantiate? typeName id = some made)
    (hfree : p.registry.find? id = none) :
    q.2.registry.ledger = (p.enrol undisturbed made typeName id).registry.ledger := by
  have henable : ∀ {made q}, (p.enrol undisturbed made typeName id).enable undisturbed id = q →
      Handles undisturbed (p.enrol undisturbed made typeName id) q.2 := by
    rintro made q rfl
    exact (deeds_enable _ id).handles
  cases h with
  | unknown hunknown => cases hunknown.symm.trans hmade
  | taken _ htaken => cases hfree.symm.trans htaken
  | enrolled hmade' =>
    obtain rfl := Option.some.inj (hmade.symm.trans hmade')
    rfl
  | enabled hmade' _ heq =>
    obtain rfl := Option.some.inj (hmade.symm.trans hmade')
    exact (henable heq).ledger
  | @refused _ e r hmade' _ heq =>
    obtain rfl := Option.some.inj (hmade.symm.trans hmade')
    have hblamed : Handles undisturbed (p.enrol undisturbed made typeName id)
        ((r.say (refusalRemark id e)).blame p.registry.services.size e.message) :=
      ((henable heq).say _).modify _ fun _ => rfl
    exact hblamed.ledger

theorem Creation.amends {typeName : String} {enabled : Bool}
    {q : Except RequestError Incarnation × Provider}
    (h : Creation undisturbed p typeName id enabled q) :
    Amends p.registry.ledger q.2.registry.ledger := by
  have hregisters : ∀ {made}, p.registry.catalogue.instantiate? typeName id = some made →
      p.registry.find? id = none → Amends p.registry.ledger q.2.registry.ledger := by
    intro made hmade hfree
    rw [h.ledger hmade hfree, ledger_enrol, ledger_instantiate]
    exact .registers typeName made.descriptors made.behaviour _ _ hfree
  cases h with
  | unknown => exact .keeps
  | @taken _ made =>
    rw [ledger_instantiate]
    exact .prepares id typeName made.descriptors made.behaviour _ _
  | enrolled hmade hfree | enabled hmade hfree | refused hmade hfree =>
    exact hregisters hmade hfree

theorem Revision.amends (h : Scene.Named p.scene)
    {change : Service → PropertyStore × ReferenceChange}
    (hchange : ∀ s, ∃ values, change s = s.properties.withValues values) {remark : Remark}
    {q : Except RequestError Unit × Provider} (hq : Revision undisturbed p id change remark q) :
    Amends p.registry.ledger q.2.registry.ledger := by
  cases hq with
  | refused e => exact .keeps
  | @done n hfind =>
    obtain ⟨values, hvalues⟩ := hchange (p.service n)
    rw [hvalues]
    let edited := (p.service n).properties.withValues values
    let q := (p.modify n fun s => { s with properties := edited.1 }).applyChange id edited.2
    have hput := Registry.ledger_modify_put (h.within id n hfind) fun s =>
      { s with properties := edited.1 }
    have hedit : q.registry.ledger = p.registry.ledger.edit n id values :=
      congrArg (fun L : Ledger => { L with referrers := q.registry.referrers }) hput
    show Amends _ (q.revalidate undisturbed n).registry.ledger
    rw [ledger_revalidate, hedit]
    exact .edits values hfind

theorem Removal.amends (h : Scene.Named p.scene) {q : Except RequestError Unit × Provider}
    (hq : Removal p id q) : Amends p.registry.ledger q.2.registry.ledger := by
  cases hq with
  | refused e => exact .keeps
  | @done n log hfind honly =>
    have hput := Registry.ledger_modify_put (h.within id n hfind) fun s =>
      { s with removed := true }
    refine Eq.subst (motive := Amends _) (Eq.symm ?_) (.removes hfind honly)
    exact congrArg (fun L : Ledger => { L with
      names := p.registry.names.erase id
      referrers := (p.service n).references.foldl
        (fun rs target => rs.remove target (.service id)) p.registry.referrers }) hput

/-- Every request is an amendment, or keeps the ledger. -/
theorem amends_perform (h : Scene.Named p.scene) (q : Request) :
    Amends p.registry.ledger (p.perform undisturbed q).2.registry.ledger := by
  cases q with
  | create typeName id enabled =>
    rw [perform_create]
    exact (creation undisturbed p typeName id enabled).amends
  | remove id => exact (removal p id).amends h
  | setProperty id name value =>
    exact (revision undisturbed p id _ _).amends h fun s => set_withValues s.properties _ name value
  | removeProperty id name => exact (revision undisturbed p id _ _).amends h fun s => ⟨_, rfl⟩
  | registerComponent c => exact .enlists c.id _
  | unregisterComponent id =>
    show Amends _ (p.unregisterComponent id).2.registry.ledger
    unfold unregisterComponent
    split
    · exact .dismisses id
    · exact .keeps
  | addReference target id =>
    show Amends _ (p.addReference target id).2.registry.ledger
    unfold addReference
    split
    · exact .keeps
    · next htarget =>
      rw [Bool.not_eq_true, Bool.not_eq_false'] at htarget
      split
      · exact .keeps
      · next hid =>
        rw [Bool.not_eq_true, Bool.not_eq_false'] at hid
        exact .links htarget hid
  | removeReference target id => exact .unlinks target id
  | _ => exact (handles_perform rfl p).amends .keeps

end Provider

/-! ## Runs -/

/-- A task that moves keeps the ledger. -/
theorem Provider.ledger_move (p : Provider) (i : TaskId) :
    (p.step (.move i)).registry.ledger = p.registry.ledger := by
  show ((Scheduler.move Registry.workload i p.tasks p.registry).elim p
    p.withParts).registry.ledger = _
  cases hmove : Scheduler.move Registry.workload i p.tasks p.registry with
  | none => rfl
  | some parts => exact (Scheduler.moves_of_move hmove).1.kept Registry.keeps_ledger

/-- So does one that is torn down. -/
theorem Provider.ledger_tear (p : Provider) (i : TaskId) :
    (p.step (.tear i)).registry.ledger = p.registry.ledger := by
  show (if p.tasks.isAlive then p
    else p.withParts (Scheduler.tear Registry.workload i p.tasks p.registry)).registry.ledger = _
  split
  · rfl
  · exact (Scheduler.torn_of_tear Registry.workload i p.tasks p.registry).1.kept
      Registry.keeps_ledger

/-- Every event is an amendment, or keeps the ledger. -/
theorem Provider.amends_step {p : Provider} (h : Scene.Named p.scene) (e : Event) :
    Amends p.registry.ledger (p.step e).registry.ledger := by
  cases e with
  | request q => exact Provider.amends_perform h q
  | pass | stop => exact .keeps
  | move i => exact p.ledger_move i ▸ .keeps
  | tear i => exact p.ledger_tear i ▸ .keeps

/-- Names and references on record are in order. -/
structure Ledger.Regular (L : Ledger) : Prop where
  within : ∀ id n, L.find? id = some n → n < L.size
  own : ∀ id n, L.find? id = some n → (L.card n).id = id
  indexed : ∀ y x, L.referrers.has y (.service x) = true ↔
    ∃ n, L.find? x = some n ∧ y ∈ (L.card n).references
  coherent : ∀ n, (L.card n).properties.Coherent

theorem Scene.Named.regular {p : Provider} (h : Scene.Named p.scene) :
    p.registry.ledger.Regular where
  within := h.within
  own id n hn := (h.own id n hn).1
  indexed := h.indexed
  coherent := h.coherent

/-- What is on record in the beginning and is kept by every amendment is on record after every
run. -/
theorem Setup.on_record_after (setup : Setup) {I : Ledger → Prop}
    (hfirst : I setup.provider.registry.ledger)
    (hstep : ∀ {L L' : Ledger}, L.Regular → I L → Amends L L' → I L') (events : List Event) :
    I (setup.provider.after events).registry.ledger := by
  induction events using List.reverseRecOn with
  | nil => exact hfirst
  | append_singleton done e ih =>
    rw [Provider.after_append]
    have hnamed := (setup.lawful_after done).orderly.named
    exact hstep hnamed.regular ih (Provider.amends_step hnamed e)

/-- A provider goes on with the settings that it started from. -/
theorem Setup.settings_after (setup : Setup) (events : List Event) :
    (setup.provider.after events).registry.settings = setup.provider.registry.settings :=
  setup.on_record_after (I := fun L => L.settings = setup.provider.registry.settings) rfl
    (fun _ h amends => amends.settings.trans h) events

end ServiceLifecycle

import ServiceLifecycle.Proofs.Deeds
import ServiceLifecycle.Proofs.Editing

/-!
# What requests come to, whoever gets in

An edit changes what is on record and nothing else; while it consults the validator others get
in. Together with the deeds of the other requests this is all that a request does, except that a
creation may in the end record a refusal as the fault of the new service.

* **edits** — the single things done in the course of an edit (`Provider.Edit`), none of which
  moves a service unless others get in (`Provider.Edit.tends`);
* **works** — edits and deeds, one after the other (`Provider.Works`); what none of them brings
  about is brought about by others who get in (`Provider.switch`);
* **requests** — what a request comes to (`Provider.fulfils_perform`), and what others do at a
  moment, which is a series of requests (`Provider.relates_interferenceWithin`).
-/

namespace ServiceLifecycle

open Relation

/-- No service goes away or changes its name. -/
structure Provider.Steady (p p' : Provider) : Prop where
  size : p.registry.services.size ≤ p'.registry.services.size
  id : ∀ n < p.registry.services.size, (p'.service n).id = (p.service n).id

/-- Others make no service go away or change its name. -/
def Interference.Steady (between : Interference) : Prop :=
  ∀ (probe : Probe) (p : Provider), p.Steady (between probe p)

namespace Provider

variable {between : Interference} {p p' p'' : Provider} {n : Incarnation}

/-! ## Edits -/

theorem Steady.refl (p : Provider) : p.Steady p := ⟨Nat.le_refl _, fun _ _ => rfl⟩

theorem Steady.trans (h : p.Steady p') (h' : p'.Steady p'') : p.Steady p'' :=
  ⟨Nat.le_trans h.size h'.size,
    fun n hn => (h'.id n (Nat.lt_of_lt_of_le hn h.size)).trans (h.id n hn)⟩

/-- What is done where nobody gets in. Nothing becomes of tasks, settings and what others are going
to do, and every service stands where it stood. -/
structure Tends (p p' : Provider) : Prop extends Steady p p' where
  tasks : p'.tasks = p.tasks
  ambushes : p'.ambushes = p.ambushes
  settings : p'.registry.settings = p.registry.settings
  state : ∀ n, (p'.service n).state = (p.service n).state
  fault : ∀ n, (p'.service n).fault = (p.service n).fault

theorem service_of_services (h : p'.registry.services = p.registry.services) (n : Incarnation) :
    p'.service n = p.service n :=
  congrArg (fun services : Array Service => (services[n]?).getD default) h

theorem Tends.refl (p : Provider) : Tends p p :=
  ⟨.refl p, rfl, rfl, rfl, fun _ => rfl, fun _ => rfl⟩

theorem Tends.trans (h : Tends p p') (h' : Tends p' p'') : Tends p p'' :=
  ⟨h.toSteady.trans h'.toSteady, h'.tasks.trans h.tasks, h'.ambushes.trans h.ambushes,
    h'.settings.trans h.settings, fun n => (h'.state n).trans (h.state n),
    fun n => (h'.fault n).trans (h.fault n)⟩

/-- What is done to something else than services. -/
theorem tends_of_eq (htasks : p'.tasks = p.tasks) (hambushes : p'.ambushes = p.ambushes)
    (hsettings : p'.registry.settings = p.registry.settings)
    (hservices : p'.registry.services = p.registry.services) : Tends p p' := by
  have hservice := service_of_services hservices
  exact ⟨⟨Nat.le_of_eq (congrArg Array.size hservices).symm,
    fun n _ => congrArg Service.id (hservice n)⟩, htasks, hambushes, hsettings,
    fun n => congrArg Service.state (hservice n), fun n => congrArg Service.fault (hservice n)⟩

/-- A look at a service after one was changed, if it was there to be changed. -/
theorem service_modify (p : Provider) (n m : Incarnation) (f : Service → Service) :
    (p.modify n f).service m =
      if m = n ∧ m < p.registry.services.size then f (p.service m) else p.service m :=
  Registry.service_modify_eq p.registry n m f

/-- A part of the services that is not changed is what it was. -/
theorem part_modify {α : Type} (part : Service → α) {f : Service → Service}
    (hpart : ∀ s, part (f s) = part s) (p : Provider) (n m : Incarnation) :
    part ((p.modify n f).service m) = part (p.service m) := by
  rw [service_modify]
  split
  · exact hpart _
  · rfl

theorem size_modify (p : Provider) (n : Incarnation) (f : Service → Service) :
    (p.modify n f).registry.services.size = p.registry.services.size := Array.size_modify

theorem steady_modify (p : Provider) (n : Incarnation) {f : Service → Service}
    (hid : ∀ s, (f s).id = s.id) : p.Steady (p.modify n f) :=
  ⟨Nat.le_of_eq (size_modify p n f).symm, fun m _ => part_modify Service.id hid p n m⟩

theorem tends_modify (p : Provider) (n : Incarnation) {f : Service → Service}
    (hid : ∀ s, (f s).id = s.id) (hstate : ∀ s, (f s).state = s.state)
    (hfault : ∀ s, (f s).fault = s.fault) : Tends p (p.modify n f) where
  toSteady := steady_modify p n hid
  tasks := rfl
  ambushes := rfl
  settings := rfl
  state := part_modify Service.state hstate p n
  fault := part_modify Service.fault hfault p n

/-- There is no service of this number yet. -/
theorem service_size (p : Provider) : p.service p.registry.services.size = default := by
  show (p.registry.services[p.registry.services.size]?).getD default = default
  rw [Array.getElem?_eq_none (Nat.le_refl _)]
  rfl

theorem size_instantiate (p : Provider) (made : Implementation) (typeName : String)
    (id : ServiceId) : (p.instantiate made typeName id).2.registry.services.size =
      p.registry.services.size + 1 := Array.size_push _

theorem service_instantiate (p : Provider) (made : Implementation) (typeName : String)
    (id : ServiceId) (m : Incarnation) : (p.instantiate made typeName id).2.service m =
      if m = p.registry.services.size then
        { id, typeName, descriptors := made.descriptors, behaviour := made.behaviour }
      else p.service m := by
  show ((p.registry.services.push _)[m]?).getD default = _
  rw [Array.getElem?_push]
  split <;> rfl

/-- A new service is down, and nothing has gone wrong yet. -/
theorem tends_instantiate (p : Provider) (made : Implementation) (typeName : String)
    (id : ServiceId) : Tends p (p.instantiate made typeName id).2 := by
  have hsize := size_instantiate p made typeName id
  have hservice := service_instantiate p made typeName id
  have hfresh := service_size p
  refine ⟨⟨by omega, fun m hm => ?_⟩, rfl, rfl, rfl, fun m => ?_, fun m => ?_⟩
  · rw [hservice, if_neg (Nat.ne_of_lt hm)]
  · rw [hservice]
    split
    · next heq =>
      rw [heq, hfresh]
      rfl
    · rfl
  · rw [hservice]
    split
    · next heq =>
      rw [heq, hfresh]
      rfl
    · rfl

/-- A single thing that is done in the course of an edit during which others may get in. -/
inductive Edit (between : Interference) (p : Provider) : Provider → Prop
  | yields (probe : Probe) : Edit between p (between probe p)
  | tells (remark : Remark) : Edit between p (p.say remark)
  /-- An implementation is made for a new service. -/
  | makes (made : Implementation) (typeName : String) (id : ServiceId) :
      Edit between p (p.instantiate made typeName id).2
  /-- A name that is free is given to a service. -/
  | names {id : ServiceId} (n : Incarnation) : p.registry.find? id = none →
      Edit between p { p with registry :=
        { p.registry with names := p.registry.names.insert id n } }
  /-- A service is configured or judged. -/
  | alters (n : Incarnation) {f : Service → Service} : (∀ s, (f s).id = s.id) →
      (∀ s, (f s).state = s.state) → (∀ s, (f s).fault = s.fault) → Edit between p (p.modify n f)
  | refers (referrers : Referrers) :
      Edit between p { p with registry := { p.registry with referrers } }

/-- Several such things are done, one after the other. -/
abbrev Edits (between : Interference) : Provider → Provider → Prop := ReflTransGen (Edit between)

/-- Where nobody gets in no service moves. -/
theorem Edit.tends (h : Edit between p p') : (∃ probe, p' = between probe p) ∨ Tends p p' := by
  cases h with
  | yields probe => exact .inl ⟨probe, rfl⟩
  | tells | names | refers => exact .inr (tends_of_eq rfl rfl rfl rfl)
  | makes made typeName id => exact .inr (tends_instantiate p made typeName id)
  | alters n hid hstate hfault => exact .inr (tends_modify p n hid hstate hfault)

theorem Edits.yield (probe : Probe) (p' : Provider) (h : Edits between p p') :
    Edits between p (between probe p') := h.tail (.yields probe)

theorem Edits.say (h : Edits between p p') (remark : Remark) : Edits between p (p'.say remark) :=
  h.tail (.tells remark)

theorem edits_revalidate (h : Edits between p p') (n : Incarnation) :
    Edits between p (p'.revalidate between n) := by
  have hjudge := kept_judge Edits.yield h n (p'.service n).properties
  exact hjudge.tail (.alters n (fun _ => rfl) (fun _ => rfl) fun _ => rfl)

theorem edits_revalidateAll (h : Edits between p p') (ids : List ServiceId) :
    Edits between p (revalidateAll between ids p') := by
  unfold revalidateAll
  refine List.foldlRecOn (motive := Edits between p) ids _ h fun q hq id _ => ?_
  split
  · exact edits_revalidate hq _
  · exact hq

theorem edits_register (h : Edits between p p') (n : Incarnation) {id : ServiceId}
    (hfree : p'.registry.find? id = none) : Edits between p (p'.register between n id) := by
  have hnamed := h.tail (.names n hfree)
  exact edits_revalidateAll (edits_revalidate hnamed n) _

theorem edits_enrol (p : Provider) (made : Implementation) (typeName : String) {id : ServiceId}
    (hfree : p.registry.find? id = none) :
    Edits between (p.instantiate made typeName id).2 (p.enrol between made typeName id) := by
  have hfree : (p.instantiate made typeName id).2.registry.find? id = none := hfree
  unfold enrol
  exact Edits.say (edits_register .refl p.registry.services.size hfree) _

theorem Revision.edits {id : ServiceId} {change : Service → PropertyStore × ReferenceChange}
    {remark : Remark} {q : Except RequestError Unit × Provider}
    (h : Revision between p id change remark q) : Edits between p q.2 := by
  cases h with
  | refused e => exact .refl
  | @done n =>
    have hmodified : Edits between p
        (p.modify n fun s => { s with properties := (change (p.service n)).1 }) :=
      .single (.alters n (fun _ => rfl) (fun _ => rfl) fun _ => rfl)
    have happlied : Edits between p ((p.modify n fun s =>
        { s with properties := (change (p.service n)).1 }).applyChange id
          (change (p.service n)).2) := hmodified.tail (.refers _)
    exact (edits_revalidate happlied n).say remark

theorem edits_edit (p : Provider) (id : ServiceId)
    (change : Service → PropertyStore × ReferenceChange) (remark : Remark) :
    Edits between p (p.edit between id change remark).2 :=
  (revision between p id change remark).edits

/-- A removal is done at once. -/
theorem Removal.tends {id : ServiceId} {q : Except RequestError Unit × Provider}
    (h : Removal p id q) : Tends p q.2 := by
  cases h with
  | refused e => exact .refl p
  | @done n log =>
    have hmodified : Tends p (p.modify n fun s => { s with removed := true }) :=
      tends_modify p n (fun _ => rfl) (fun _ => rfl) fun _ => rfl
    exact hmodified.trans (tends_of_eq rfl rfl rfl rfl)

/-! ## Works -/

/-- A single thing that is done in the course of a request. -/
inductive Work (between : Interference) (p : Provider) : Provider → Prop
  | deed {p' : Provider} : Deed between p p' → Work between p p'
  | edit {p' : Provider} : Edit between p p' → Work between p p'

/-- Several such things are done, one after the other. -/
abbrev Works (between : Interference) : Provider → Provider → Prop := ReflTransGen (Work between)

theorem Deeds.works (h : Deeds between p p') : Works between p p' :=
  h.lift id fun _ _ => .deed

theorem Edits.works (h : Edits between p p') : Works between p p' :=
  h.lift id fun _ _ => .edit

theorem Works.say (h : Works between p p') (remark : Remark) : Works between p (p'.say remark) :=
  h.trans (Edits.say .refl remark).works

/-- What is so in the end and was not so before became so when others got in, if no single thing
that is done makes it so. -/
theorem switch {Step : Provider → Provider → Prop} {P : Provider → Prop}
    (hstep : ∀ q r, Step q r → ¬ P q → P r → ∃ probe, r = between probe q)
    (h : ReflTransGen Step p p') (hp : ¬ P p) (hp' : P p') :
    ∃ probe q, ReflTransGen Step p q ∧ ¬ P q ∧ P (between probe q) ∧
      ReflTransGen Step (between probe q) p' := by
  induction h with
  | refl => exact absurd hp' hp
  | @tail q r hsteps hlast ih =>
    by_cases hq : P q
    · obtain ⟨probe, s, hbefore, hs, hs', hafter⟩ := ih hq
      exact ⟨probe, s, hbefore, hs, hs', hafter.tail hlast⟩
    · obtain ⟨probe, rfl⟩ := hstep q r hlast hq hp'
      exact ⟨probe, q, hsteps, hq, hp', .refl⟩

theorem Deed.steady (hbetween : between.Steady) (h : Deed between p p') :
    p.Steady p' := by
  cases h with
  | calm halike =>
    exact ⟨Nat.le_of_eq (congrArg Array.size halike.services).symm,
      fun n _ => congrArg Service.id (service_of_services halike.services n)⟩
  | submits | shuts | opens => exact ⟨Nat.le_refl _, fun _ _ => rfl⟩
  | yields probe => exact hbetween probe p
  | departs d n => exact steady_modify p n fun _ => rfl
  | assigns n i => exact steady_modify p n fun _ => rfl

theorem Edit.steady (hbetween : between.Steady) (h : Edit between p p') :
    p.Steady p' := by
  rcases h.tends with ⟨probe, rfl⟩ | htends
  · exact hbetween probe p
  · exact htends.toSteady

theorem Works.steady (hbetween : between.Steady)
    (h : Works between p p') : p.Steady p' := by
  induction h with
  | refl => exact .refl p
  | tail _ hwork ih =>
    refine ih.trans ?_
    cases hwork with
    | deed hdeed => exact hdeed.steady hbetween
    | edit hedit => exact hedit.steady hbetween

/-! ## Requests -/

/-- What the creation of a service comes to. -/
inductive Creates (between : Interference) (p : Provider) (typeName : String) (id : ServiceId) :
    Bool → Provider → Prop
  | works {enabled : Bool} {p' : Provider} : Works between p p' →
      Creates between p typeName id enabled p'
  /-- The service is to be enabled at once, but that is refused. -/
  | blames {made : Implementation} {q r : Provider} {e : RequestError} :
      Edits between (p.instantiate made typeName id).2 q → q.enable between id = (.error e, r) →
      Creates between p typeName id true
        ((r.say (refusalRemark id e)).blame p.registry.services.size e.message)

theorem works_enable (p : Provider) (id : ServiceId) : Works between p (p.enable between id).2 :=
  Deeds.works (deeds_enable p id)

theorem Creation.creates {typeName : String} {id : ServiceId} {enabled : Bool}
    {q : Except RequestError Incarnation × Provider}
    (h : Creation between p typeName id enabled q) :
    Creates between p typeName id enabled q.2 := by
  have hmade : ∀ made, Edits between p (p.instantiate made typeName id).2 :=
    fun made => .single (.makes made typeName id)
  have henrolled : ∀ made, p.registry.find? id = none →
      Works between p (p.enrol between made typeName id) :=
    fun made hfree => (hmade made).works.trans (edits_enrol p made typeName hfree).works
  cases h with
  | unknown => exact .works .refl
  | @taken _ made => exact .works (hmade made).works
  | @enrolled made _ hfree => exact .works (henrolled made hfree)
  | @enabled made i r _ hfree heq =>
    have henable : Works between p ((p.enrol between made typeName id).enable between id).2 :=
      (henrolled made hfree).trans (works_enable _ id)
    rw [heq] at henable
    exact .works henable
  | @refused made e r _ hfree heq => exact .blames (edits_enrol p made typeName hfree) heq

theorem creates_create (between : Interference) (p : Provider) (typeName : String) (id : ServiceId)
    (enabled : Bool) :
    Creates between p typeName id enabled (p.create between typeName id enabled).2 :=
  (creation between p typeName id enabled).creates

/-- In the end the fault of a service may be recorded, or nothing. -/
inductive Blames (p : Provider) : Provider → Prop
  | nobody : Blames p p
  | somebody (n : Incarnation) (message : String) : Blames p (p.blame n message)

/-- Up to the refusal the creation of a service is a series of works. -/
theorem works_refused {typeName : String} {id : ServiceId} {made : Implementation}
    {q r : Provider} {e : RequestError}
    (hedits : Edits between (p.instantiate made typeName id).2 q)
    (henable : q.enable between id = (.error e, r)) : Works between p r := by
  have hmade : Edits between p (p.instantiate made typeName id).2 :=
    .single (.makes made typeName id)
  have hworks : Works between q (q.enable between id).2 := works_enable q id
  rw [henable] at hworks
  exact (hmade.works.trans hedits.works).trans hworks

theorem Creates.works_blames {typeName : String} {id : ServiceId} {enabled : Bool}
    (h : Creates between p typeName id enabled p') : ∃ r, Works between p r ∧ Blames r p' := by
  cases h with
  | works hworks => exact ⟨p', hworks, .nobody⟩
  | @blames made q r e hedits henable =>
    have hworks := (works_refused hedits henable).say (refusalRemark id e)
    exact ⟨r.say (refusalRemark id e), hworks, .somebody _ _⟩

/-- What a request comes to. -/
inductive Fulfils (between : Interference) (p : Provider) : Request → Provider → Prop
  | works {q : Request} {p' : Provider} : Works between p p' → Fulfils between p q p'
  /-- Something is edited at once. -/
  | tends {q : Request} {p' : Provider} : Tends p p' → Fulfils between p q p'
  | creates {typeName : String} {id : ServiceId} {enabled : Bool} {p' : Provider} :
      Creates between p typeName id enabled p' →
      Fulfils between p (.create typeName id enabled) p'
  /-- It is set up what others do. -/
  | arms (probe : Probe) (requests : List Request) :
      Fulfils between p (.arm probe requests) (p.arm probe requests)

/-- To create a service is what the request to do so comes to. -/
theorem perform_create (between : Interference) (p : Provider) (typeName : String) (id : ServiceId)
    (enabled : Bool) : (p.perform between (.create typeName id enabled)).2 =
      (p.create between typeName id enabled).2 := by
  unfold perform
  dsimp only
  split <;>
  · next heq => rw [heq]

/-- Every request comes to one of these. -/
theorem fulfils_perform (between : Interference) (q : Request) (p : Provider) :
    Fulfils between p q (p.perform between q).2 := by
  cases q with
  | create typeName id enabled =>
    rw [perform_create]
    exact .creates (creates_create between p typeName id enabled)
  | arm probe requests => exact .arms probe requests
  | setProperty id name value => exact .works (edits_edit p id _ _).works
  | removeProperty id name => exact .works (edits_edit p id _ _).works
  | remove id => exact .tends (removal p id).tends
  | registerComponent c =>
    have htends : Tends p (p.registerComponent c) := tends_of_eq rfl rfl rfl rfl
    exact .tends htends
  | unregisterComponent id =>
    have htends : Tends p (p.unregisterComponent id).2 := by
      unfold unregisterComponent
      split <;> exact tends_of_eq rfl rfl rfl rfl
    exact .tends htends
  | addReference target id =>
    have htends : Tends p (p.addReference target id).2 := by
      unfold addReference
      split_ifs <;> exact tends_of_eq rfl rfl rfl rfl
    exact .tends htends
  | removeReference target id =>
    have htends : Tends p (p.removeReference target id).2 := tends_of_eq rfl rfl rfl rfl
    exact .tends htends
  | _ => exact .works (deeds_perform rfl (fun _ _ heq => by cases heq) p).works

/-! ## Others -/

/-- If no request does more than this as long as others do no more, then others do no more. -/
theorem relates_interferenceWithin {R : Provider → Provider → Prop} (hrefl : ∀ p, R p p)
    (htrans : ∀ {p q r}, R p q → R q r → R p r)
    (hperform : ∀ {between : Interference}, (∀ probe p, R p (between probe p)) →
      ∀ q p, R p (p.perform between q).2)
    (hambushes : ∀ p ambushes, R p { p with ambushes })
    (hoverheard : ∀ p overheard, R p { p with overheard }) (depth : Nat) (probe : Probe)
    (p : Provider) : R p (interferenceWithin depth probe p) := by
  induction depth generalizing probe p with
  | zero => exact hrefl p
  | succ depth ih =>
    unfold interferenceWithin
    split
    · exact hrefl p
    · next a _ =>
      exact List.foldlRecOn (motive := R p) a.requests _ (hambushes p _) fun r hr q _ =>
        htrans hr (htrans (hperform ih q r) (hoverheard _ _))

theorem Blames.steady (h : Blames p p') : p.Steady p' := by
  cases h with
  | nobody => exact .refl p
  | somebody n message => exact steady_modify p n fun _ => rfl

theorem Fulfils.steady (hbetween : between.Steady) {q : Request} (h : Fulfils between p q p') :
    p.Steady p' := by
  cases h with
  | works hworks => exact hworks.steady hbetween
  | tends htends => exact htends.toSteady
  | creates hcreates =>
    obtain ⟨r, hworks, hblames⟩ := hcreates.works_blames
    exact (hworks.steady hbetween).trans hblames.steady
  | arms => exact ⟨Nat.le_refl _, fun _ _ => rfl⟩

theorem steady_interferenceWithin (depth : Nat) : (interferenceWithin depth).Steady :=
  relates_interferenceWithin .refl .trans
    (fun hbetween q p => (fulfils_perform _ q p).steady hbetween)
    (fun _ _ => ⟨Nat.le_refl _, fun _ _ => rfl⟩) (fun _ _ => ⟨Nat.le_refl _, fun _ _ => rfl⟩) depth

end Provider

end ServiceLifecycle

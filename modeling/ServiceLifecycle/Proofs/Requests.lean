import ServiceLifecycle.Proofs.Disabling
import ServiceLifecycle.Proofs.Intake
import ServiceLifecycle.Proofs.Progress

/-!
# Requests as changes

Every request that is made without others getting in is a sequence of changes of the
scene. Most requests leave it as it is.

* **editing** — creation, removal and edits of properties (`Creation.changes`,
  `Removal.changes`, `Revision.changes`);
* **request** — all requests (`performs`), with the names of the services that they ask to
  be enabled (`requested`).
-/

namespace ServiceLifecycle

open Relation

/-- The references that come with some values are those of the values. -/
theorem PropertyStore.coherent_withValues (s : PropertyStore)
    (values : Table String PropertyValue) : (s.withValues values).1.Coherent := by
  intro y
  show y ∈ (OrderedSet.ofList _).toList ↔ .reference y ∈ values.values
  rw [OrderedSet.mem_ofList, List.mem_filterMap]
  constructor
  · rintro ⟨value, hvalue, hy⟩
    cases value with
    | literal text => cases hy
    | reference x => exact Option.some.inj hy ▸ hvalue
  · exact fun h => ⟨.reference y, h, rfl⟩

namespace Provider

variable {p : Provider} {n : Incarnation} {id : ServiceId}

/-! ## Editing -/

/-- A look at a registry whose names and references were recorded anew. -/
theorem scene_recorded (p : Provider) {names : Table ServiceId Incarnation} {rs : Referrers}
    (find? : ServiceId → Option Incarnation) (recorded : ServiceId → ServiceId → Prop)
    (hnames : ∀ id, names.get? id = find? id)
    (hrs : ∀ y x, rs.has y (.service x) = true ↔ recorded y x) :
    scene { p with registry := { p.registry with names, referrers := rs } } =
      { p.scene with find?, recorded } := by
  obtain rfl : names.get? = find? := funext hnames
  obtain rfl : (fun y x => rs.has y (.service x) = true) = recorded := by
    funext y x
    exact propext (hrs y x)
  rfl

/-- References of components do not show. -/
theorem scene_referrers (p : Provider) {rs : Referrers}
    (hrs : ∀ y x, rs.has y (.service x) = true ↔ p.registry.referrers.has y (.service x) = true) :
    scene { p with registry := { p.registry with referrers := rs } } = p.scene :=
  scene_recorded p p.scene.find? p.scene.recorded (fun _ => rfl) hrs

theorem scene_revalidate (p : Provider) (n : Incarnation) :
    (p.revalidate undisturbed n).scene = p.scene := by
  unfold revalidate
  rw [judge_undisturbed]
  exact sceneOf_outline p.tasks (Registry.outline_modify_eq _ fun _ => rfl)

theorem scene_revalidateAll (ids : List ServiceId) (p : Provider) :
    (revalidateAll undisturbed ids p).scene = p.scene := by
  unfold revalidateAll
  induction ids generalizing p with
  | nil => rfl
  | cons id ids ih =>
    rw [List.foldl_cons, ih]
    split
    · exact scene_revalidate p _
    · rfl

theorem scene_instantiate (p : Provider) (made : Implementation) (typeName : String)
    (id : ServiceId) :
    (p.instantiate made typeName id).1 = p.scene.size ∧
      (p.instantiate made typeName id).2.scene = p.scene.appear
        { id, typeName, descriptors := made.descriptors, behaviour := made.behaviour } false := by
  refine ⟨rfl, ?_⟩
  unfold instantiate scene sceneOf Scene.appear
  simp only [Bool.false_eq_true, if_false]
  congr 1
  unfold Registry.outline
  congr 1
  · simp
  · funext m
    rw [Function.update_apply]
    unfold Registry.service
    rw [Array.getElem?_push]
    split <;> rfl

/-- A service that is registered under a free name comes into being under that name. -/
theorem scene_register {S : Scene} {s : Service} (hscene : p.scene = S.appear s false) :
    (p.register undisturbed S.size s.id).scene = S.appear s true := by
  unfold register
  rw [scene_revalidateAll, scene_revalidate]
  have hfind : p.registry.find? = S.find? := congrArg (fun T : Scene => T.find?) hscene
  refine (scene_recorded p (Function.update S.find? s.id (some S.size)) p.scene.recorded
    (fun k => ?_) fun _ _ => Iff.rfl).trans ?_
  · rw [Table.get?_insert, Function.update_apply, ← hfind]
    rfl
  · rw [hscene]
    rfl

/-- One more service is registered under a name. It has no properties yet. -/
structure Made (p made : Provider) (id : ServiceId) (n : Incarnation) : Prop where
  changes : Changes (· = .edit) p.scene made.scene
  found : made.registry.find? id = some n
  bare : (made.service n).references = []
  settings : made.registry.settings = p.registry.settings

theorem scene_service_size (p : Provider) : p.scene.service p.scene.size = default :=
  congrArg Service.outline (service_size p)

theorem scene_enrol (p : Provider) (made : Implementation) (typeName : String) (id : ServiceId) :
    (p.enrol undisturbed made typeName id).scene = p.scene.appear
      { id, typeName, descriptors := made.descriptors, behaviour := made.behaviour } true := by
  have hscene := scene_register (scene_instantiate p made typeName id).2
  unfold enrol
  rw [scene_say]
  exact hscene

/-- A service that is registered under a name that was free comes into being. -/
theorem change_enrol (made : Implementation) (typeName : String)
    (hfree : p.registry.find? id = none) :
    Change p.scene .edit (p.enrol undisturbed made typeName id).scene := by
  rw [scene_enrol]
  exact .appears id typeName _ _ true (scene_service_size p) fun _ => hfree

theorem made_enrol (made : Implementation) (typeName : String)
    (hfree : p.registry.find? id = none) :
    p.Made (p.enrol undisturbed made typeName id) id p.scene.size where
  changes := Changes.single rfl (change_enrol made typeName hfree)
  found := by
    show (p.enrol undisturbed made typeName id).scene.find? id = some p.scene.size
    rw [scene_enrol]
    show Function.update p.scene.find? id (some p.scene.size) id = _
    rw [Function.update_self]
  bare := by
    rw [← references_scene, scene_enrol, Scene.service_appear_self]
    rfl
  settings := (Works.assigns undisturbed_assigns (edits_enrol p made typeName hfree).works).settings

/-- A service that is created comes into being, registered if its name was free. Then it is
enabled if asked for, and a refusal is recorded. -/
theorem Creation.changes (h : Scene.Orderly p.scene) {typeName : String} {enabled : Bool}
    {q : Except RequestError Incarnation × Provider}
    (hq : Creation undisturbed p typeName id enabled q) :
    Changes (· = .edit) p.scene q.2.scene ∨
      enabled = true ∧ ∃ made n, p.Made made id n ∧
        Changes (· = .edit) (made.enable undisturbed id).2.scene q.2.scene ∧
          Scene.SameGraph made.scene q.2.scene := by
  cases hq with
  | unknown => exact .inl .refl
  | @taken _ made n _ _ =>
    left
    rw [(scene_instantiate p made typeName id).2]
    exact Changes.single rfl (.appears id typeName _ _ false (scene_service_size p) (by simp))
  | @enrolled made _ hfree => exact .inl (Changes.single rfl (change_enrol made typeName hfree))
  | @enabled made i r _ hfree heq =>
    obtain ⟨-, hsame⟩ := changes_enable (h.step (change_enrol made typeName hfree)) id
    rw [heq] at hsame
    exact .inr ⟨rfl, _, _, made_enrol made typeName hfree, heq ▸ .refl, hsame⟩
  | @refused made e r _ hfree heq =>
    have horderly := h.step (change_enrol made typeName hfree)
    have hmade := made_enrol made typeName hfree
    obtain ⟨hchanges, hsame⟩ := changes_enable horderly id
    refine .inr ⟨rfl, _, _, hmade, ?_⟩
    rw [heq] at hchanges hsame ⊢
    have hin : p.scene.size < r.scene.size :=
      (horderly.changes hchanges).named.within _ _
        (hsame.registered (horderly.named.registered hmade.found))
    have hpast : (r.scene.service p.scene.size).past = [] := by
      rw [past_of_refused horderly hmade.found heq, scene_enrol, Scene.service_appear_self]
    have hin' : p.registry.services.size < (r.say (refusalRemark id e)).scene.size := hin
    dsimp only [blame]
    rw [scene_modify hin']
    exact ⟨Changes.single rfl (.blames _ hin hpast), hsame.trans (.put r.scene rfl rfl rfl)⟩

/-- The scene after other values were given to a service and the record of references was
brought up to date. -/
theorem scene_withValues (h : Scene.Named p.scene) (hfind : p.registry.find? id = some n)
    (values : Table String PropertyValue) :
    let edited := (p.service n).properties.withValues values
    ((p.modify n fun s => { s with properties := edited.1 }).applyChange id edited.2).scene =
      p.scene.edit n edited.1 := by
  intro edited
  obtain ⟨hid, -⟩ := h.own id n hfind
  unfold applyChange
  refine (scene_recorded (p.modify n _) p.scene.find? (p.scene.edit n edited.1).recorded
    (fun _ => rfl) fun y x => ?_).trans ?_
  · rw [Referrers.has_foldl_remove, Referrers.has_foldl_add]
    -- a reference that was there before is recorded already
    have hold : x = id → y ∈ (p.service n).references → p.registry.referrers.has y (.service x) := by
      rintro rfl hy
      exact (h.indexed y _).mpr ⟨n, hfind, hy⟩
    show _ ↔ (x = (p.scene.service n).id ∧ y ∈ edited.1.references.toList ∨
      p.registry.referrers.has y (.service x) = true) ∧ ¬ (x = (p.scene.service n).id ∧
        y ∈ (p.service n).references ∧ y ∉ edited.1.references.toList)
    rw [hid]
    unfold Service.references at hold ⊢
    simp only [edited, PropertyStore.withValues, List.mem_filter, OrderedSet.contains_iff,
      Bool.not_eq_true', ← Bool.not_eq_true, Referrer.service.injEq]
    show (_ ∨ p.registry.referrers.has y (.service x) = true) ∧ _ ↔ _
    tauto
  · rw [scene_modify (h.within id n hfind)]
    rfl

/-- An edit of the properties of a service that is down is a change. -/
theorem Revision.changes (h : Scene.Orderly p.scene)
    {change : Service → PropertyStore × ReferenceChange}
    (hchange : ∀ s, ∃ values, change s = s.properties.withValues values) {remark : Remark}
    {q : Except RequestError Unit × Provider} (hq : Revision undisturbed p id change remark q) :
    Changes (· = .edit) p.scene q.2.scene := by
  cases hq with
  | refused e => exact .refl
  | @done n hfind _ hdown =>
    obtain ⟨values, hvalues⟩ := hchange (p.service n)
    rw [scene_say, scene_revalidate, hvalues, scene_withValues h.named hfind]
    exact Changes.single rfl (.edits _ (h.named.registered hfind) hdown
      (PropertyStore.coherent_withValues _ _))

/-- The removal of a service is a change. -/
theorem Removal.changes (h : Scene.Orderly p.scene) {q : Except RequestError Unit × Provider}
    (hq : Removal p id q) : Changes (· = .edit) p.scene q.2.scene := by
  cases hq with
  | refused e => exact .refl
  | @done n log hfind _ _ hdown =>
    obtain ⟨hid, -⟩ := h.named.own id n hfind
    refine Changes.single rfl ?_
    refine Eq.subst (motive := Change p.scene .edit) (Eq.symm ?_)
      (.removes (h.named.registered hfind) hdown)
    refine (scene_recorded (p.modify n _) (p.scene.remove n).find?
      (p.scene.remove n).recorded (fun k => ?_) fun y x => ?_).trans ?_
    · rw [Table.get?_erase, ← hid]
      exact (Function.update_apply _ _ _ _).symm
    · rw [Referrers.has_foldl_remove, ← hid]
      show p.registry.referrers.has y (.service x) = true ∧ _ ↔
        p.registry.referrers.has y (.service x) = true ∧
          ¬ (x = (p.service n).id ∧ y ∈ (p.service n).references)
      simp [and_comm]
    · rw [scene_modify (h.named.within id n hfind)]
      rfl

/-! ## Components -/

theorem scene_addReference (p : Provider) (target : ServiceId) (id : ComponentId) :
    (p.addReference target id).2.scene = p.scene := by
  unfold addReference
  split
  · rfl
  · split
    · rfl
    · refine scene_referrers p fun y x => ?_
      rw [Referrers.has_add]
      simp

theorem scene_removeReference (p : Provider) (target : ServiceId) (id : ComponentId) :
    (p.removeReference target id).2.scene = p.scene := by
  refine scene_referrers p fun y x => ?_
  rw [Referrers.has_remove]
  simp

theorem scene_unregisterComponent (p : Provider) (id : ComponentId) :
    (p.unregisterComponent id).2.scene = p.scene := by
  unfold unregisterComponent
  split
  · refine scene_referrers p fun y x => ?_
    exact Referrers.has_removeEverywhere.trans (and_iff_left (by simp))
  · rfl

theorem scene_stopComponents (service : ServiceId) (ids : List ComponentId)
    (stopped : OrderedSet ComponentId) (p : Provider) :
    (stopComponents undisturbed service ids stopped p).2.scene = p.scene := by
  induction ids generalizing stopped p with
  | nil => rfl
  | cons id ids ih =>
    unfold stopComponents
    split
    · exact ih _ _
    · rw [askComponent_undisturbed]
      dsimp only
      split
      · exact ih _ _
      · exact ih _ _

theorem scene_startComponents (service : ServiceId) (ids : List ComponentId) (p : Provider) :
    (startComponents undisturbed service ids p).2.scene = p.scene := by
  induction ids generalizing p with
  | nil => rfl
  | cons id ids ih =>
    unfold startComponents
    split
    · exact ih _
    · rw [askComponent_undisturbed]
      dsimp only
      split
      · exact ih _
      · exact ih _

theorem scene_unscheduleReferrers (p : Provider) (id : ServiceId) :
    (p.unscheduleReferrers undisturbed id).2.scene = p.scene := by
  unfold unscheduleReferrers
  split
  · rfl
  · have gen : ∀ (ids : List ServiceId) (acc : OrderedSet ComponentId × Provider),
        (ids.foldl (fun acc service => stopComponents undisturbed service
          (acc.2.registry.referrers.components service) acc.1 acc.2) acc).2.scene = acc.2.scene := by
      intro ids
      induction ids with
      | nil => exact fun _ => rfl
      | cons id ids ih =>
        intro acc
        rw [List.foldl_cons, ih, scene_stopComponents]
    exact gen _ _

theorem scene_scheduleReferrers (p : Provider) (id : ServiceId) :
    (p.scheduleReferrers undisturbed id).2.scene = p.scene := by
  unfold scheduleReferrers
  split
  · rfl
  · split
    · exact scene_startComponents _ _ p
    · rfl

/-! ## Requests -/

theorem set_withValues (s : PropertyStore) (descriptor : Option Descriptor) (name value : String) :
    ∃ values, s.set descriptor name value = s.withValues values := by
  unfold PropertyStore.set
  split
  · split
    · exact ⟨_, rfl⟩
    · exact ⟨_, rfl⟩
  · exact ⟨_, rfl⟩

/-- The names of the services that a request asks to be enabled. -/
def requested (p : Provider) : Request → List ServiceId
  | .create _ id true => [id]
  | .enable id => [id]
  | .enableAll ids => ids
  | .enableReferrers id => p.registry.recursiveReferrers id
  | _ => []

/-- What a request comes to that is made without others getting in: it edits the registry,
claims services on their way down, enables one or several, creates one and enables it, or
shuts the scheduler down. -/
inductive Performs (p : Provider) : Request → Scene → Prop
  | edits (q : Request) {S : Scene} : Changes (· = .edit) p.scene S → Performs p q S
  | lowers (q : Request) {S : Scene} : Changes (· = .claim .down) p.scene S → Performs p q S
  | enables (id : ServiceId) : Performs p (.enable id) (p.enable undisturbed id).2.scene
  | raises {q : Request} {ns : List Incarnation} :
      (∀ n, n ∈ ns ↔ ∃ id ∈ p.requested q, p.registry.find? id = some n) →
      Performs p q (p.enableServices undisturbed ns).2.scene
  | creates (typeName : String) {made : Provider} {id : ServiceId} {n : Incarnation} {S : Scene} :
      p.Made made id n → Changes (· = .edit) (made.enable undisturbed id).2.scene S →
      Scene.SameGraph made.scene S → Performs p (.create typeName id true) S
  | shuts : Performs p .shutdown { p.scene with isShutdown := true }

/-- Services that a request asks for are registered. -/
theorem registered_of_requested (h : Scene.Named p.scene) {q : Request} {ns : List Incarnation}
    (hns : ∀ n, n ∈ ns ↔ ∃ id ∈ p.requested q, p.registry.find? id = some n) :
    ∀ n ∈ ns, p.scene.Registered n := by
  intro n hn
  obtain ⟨id, -, hid⟩ := (hns n).mp hn
  exact h.registered hid

theorem performs (h : p.scene.Lawful) (q : Request) :
    Performs p q (p.perform undisturbed q).2.scene := by
  -- a request that only looks leaves the scene as it is
  have hlook : ∀ {r : Reply × Provider}, r.2.scene = p.scene → Performs p q r.2.scene :=
    fun heq => .edits q (heq ▸ .refl)
  cases q with
  | create typeName id enabled =>
    rw [perform_create]
    rcases (creation undisturbed p typeName id enabled).changes h.orderly with
      hedits | ⟨rfl, made, n, hmade, hrest⟩
    · exact .edits _ hedits
    · exact .creates typeName hmade hrest.1 hrest.2
  | remove id => exact .edits _ ((removal p id).changes h.orderly)
  | setProperty id name value =>
    exact .edits _ ((revision undisturbed p id _ _).changes h.orderly
      fun s => set_withValues s.properties _ name value)
  | removeProperty id name =>
    exact .edits _ ((revision undisturbed p id _ _).changes h.orderly fun s => ⟨_, rfl⟩)
  | enable id => exact .enables id
  | disable id => exact .lowers _ (changes_disable h id)
  | enableAll ids =>
    show Performs p _ (p.enableAll undisturbed ids).2.scene
    unfold enableAll
    split
    · exact .edits _ .refl
    · next hresolve =>
      exact .raises (resolve_ok hresolve)
  | enableReferrers id =>
    show Performs p _ (p.enableReferrers undisturbed id).2.scene
    unfold enableReferrers
    split
    · exact .edits _ .refl
    · split
      · exact .raises fun n => List.mem_filterMap
      · exact .edits _ .refl
  | disableReferrers id => exact .lowers _ (changes_disableReferrers h id)
  | unscheduleReferrers id => exact hlook (scene_unscheduleReferrers p id)
  | scheduleReferrers id => exact hlook (scene_scheduleReferrers p id)
  | unregisterComponent id => exact hlook (scene_unregisterComponent p id)
  | addReference target id => exact hlook (scene_addReference p target id)
  | removeReference target id => exact hlook (scene_removeReference p target id)
  | shutdown => exact .shuts
  | setComponent id state threads =>
    refine hlook ?_
    unfold perform setComponent
    dsimp only
    split <;> rfl
  | inspectComponent id =>
    refine hlook ?_
    unfold perform
    dsimp only
    split
    · rfl
    · rw [askComponent_undisturbed]
  | orderBranches ids => exact hlook (scene_foldl_sayNotes (p.walksOf ids) p)
  | task i =>
    refine hlook ?_
    unfold perform
    dsimp only
    split <;> rfl
  | subscribe id =>
    refine hlook ?_
    unfold perform subscribe
    dsimp only
    split <;> rfl
  | lookForChange id =>
    refine hlook ?_
    unfold perform lookForChange
    dsimp only
    split <;> rfl
  | registerComponent | listReferrers | listRecursiveReferrers | listServices | inspect
  | property | query | describe | counts | configuration | countCalls | readJournal
  | holdsMemory | readMemory | arm | unreadable => exact .edits _ .refl

/-- Every request is a sequence of changes. -/
theorem Performs.changes {q : Request} {S : Scene} (h : Scene.Orderly p.scene)
    (hperforms : Performs p q S) : Changes Cause.IsRequest p.scene S := by
  have hedit : ∀ {T U : Scene}, Changes (· = .edit) T U → Changes Cause.IsRequest T U :=
    fun changes => changes.mono fun _ heq => heq ▸ trivial
  have hclaim : ∀ {d : Direction} {T U : Scene}, Changes (· = .claim d) T U →
      Changes Cause.IsRequest T U := fun changes => changes.mono fun _ heq => heq ▸ trivial
  cases hperforms with
  | edits _ hchanges => exact hedit hchanges
  | lowers _ hchanges => exact hclaim hchanges
  | enables id => exact hclaim (changes_enable h id).1
  | raises hns =>
    exact hclaim (changes_enableServices h (registered_of_requested h.named hns)).1
  | creates _ hmade hchanges =>
    exact ((hedit hmade.changes).trans
      (hclaim (changes_enable (h.changes hmade.changes) _).1)).trans (hedit hchanges)
  | shuts => exact Changes.single (show Cause.shutdown.IsRequest from trivial) .shuts

end Provider

end ServiceLifecycle

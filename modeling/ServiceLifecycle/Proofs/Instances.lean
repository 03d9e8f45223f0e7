import ServiceLifecycle.Proofs.Courses
import ServiceLifecycle.Proofs.Incarnations

/-!
# Which instance is shown

The instances of counting implementations can be looked up by the name of their service, to see
how often their hooks were called. What is shown is the instance that was made last for the name.
A creation makes its instance before it finds out whether the name is free. So a creation that is
refused puts an instance that nobody uses in the place of the one in use.

* **making** — when an instance is made, and what else happens then (`Provider.Makes`,
  `Provider.makes_step`);
* **idle instances** — an instance that was never registered is never called (`Scene.Idle`);
* **instance shown** — it is the one in use, unless another was made since
  (`Setup.shown_after`, `Setup.instance_shown`).
-/

namespace ServiceLifecycle

/-! ## Making -/

/-- What an event has to do with the making of instances. -/
inductive Provider.Makes (p : Provider) : Event → Provider → Prop
  /-- No instance is made. -/
  | nothing {e : Event} {p' : Provider} :
      (∀ typeName id enabled, e = .request (.create typeName id enabled) →
        p.registry.catalogue.instantiate? typeName id = none) →
      p'.registry.latestCounting = p.registry.latestCounting →
      (∀ id n, p'.registry.find? id = some n → p.registry.find? id = some n) → Makes p e p'
  /-- The name turns out to be taken. -/
  | spares {typeName : String} {id : ServiceId} {enabled : Bool} {made : Implementation}
      {k : Incarnation} : p.registry.catalogue.instantiate? typeName id = some made →
      p.registry.find? id = some k →
      Makes p (.request (.create typeName id enabled)) (p.instantiate made typeName id).2
  /-- The instance is registered. -/
  | registers {typeName : String} {id : ServiceId} {enabled : Bool} {made : Implementation}
      {p' : Provider} : p.registry.catalogue.instantiate? typeName id = some made →
      p.registry.find? id = none →
      p'.registry.latestCounting = (p.instantiate made typeName id).2.registry.latestCounting →
      p'.registry.names = p.registry.names.insert id p.registry.services.size →
      (p'.service p.registry.services.size).behaviour = made.behaviour →
      Makes p (.request (.create typeName id enabled)) p'

namespace Provider

variable {p p' : Provider} {id : ServiceId} {n m : Incarnation} {q : Request} {e : Event}

theorem size_revalidate (p : Provider) (n : Incarnation) :
    (p.revalidate undisturbed n).registry.services.size = p.registry.services.size :=
  congrArg Ledger.size (ledger_revalidate p n)

theorem Revision.size_eq {change : Service → PropertyStore × ReferenceChange} {remark : Remark}
    {q : Except RequestError Unit × Provider} (h : Revision undisturbed p id change remark q) :
    q.2.registry.services.size = p.registry.services.size := by
  cases h with
  | refused e => rfl
  | done => exact (size_revalidate _ _).trans (size_modify ..)

theorem Removal.size_eq {q : Except RequestError Unit × Provider} (h : Removal p id q) :
    q.2.registry.services.size = p.registry.services.size := by
  cases h with
  | refused e => rfl
  | done => exact size_modify ..

/-- Only creations make instances. -/
theorem size_perform (hq : ∀ typeName id enabled, q ≠ .create typeName id enabled) (p : Provider) :
    (p.perform undisturbed q).2.registry.services.size = p.registry.services.size := by
  cases q with
  | create typeName id enabled => exact absurd rfl (hq typeName id enabled)
  | setProperty id | removeProperty id => exact (revision undisturbed p id _ _).size_eq
  | remove id => exact (removal p id).size_eq
  | registerComponent | removeReference => rfl
  | unregisterComponent id =>
    show (p.unregisterComponent id).2.registry.services.size = _
    unfold unregisterComponent
    split <;> rfl
  | addReference target id =>
    show (p.addReference target id).2.registry.services.size = _
    unfold addReference
    split
    · rfl
    · split <;> rfl
  | _ => exact congrArg Ledger.size (handles_perform rfl p).ledger

/-- Where no service appears no other instance is shown, and no name is taken. -/
theorem Amends.of_size {L L' : Ledger} (amends : Amends L L') (hsize : L'.size = L.size) :
    L'.latestCounting = L.latestCounting ∧
      ∀ id n, L'.find? id = some n → L.find? id = some n := by
  cases amends with
  | keeps | enlists | dismisses | links | unlinks | edits => exact ⟨rfl, fun _ _ hn => hn⟩
  | prepares | registers => exact absurd hsize (Nat.succ_ne_self _)
  | @removes id n =>
    refine ⟨rfl, fun x k hk => ?_⟩
    replace hk : (L.names.erase id).get? x = some k := hk
    rw [Table.get?_erase] at hk
    split at hk
    · cases hk
    · exact hk

theorem Creation.makes {typeName : String} {enabled : Bool}
    {q : Except RequestError Incarnation × Provider}
    (h : Creation undisturbed p typeName id enabled q) :
    p.Makes (.request (.create typeName id enabled)) q.2 := by
  have hregisters : ∀ {made}, p.registry.catalogue.instantiate? typeName id = some made →
      p.registry.find? id = none → p.Makes (.request (.create typeName id enabled)) q.2 := by
    intro made hmade hfree
    have hledger := (h.ledger hmade hfree).trans (ledger_enrol p made typeName id)
    refine .registers hmade hfree (congrArg Ledger.latestCounting hledger)
      (congrArg Ledger.names hledger) ?_
    have hcard := congrFun (congrArg Ledger.card hledger) p.registry.services.size
    have hbehaviour := congrArg Service.behaviour hcard
    rw [Ledger.card_judge] at hbehaviour
    refine hbehaviour.trans ?_
    have hnew : ((p.instantiate made typeName id).2.service p.registry.services.size).behaviour =
        made.behaviour := by rw [service_instantiate, if_pos rfl]
    split <;> exact hnew
  cases h with
  | unknown hunknown =>
    refine .nothing (fun typeName' id' enabled' heq => ?_) rfl fun _ _ hn => hn
    obtain ⟨rfl, rfl, rfl⟩ := Request.create.inj (Event.request.inj heq)
    exact hunknown
  | taken hmade htaken => exact .spares hmade htaken
  | enrolled hmade hfree | enabled hmade hfree | refused hmade hfree =>
    exact hregisters hmade hfree

/-- Every event makes an instance, which is registered or not, or makes none. -/
theorem makes_step (h : Scene.Named p.scene) (e : Event) : p.Makes e (p.step e) := by
  cases e with
  | request q =>
    by_cases hq : ∃ typeName id enabled, q = .create typeName id enabled
    · obtain ⟨typeName, id, enabled, rfl⟩ := hq
      have hstep : p.step (.request (.create typeName id enabled)) =
          (p.create undisturbed typeName id enabled).2 :=
        perform_create undisturbed p typeName id enabled
      rw [hstep]
      exact (creation undisturbed p typeName id enabled).makes
    · have hcreate : ∀ typeName id enabled, q ≠ .create typeName id enabled :=
        fun typeName id enabled heq => hq ⟨typeName, id, enabled, heq⟩
      obtain ⟨hshown, hnames⟩ := Amends.of_size (amends_perform h q) (size_perform hcreate p)
      exact .nothing
        (fun typeName id enabled heq => absurd (Event.request.inj heq) (hcreate _ _ _)) hshown hnames
  | move i =>
    have hledger := p.ledger_move i
    exact .nothing (fun _ _ _ heq => by cases heq) (congrArg Ledger.latestCounting hledger)
      fun id n hn => (congrArg (fun L : Ledger => L.find? id) hledger).symm.trans hn
  | tear i =>
    have hledger := p.ledger_tear i
    exact .nothing (fun _ _ _ heq => by cases heq) (congrArg Ledger.latestCounting hledger)
      fun id n hn => (congrArg (fun L : Ledger => L.find? id) hledger).symm.trans hn
  | pass | stop => exact .nothing (fun _ _ _ heq => by cases heq) rfl fun _ _ hn => hn

end Provider

/-! ## Idle instances -/

namespace Scene

variable {S S' : Scene} {cause : Cause} {m : Incarnation}

/-- An instance that is not registered and was never called. -/
structure Idle (S : Scene) (m : Incarnation) : Prop where
  present : m < S.size
  unregistered : ∀ id, S.find? id ≠ some m
  uncalled : (S.service m).journal = []

/-- Whoever is not registered will not be. -/
theorem unregistered_step (change : Change S cause S') (hm : m < S.size)
    (h : ∀ id, S.find? id ≠ some m) : m < S'.size ∧ ∀ id, S'.find? id ≠ some m := by
  cases change with
  | appears =>
    refine ⟨Nat.lt_succ_of_lt hm, fun id hid => ?_⟩
    rcases find?_of_appear hid with ⟨-, heq⟩ | hold
    · exact absurd heq (Nat.ne_of_lt hm)
    · exact h id hold
  | @removes n =>
    refine ⟨hm, fun id hid => ?_⟩
    replace hid : Function.update S.find? (S.service n).id none id = some m := hid
    rw [Function.update_apply] at hid
    split at hid
    · cases hid
    · exact h id hid
  | edits | blames | shuts | stops | claims | joins | advances | sleeps | concludes | confirms
  | denies | drops => exact ⟨hm, h⟩

theorem Idle.step (h : S.Idle m) (horderly : S.Orderly) (change : Change S cause S') :
    S'.Idle m := by
  obtain ⟨hpresent, hunregistered⟩ := unregistered_step change h.present h.unregistered
  refine ⟨hpresent, hunregistered, ?_⟩
  cases affects change m with
  | rests hrests => exact hrests.journal.trans h.uncalled
  | claims d name gates horigin =>
    show ((S.push name gates (d.job m)).put m _ |>.service m).journal = []
    rw [service_put_self]
    exact h.uncalled
  | works d ht hjob hlive =>
    -- whoever has a task under way is registered
    have hvia := (horderly.owned.held _ _ d m ht hjob hlive).1
    have hhoused := horderly.named.housed m (by rw [hvia]; exact d.via_ne_disabled)
    exact absurd hhoused (h.unregistered _)

theorem Idle.changes {K : Cause → Prop} (h : S.Idle m) (horderly : S.Orderly)
    (changes : Changes K S S') : S'.Idle m := by
  induction changes with
  | refl => exact h
  | tail hsteps hstep ih =>
    obtain ⟨cause, -, change⟩ := hstep
    exact ih.step (horderly.changes hsteps) change

theorem Idle.calls_eq_zero {p : Provider} (h : p.scene.Idle m) (hook : Hook) :
    (p.service m).calls hook = 0 := by
  have houtline : (p.service m).outline.journal = [] := h.uncalled
  rw [← Service.calls_outline, Service.calls, houtline]
  rfl

end Scene

/-! ## The instance shown -/

namespace Provider

variable {p : Provider} {id : ServiceId} {n : Incarnation}

theorem make_step (h : Scene.Named p.scene) (e : Event) (hn : n < p.registry.services.size) :
    ((p.step e).service n).behaviour = (p.service n).behaviour :=
  congrArg Prod.snd ((amends_step h e).make.2 n hn)

theorem size_after_le (h : p.scene.Lawful) (events : List Event) :
    p.registry.services.size ≤ (p.after events).registry.services.size := by
  induction events using List.reverseRecOn with
  | nil => exact Nat.le_refl _
  | append_singleton done e ih =>
    rw [after_append]
    exact ih.trans (id_step (h.after done).orderly.named e).1

/-- An instance that was just made for a name that is taken. -/
theorem idle_instantiate (h : Scene.Named p.scene) (made : Implementation) (typeName : String)
    (id : ServiceId) : (p.instantiate made typeName id).2.scene.Idle p.registry.services.size := by
  rw [(scene_instantiate p made typeName id).2]
  refine ⟨Nat.lt_succ_self _, fun x hx => ?_, ?_⟩
  · exact Nat.lt_irrefl _ (h.within x _ hx)
  · rw [show p.registry.services.size = p.scene.size from rfl, Scene.service_appear_self]

/-- What is shown of the instance found under a name. -/
theorem countCalls_eq {m : Incarnation} (h : p.registry.latestCounting.get? id = some m) :
    (p.perform undisturbed (.countCalls id)).1 =
      .calls (some ((p.service m).calls .activate, (p.service m).calls .deactivate)) := by
  show Reply.calls ((p.registry.latestCounting.get? id).map _) = _
  rw [h]
  rfl

end Provider

namespace Setup

open Provider

/-- At some time in the run another instance of a counting implementation was asked for under the
name, when `n` was registered under it. -/
def AskedAgain (setup : Setup) (events : List Event) (id : ServiceId) (n : Incarnation) : Prop :=
  ∃ (before after : List Event) (typeName : String) (enabled : Bool) (made : Implementation),
    events = before ++ .request (.create typeName id enabled) :: after ∧
    (setup.provider.after before).registry.find? id = some n ∧
    setup.catalogue.instantiate? typeName id = some made ∧ made.behaviour.isCounting = true

variable {setup : Setup} {events : List Event} {e : Event} {id : ServiceId} {n : Incarnation}

theorem askedAgain_concat : setup.AskedAgain (events ++ [e]) id n ↔
    setup.AskedAgain events id n ∨ ∃ typeName enabled made,
      e = .request (.create typeName id enabled) ∧
      (setup.provider.after events).registry.find? id = some n ∧
      setup.catalogue.instantiate? typeName id = some made ∧ made.behaviour.isCounting = true := by
  constructor
  · rintro ⟨before, after, typeName, enabled, made, hsplit, hrest⟩
    rcases List.eq_nil_or_concat after with rfl | ⟨after', last, rfl⟩
    · obtain ⟨rfl, hlast⟩ := List.append_inj' hsplit rfl
      exact .inr ⟨typeName, enabled, made, List.singleton_inj.mp hlast, hrest⟩
    · refine .inl ⟨before, after', typeName, enabled, made, ?_, hrest⟩
      have hsplit' : events ++ [e] =
          (before ++ .request (.create typeName id enabled) :: after') ++ [last] := by
        simpa using hsplit
      exact (List.append_inj' hsplit' rfl).1
  · rintro (⟨before, after, typeName, enabled, made, rfl, hrest⟩ |
      ⟨typeName, enabled, made, rfl, hrest⟩)
    · exact ⟨before, after ++ [e], typeName, enabled, made, by simp, hrest⟩
    · exact ⟨events, [], typeName, enabled, made, rfl, hrest⟩

/-- Who was not there before was not asked for again. -/
theorem not_askedAgain_of_new (h : (setup.provider.after events).registry.services.size ≤ n) :
    ¬ setup.AskedAgain events id n := by
  rintro ⟨before, after, typeName, enabled, made, rfl, hfind, -⟩
  have hlawful := setup.lawful_after before
  have hwithin : n < (setup.provider.after before).registry.services.size :=
    hlawful.orderly.named.within id n hfind
  have hle := size_after_le hlawful (.request (.create typeName id enabled) :: after)
  rw [← after_append] at hle
  exact Nat.lt_irrefl n (Nat.lt_of_lt_of_le hwithin (hle.trans h))

/-- The instance `n` of a counting implementation is the one shown under its name, or one is shown
that was made since and is idle. -/
inductive Shows (setup : Setup) (events : List Event) (id : ServiceId) (n : Incarnation) : Prop
  | own : ¬ setup.AskedAgain events id n →
      (setup.provider.after events).registry.latestCounting.get? id = some n → Shows setup events id n
  | other {m : Incarnation} : setup.AskedAgain events id n → n < m →
      (setup.provider.after events).registry.latestCounting.get? id = some m →
      (setup.provider.after events).scene.Idle m → Shows setup events id n

/-- An event that makes no instance for the name does not matter. -/
theorem Shows.keep (h : setup.Shows events id n)
    (hasked : setup.AskedAgain (events ++ [e]) id n ↔ setup.AskedAgain events id n)
    (hshown : (setup.provider.after (events ++ [e])).registry.latestCounting.get? id =
      (setup.provider.after events).registry.latestCounting.get? id) :
    setup.Shows (events ++ [e]) id n := by
  cases h with
  | own hnot hget => exact .own (fun hagain => hnot (hasked.mp hagain)) (hshown.trans hget)
  | other hagain hlt hget hidle =>
    have hlawful := setup.lawful_after events
    refine .other (hasked.mpr hagain) hlt (hshown.trans hget) ?_
    rw [after_append]
    exact hidle.changes hlawful.orderly (happens_step hlawful e).changes

/-- Whether an instance is shown under a name does not depend on what was made for other names, or
of implementations that are not counted. -/
theorem get?_latestCounting_instantiate (p : Provider) (made : Implementation) (typeName : String)
    {id id' : ServiceId} (h : ¬ (id = id' ∧ made.behaviour.isCounting = true)) :
    (p.instantiate made typeName id').2.registry.latestCounting.get? id =
      p.registry.latestCounting.get? id := by
  show (if made.behaviour.isCounting then _ else _ : Table ServiceId Incarnation).get? id = _
  split
  · next hcount => rw [Table.get?_insert, if_neg fun heq => h ⟨heq, hcount⟩]
  · rfl

theorem get?_latestCounting_instantiate_self (p : Provider) {made : Implementation}
    (typeName : String) (id : ServiceId) (h : made.behaviour.isCounting = true) :
    (p.instantiate made typeName id).2.registry.latestCounting.get? id =
      some p.registry.services.size := by
  show (if made.behaviour.isCounting then _ else _ : Table ServiceId Incarnation).get? id = _
  rw [if_pos h, Table.get?_insert, if_pos rfl]

/-- A creation asks again for an instance of its own name and type only. -/
theorem askedAgain_create {typeName : String} {id' : ServiceId} {enabled : Bool}
    {made : Implementation} (hmade : setup.catalogue.instantiate? typeName id' = some made)
    (h : ¬ (id = id' ∧ made.behaviour.isCounting = true)) :
    setup.AskedAgain (events ++ [.request (.create typeName id' enabled)]) id n ↔
      setup.AskedAgain events id n := by
  rw [askedAgain_concat]
  refine or_iff_left ?_
  rintro ⟨typeName', enabled', made', heq, -, hmade', hcount⟩
  obtain ⟨rfl, rfl, rfl⟩ := Request.create.inj (Event.request.inj heq)
  obtain rfl := Option.some.inj (hmade.symm.trans hmade')
  exact h ⟨rfl, hcount⟩

/-- Whatever was shown of those registered before, one more event leaves it in order. -/
theorem shows_step (setup : Setup) (events : List Event) (e : Event)
    (ih : ∀ id n, (setup.provider.after events).registry.find? id = some n →
      ((setup.provider.after events).service n).behaviour.isCounting = true →
      setup.Shows events id n)
    (hfind : ((setup.provider.after events).step e).registry.find? id = some n)
    (hcounting : (((setup.provider.after events).step e).service n).behaviour.isCounting = true) :
    setup.Shows (events ++ [e]) id n := by
  have hnamed := (setup.lawful_after events).orderly.named
  have hcatalogue : (setup.provider.after events).registry.catalogue = setup.catalogue :=
    congrArg (fun s => s.2.2.2) (setup.settings_after events)
  have hmakes := makes_step hnamed e
  have hafter : setup.provider.after (events ++ [e]) = (setup.provider.after events).step e :=
    after_append ..
  have hearlier : (setup.provider.after events).registry.find? id = some n →
      setup.Shows events id n := by
    intro hbefore
    refine ih id n hbefore ?_
    rw [← make_step hnamed e (hnamed.within id n hbefore)]
    exact hcounting
  generalize (setup.provider.after events).step e = p' at hafter hmakes hfind hcounting
  cases hmakes with
  | nothing hcreate hshown hnames =>
    refine (hearlier (hnames id n hfind)).keep ?_ (by rw [hafter, hshown])
    rw [askedAgain_concat]
    refine or_iff_left ?_
    rintro ⟨typeName, enabled, made, rfl, -, hmade, -⟩
    rw [← hcatalogue, hcreate typeName id enabled rfl] at hmade
    cases hmade
  | @spares typeName id' enabled made k hmade hk =>
    rw [hcatalogue] at hmade
    have hbefore : (setup.provider.after events).registry.find? id = some n := hfind
    by_cases hagain : id = id' ∧ made.behaviour.isCounting = true
    · obtain ⟨rfl, hcount⟩ := hagain
      refine .other (m := (setup.provider.after events).registry.services.size) ?_
        (hnamed.within id n hbefore) ?_ ?_
      · exact askedAgain_concat.mpr
          (.inr ⟨typeName, enabled, made, rfl, hbefore, hmade, hcount⟩)
      · rw [hafter, get?_latestCounting_instantiate_self _ _ _ hcount]
      · rw [hafter]
        exact idle_instantiate hnamed made typeName id
    · refine (hearlier hbefore).keep (askedAgain_create hmade hagain) ?_
      rw [hafter, get?_latestCounting_instantiate _ _ _ hagain]
  | @registers typeName id' enabled made _ hmade hfree hshown hnames hbehaviour =>
    rw [hcatalogue] at hmade
    replace hfind : p'.registry.names.get? id = some n := hfind
    rw [hnames, Table.get?_insert] at hfind
    by_cases hid : id = id'
    · subst hid
      rw [if_pos rfl] at hfind
      obtain rfl := Option.some.inj hfind
      rw [hbehaviour] at hcounting
      refine .own ?_ ?_
      · rw [askedAgain_concat]
        rintro (hagain | ⟨-, -, -, -, hbefore, -⟩)
        · exact not_askedAgain_of_new (Nat.le_refl _) hagain
        · cases hfree.symm.trans hbefore
      · rw [hafter, hshown, get?_latestCounting_instantiate_self _ _ _ hcounting]
    · rw [if_neg hid] at hfind
      have hother : ¬ (id = id' ∧ made.behaviour.isCounting = true) := fun h => hid h.1
      refine (hearlier hfind).keep (askedAgain_create hmade hother) ?_
      rw [hafter, hshown, get?_latestCounting_instantiate _ _ _ hother]

theorem shown_after (setup : Setup) (events : List Event) (id : ServiceId) (n : Incarnation)
    (hfind : (setup.provider.after events).registry.find? id = some n)
    (hcounting : ((setup.provider.after events).service n).behaviour.isCounting = true) :
    setup.Shows events id n := by
  induction events using List.reverseRecOn generalizing id n with
  | nil => cases hfind
  | append_singleton events e ih =>
    rw [after_append] at hfind hcounting
    exact shows_step setup events e ih hfind hcounting

/-- The instance shown under a name is the very one in use there, and its calls are those that are
counted, unless another instance was asked for under the same name meanwhile. Then one is shown
that was never registered and whose hooks are never called. -/
theorem instance_shown (setup : Setup) (events : List Event) (id : ServiceId) (n : Incarnation) :
    let p := setup.provider.after events
    p.registry.find? id = some n → (p.service n).behaviour.isCounting = true →
      (¬ setup.AskedAgain events id n →
        p.registry.latestCounting.get? id = some n ∧
        (p.perform undisturbed (.countCalls id)).1 =
          .calls (some ((p.service n).calls .activate, (p.service n).calls .deactivate))) ∧
      (setup.AskedAgain events id n →
        ∃ m, n < m ∧ p.registry.latestCounting.get? id = some m ∧
          (∀ x, p.registry.find? x ≠ some m) ∧
          (p.perform undisturbed (.countCalls id)).1 = .calls (some (0, 0))) := by
  intro p hfind hcounting
  cases shown_after setup events id n hfind hcounting with
  | own hnot hget =>
    exact ⟨fun _ => ⟨hget, countCalls_eq hget⟩, fun hagain => absurd hagain hnot⟩
  | @other m hagain hlt hget hidle =>
    refine ⟨fun hnot => absurd hagain hnot, fun _ => ⟨m, hlt, hget, hidle.unregistered, ?_⟩⟩
    rw [countCalls_eq hget, hidle.calls_eq_zero, hidle.calls_eq_zero]

/-- A service is enabled, and its name is asked for once more, in vain. The other service of the run
was removed and created again. -/
def askingAgain : List Event :=
  [.request (.create "mock.Passthrough" ⟨"a"⟩ false), .request (.create "mock.Slow" ⟨"b"⟩ false),
    .request (.enable ⟨"a"⟩)] ++ Event.rounds 1 3 ++
  [.request (.create "mock.Passthrough" ⟨"a"⟩ false), .request (.remove ⟨"b"⟩),
    .request (.create "mock.Passthrough" ⟨"b"⟩ true)] ++ Event.rounds 2 3

/-- What is shown under the one name was never used, what is shown under the other is in use. -/
theorem instance_shown_again :
    let p := mock.provider.after askingAgain
    p.registry.find? ⟨"a"⟩ = some 0 ∧ (p.service 0).behaviour.isCounting = true ∧
      (p.service 0).calls .activate = 1 ∧ mock.AskedAgain askingAgain ⟨"a"⟩ 0 ∧
      (∃ m, 0 < m ∧ p.registry.latestCounting.get? ⟨"a"⟩ = some m ∧
        (∀ x, p.registry.find? x ≠ some m) ∧
        (p.perform undisturbed (.countCalls ⟨"a"⟩)).1 = .calls (some (0, 0))) ∧
      p.registry.find? ⟨"b"⟩ = some 3 ∧ (p.service 3).behaviour.isCounting = true ∧
      ¬ mock.AskedAgain askingAgain ⟨"b"⟩ 3 ∧
      p.registry.latestCounting.get? ⟨"b"⟩ = some 3 ∧
      (p.perform undisturbed (.countCalls ⟨"b"⟩)).1 =
        .calls (some ((p.service 3).calls .activate, (p.service 3).calls .deactivate)) := by
  have hfirst : mock.AskedAgain askingAgain ⟨"a"⟩ 0 :=
    ⟨[.request (.create "mock.Passthrough" ⟨"a"⟩ false), .request (.create "mock.Slow" ⟨"b"⟩ false),
        .request (.enable ⟨"a"⟩)] ++ Event.rounds 1 3,
      [.request (.remove ⟨"b"⟩), .request (.create "mock.Passthrough" ⟨"b"⟩ true)] ++
        Event.rounds 2 3,
      "mock.Passthrough", false, ⟨[], .counting []⟩, rfl, by decide +kernel, rfl, rfl⟩
  have hfound : (mock.provider.after askingAgain).registry.find? ⟨"a"⟩ = some 0 := by decide +kernel
  have hcounting :
      ((mock.provider.after askingAgain).service 0).behaviour.isCounting = true := by decide +kernel
  have hfound' : (mock.provider.after askingAgain).registry.find? ⟨"b"⟩ = some 3 := by
    decide +kernel
  have hcounting' :
      ((mock.provider.after askingAgain).service 3).behaviour.isCounting = true := by decide +kernel
  have hshown' :
      (mock.provider.after askingAgain).registry.latestCounting.get? ⟨"b"⟩ = some 3 := by
    decide +kernel
  obtain ⟨-, hother⟩ := instance_shown mock askingAgain ⟨"a"⟩ 0 hfound hcounting
  obtain ⟨hown, hother'⟩ := instance_shown mock askingAgain ⟨"b"⟩ 3 hfound' hcounting'
  have hnot : ¬ mock.AskedAgain askingAgain ⟨"b"⟩ 3 := by
    intro hagain
    obtain ⟨m, hlt, hget, -⟩ := hother' hagain
    obtain rfl := Option.some.inj (hshown'.symm.trans hget)
    exact Nat.lt_irrefl _ hlt
  exact ⟨hfound, hcounting, by decide +kernel, hfirst, hother hfirst, hfound', hcounting', hnot,
    hown hnot⟩

/-- So it is not always the instance in use that is shown. -/
theorem instance_replaced :
    ¬ ∀ (events : List Event) (id : ServiceId) (n : Incarnation),
      (mock.provider.after events).registry.find? id = some n →
      ((mock.provider.after events).service n).behaviour.isCounting = true →
      (mock.provider.after events).registry.latestCounting.get? id = some n := by
  intro h
  have hshown := h askingAgain ⟨"a"⟩ 0 (by decide +kernel) (by decide +kernel)
  revert hshown
  decide +kernel

end Setup

end ServiceLifecycle

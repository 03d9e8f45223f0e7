import ServiceLifecycle.Proofs.Amendments

/-!
# The record of references

Whether a service may be removed, disabled or has to be judged anew is read off the record of
references, which is kept beside the properties that it is about. The two never part: what is
recorded of services is what stands in their properties, and what is recorded of components
is about registered ones.

* **sets** — no target is left with an empty set of referrers (`Referrers.Peopled`);
* **ledger** — every amendment keeps the record in order (`Ledger.Referenced`);
* **record** — the record agrees with the properties after every run, and nothing that
  another service refers to is removed (`Setup.indexed_after`).
-/

namespace ServiceLifecycle

/-! ## Sets -/

namespace Referrers

/-- Every target on record has a referrer. -/
def Peopled (r : Referrers) : Prop := ∀ y set, r.sets.get? y = some set → set.toList ≠ []

variable {r : Referrers}

theorem Peopled.add (h : r.Peopled) (target : ServiceId) (source : Referrer) :
    (r.add target source).Peopled := by
  intro y set hset
  unfold Referrers.add at hset
  rw [Table.get?_insert] at hset
  split at hset
  · obtain rfl := Option.some.inj hset
    exact List.ne_nil_of_mem ((OrderedSet.mem_insert _ _ source).mpr (.inr rfl))
  · exact h y set hset

theorem Peopled.remove (h : r.Peopled) (target : ServiceId) (source : Referrer) :
    (r.remove target source).Peopled := by
  unfold Referrers.remove
  split
  · exact h
  · next old hold =>
    intro y set hset
    dsimp only at hset
    split at hset
    · rw [Table.get?_erase] at hset
      split at hset
      · cases hset
      · exact h y set hset
    · next hrest =>
      rw [Table.get?_insert] at hset
      split at hset
      · obtain rfl := Option.some.inj hset
        simpa [OrderedSet.isEmpty] using hrest
      · exact h y set hset

theorem peopled_removeEverywhere (r : Referrers) (source : Referrer) :
    (r.removeEverywhere source).Peopled := by
  intro y set hset
  unfold Referrers.removeEverywhere at hset
  rw [Table.get?_filterMapValues] at hset
  obtain ⟨old, -, hrest⟩ := Option.bind_eq_some_iff.mp hset
  dsimp only at hrest
  split at hrest
  · cases hrest
  · next hrest' =>
    obtain rfl := Option.some.inj hrest
    simpa [OrderedSet.isEmpty] using hrest'

theorem Peopled.foldl_add (h : r.Peopled) (targets : List ServiceId) (source : Referrer) :
    (targets.foldl (fun rs target => rs.add target source) r).Peopled :=
  List.foldlRecOn (motive := Peopled) targets _ h fun _ h target _ => h.add target source

theorem Peopled.foldl_remove (h : r.Peopled) (targets : List ServiceId) (source : Referrer) :
    (targets.foldl (fun rs target => rs.remove target source) r).Peopled :=
  List.foldlRecOn (motive := Peopled) targets _ h fun _ h target _ => h.remove target source

end Referrers

/-! ## Ledger -/

namespace Ledger

variable {L L' : Ledger}

/-- The record of references is in order, as far as it is not about services. -/
structure Referenced (L : Ledger) : Prop where
  /-- A component on record is registered, and so is the service that it refers to. -/
  components : ∀ y c, L.referrers.has y (.component c) = true →
    L.roster.contains c = true ∧ L.names.contains y = true
  peopled : L.referrers.Peopled

/-- The references of services leave those of components as they are. -/
theorem has_component_edit {n : Incarnation} {id y : ServiceId} {c : ComponentId}
    {values : Table String PropertyValue} :
    (L.edit n id values).referrers.has y (.component c) = L.referrers.has y (.component c) := by
  rw [Bool.eq_iff_iff]
  unfold edit
  rw [Referrers.has_foldl_remove, Referrers.has_foldl_add]
  simp

/-- Every amendment keeps the record of references in order. -/
theorem Referenced.step (h : L.Referenced) (amends : Amends L L') : L'.Referenced := by
  cases amends with
  | keeps => exact h
  | prepares => exact ⟨h.components, h.peopled⟩
  | registers =>
    refine ⟨fun y c hc => ?_, h.peopled⟩
    obtain ⟨hroster, hnames⟩ := h.components y c hc
    exact ⟨hroster, Table.contains_insert.mpr (.inr hnames)⟩
  | edits values =>
    refine ⟨fun y c hc => ?_, ?_⟩
    · exact h.components y c (has_component_edit ▸ hc)
    · exact (h.peopled.foldl_add _ _).foldl_remove _ _
  | @removes id n hfind honly =>
    refine ⟨fun y c hc => ?_, h.peopled.foldl_remove _ _⟩
    obtain ⟨hold, -⟩ := (Referrers.has_foldl_remove _ _ _).mp hc
    obtain ⟨hroster, hnames⟩ := h.components y c hold
    -- no component refers to what is removed
    have hne : y ≠ id := by
      rintro rfl
      cases honly _ (Referrers.has_iff.mp hold)
    exact ⟨hroster, Table.contains_erase.mpr ⟨hne, hnames⟩⟩
  | enlists id c =>
    refine ⟨fun y c hc => ?_, h.peopled⟩
    obtain ⟨hroster, hnames⟩ := h.components y c hc
    exact ⟨Table.contains_insert.mpr (.inr hroster), hnames⟩
  | dismisses id =>
    refine ⟨fun y c hc => ?_, Referrers.peopled_removeEverywhere _ _⟩
    obtain ⟨hold, hne⟩ := Referrers.has_removeEverywhere.mp hc
    obtain ⟨hroster, hnames⟩ := h.components y c hold
    exact ⟨Table.contains_erase.mpr ⟨fun heq => hne (congrArg _ heq), hroster⟩, hnames⟩
  | links htarget hid =>
    refine ⟨fun y c hc => ?_, h.peopled.add _ _⟩
    rcases Referrers.has_add.mp hc with ⟨rfl, heq⟩ | hold
    · cases heq
      exact ⟨hid, htarget⟩
    · exact h.components y c hold
  | unlinks target id =>
    exact ⟨fun y c hc => h.components y c (Referrers.has_remove.mp hc).1, h.peopled.remove _ _⟩

/-- What another registered service refers to is not removed. -/
theorem Regular.find?_step (h : L.Regular) (amends : Amends L L') {x y : ServiceId}
    {n m : Incarnation} (hn : L.find? x = some n) (hy : y ∈ (L.card n).references) (hne : x ≠ y)
    (hm : L.find? y = some m) : L'.find? y = some m := by
  cases amends with
  | keeps | prepares | edits | enlists | dismisses | links | unlinks => exact hm
  | @registers id _ _ _ _ _ hfree =>
    show (L.names.insert id L.size).get? y = some m
    have hyid : y ≠ id := by
      rintro rfl
      rw [hfree] at hm
      cases hm
    rw [Table.get?_insert, if_neg hyid]
    exact hm
  | @removes id k hfind honly =>
    show (L.names.erase id).get? y = some m
    have hyid : y ≠ id := by
      rintro rfl
      have hrecorded := Referrers.has_iff.mp ((h.indexed y x).mpr ⟨n, hn, hy⟩)
      exact hne (Referrer.service.inj (honly _ hrecorded))
    rw [Table.get?_erase, if_neg hyid]
    exact hm

end Ledger

/-! ## Record -/

/-- The record of references agrees with the properties of the registered services. -/
structure Provider.Indexed (p : Provider) : Prop where
  /-- What is recorded of a service is what its properties refer to. -/
  services : ∀ y x, .service x ∈ p.registry.referrers.of y ↔
    ∃ n, p.registry.find? x = some n ∧ y ∈ (p.service n).references
  /-- What the properties refer to is what stands in one of them. -/
  derived : ∀ x n, p.registry.find? x = some n → ∀ y,
    y ∈ (p.service n).references ↔ ∃ name, (p.service n).properties.get? name = some (.reference y)
  /-- A component on record is registered, and so is the service that it refers to. -/
  components : ∀ y c, .component c ∈ p.registry.referrers.of y →
    p.registry.roster.contains c = true ∧ p.registry.names.contains y = true
  /-- Every target on record has a referrer. -/
  peopled : ∀ y set, p.registry.referrers.sets.get? y = some set → set.toList ≠ []
  /-- No referrer is recorded twice for a target. -/
  nodup : ∀ y, (p.registry.referrers.of y).Nodup

namespace Setup

theorem referenced_after (setup : Setup) (events : List Event) :
    (setup.provider.after events).registry.ledger.Referenced := by
  refine setup.on_record_after ⟨fun y c hc => ?_, fun y set hset => ?_⟩
    (fun _ h amends => h.step amends) events
  · cases hc
  · cases hset

/-- After every run the record of references agrees with the properties, and whatever happens
next, no registered service to which another registered service refers is removed. -/
theorem indexed_after (setup : Setup) (events : List Event) :
    let p := setup.provider.after events
    p.Indexed ∧ ∀ (e : Event) (x y : ServiceId) (n m : Incarnation),
      p.registry.find? x = some n → y ∈ (p.service n).references → x ≠ y →
      p.registry.find? y = some m → (p.step e).registry.find? y = some m := by
  intro p
  have hnamed := (setup.lawful_after events).orderly.named
  have hreferenced := setup.referenced_after events
  refine ⟨⟨?_, ?_, ?_, hreferenced.peopled, ?_⟩, ?_⟩
  · intro y x
    rw [← Referrers.has_iff]
    exact hnamed.indexed y x
  · intro x n _ y
    exact (hnamed.coherent n y).trans Table.mem_values_iff
  · intro y c hc
    exact hreferenced.components y c (Referrers.has_iff.mpr hc)
  · intro y
    exact (p.registry.referrers.setOf y).nodup
  · intro e x y n m hn hy hne hm
    exact hnamed.regular.find?_step (Provider.amends_step hnamed e) hn hy hne hm

/-- One service refers to another, and so does a component. -/
def referringRun : List Event :=
  [.request (.create "plain" ⟨"a"⟩ false), .request (.create "plain" ⟨"b"⟩ false),
    .request (.setProperty ⟨"a"⟩ "upstream" "b"),
    .request (.registerComponent { id := ⟨"c"⟩ }), .request (.addReference ⟨"b"⟩ ⟨"c"⟩)]

/-- What is referred to is not removed when that is asked for. -/
theorem indexed_after_removal :
    let p := plain.provider.after referringRun
    (p.registry.referrers.of ⟨"b"⟩ = [.service ⟨"a"⟩, .component ⟨"c"⟩] ∧ p.Indexed) ∧
      (p.step (.request (.remove ⟨"b"⟩))).registry.find? ⟨"b"⟩ = some 1 :=
  ⟨⟨by decide +kernel, (indexed_after plain referringRun).1⟩,
    (indexed_after plain referringRun).2 (.request (.remove ⟨"b"⟩)) ⟨"a"⟩ ⟨"b"⟩ 0 1
      (by decide +kernel) (by decide +kernel) (by decide +kernel) (by decide +kernel)⟩

end Setup

end ServiceLifecycle

import ServiceLifecycle.Proofs.Amendments

/-!
# Verdicts on record

The verdict on a service depends on which other services exist, but it is not passed anew
whenever one comes or goes. It is enough to judge those anew who are on record as referring to
the one that comes; and nobody is left behind when one goes, since it goes only if nobody else
refers to it.

* **locality** — the standard validator looks only at the services that are referred to
  (`Validator.standard_isLocal`);
* **ledger** — every amendment judges those anew whose verdict it changes (`Ledger.Judged.step`);
* **verdicts** — the verdict on record is the one that would be passed now
  (`Setup.verdict_after`).
-/

namespace ServiceLifecycle

/-! ## Locality -/

/-- A validator that looks at no other services than those that the properties refer to. -/
def Validator.IsLocal (v : Validator) : Prop :=
  ∀ (c : ValidationContext) (serviceExists : ServiceId → Bool),
    (∀ y, .reference y ∈ c.properties.values.values → serviceExists y = c.serviceExists y) →
    v { c with serviceExists } = v c

theorem PropertyStore.reference_mem_of_entry {s : PropertyStore} {e : String × ServiceId}
    (he : e ∈ s.referenceEntries) : .reference e.2 ∈ s.values.values := by
  obtain ⟨⟨name, value⟩, hentry, hvalue⟩ := List.mem_filterMap.mp he
  cases value with
  | literal text => cases hvalue
  | reference id =>
    obtain rfl := Option.some.inj hvalue
    exact List.mem_map.mpr ⟨_, hentry, rfl⟩

theorem Validator.standard_isLocal : standard.IsLocal := by
  intro c serviceExists hsame
  have hdangling : danglingReasons { c with serviceExists } = danglingReasons c := by
    unfold danglingReasons
    refine congrArg (List.map _) (List.filter_congr fun e he => ?_)
    exact congrArg not (hsame e.2 (PropertyStore.reference_mem_of_entry he))
  unfold standard
  rw [hdangling]
  rfl

/-! ## Ledger -/

namespace Ledger

variable {L L' : Ledger} {n m : Incarnation}

/-- Whom the ledger is asked about is on record as the validator would judge it now. -/
structure Judged (L : Ledger) : Prop where
  isLocal : Validator.IsLocal L.settings.2.1
  current : ∀ id n, L.find? id = some n → (L.card n).verdict = L.verdict n

/-- A verdict stays current as long as nothing changes but services that are not referred to. -/
theorem current_of_same (hlocal : Validator.IsLocal L.settings.2.1)
    (hcoherent : (L.card n).properties.Coherent) (hcurrent : (L.card n).verdict = L.verdict n)
    (hsettings : L'.settings = L.settings) (hcard : L'.card n = L.card n)
    (hnames : ∀ y ∈ (L.card n).references, L'.names.contains y = L.names.contains y) :
    (L'.card n).verdict = L'.verdict n := by
  unfold verdict at hcurrent ⊢
  rw [hsettings, hcard, hcurrent]
  exact (hlocal { serviceExists := _, .. } _ fun y hy => hnames y ((hcoherent y).mpr hy)).symm

/-- Whoever is judged anew is on record with the current verdict. -/
theorem current_of_judge {ns : List Incarnation} (hn : n ∈ ns) (hsize : n < L.size) :
    ((L.judge ns).card n).verdict = (L.judge ns).verdict n := by
  rw [card_judge, if_pos ⟨hn, hsize⟩, verdict_judge]
  rfl

/-- Every amendment judges those anew whose verdict it changes. -/
theorem Judged.step (h : L.Judged) (hregular : L.Regular) (amends : Amends L L') : L'.Judged := by
  have hsettings := amends.settings
  refine ⟨hsettings ▸ h.isLocal, fun id n hn => ?_⟩
  -- a service that was registered before, is the same and refers to nothing that comes or goes
  have hsame : L.find? id = some n → L'.card n = L.card n →
      (∀ y ∈ (L.card n).references, L'.names.contains y = L.names.contains y) →
      (L'.card n).verdict = L'.verdict n := fun hfind hcard hnames =>
    current_of_same h.isLocal (hregular.coherent n) (h.current id n hfind) hsettings hcard hnames
  cases amends with
  | keeps | enlists | dismisses | links | unlinks => exact hsame hn rfl fun _ _ => rfl
  | prepares =>
    have hne : n ≠ L.size := Nat.ne_of_lt (hregular.within id n hn)
    exact hsame hn (Function.update_of_ne hne _ _) fun _ _ => rfl
  | @registers new typeName descriptors behaviour latestCounting latestScripted hfree =>
    have hfind : (L.names.insert new L.size).get? id = some n := hn
    by_cases hin : n ∈ L.size :: (L.referrers.services new).filterMap (L.names.insert new L.size).get?
    · refine current_of_judge hin ?_
      show n < L.size + 1
      rw [Table.get?_insert] at hfind
      split at hfind
      · exact Option.some.inj hfind ▸ Nat.lt_succ_self _
      · exact Nat.lt_succ_of_lt (hregular.within id n hfind)
    · rw [List.mem_cons, not_or] at hin
      obtain ⟨hsize, hwaiting⟩ := hin
      have hid : id ≠ new := by
        rintro rfl
        rw [Table.get?_insert, if_pos rfl] at hfind
        exact hsize (Option.some.inj hfind).symm
      have hold : L.find? id = some n := by
        rw [Table.get?_insert, if_neg hid] at hfind
        exact hfind
      refine hsame hold ?_ fun y hy => ?_
      · rw [card_judge, if_neg fun h => (List.mem_cons.mp h.1).elim hsize hwaiting]
        exact Function.update_of_ne hsize _ _
      · -- whoever refers to the new one has been waiting for it
        have hne : y ≠ new := by
          rintro rfl
          have hrecorded := (hregular.indexed y id).mpr ⟨n, hold, hy⟩
          exact hwaiting (List.mem_filterMap.mpr
            ⟨id, Referrers.mem_services_iff.mpr hrecorded, hfind⟩)
        rw [Bool.eq_iff_iff]
        exact Table.contains_insert.trans (or_iff_right hne)
  | @edits id' m values hfind =>
    by_cases hm : n = m
    · exact current_of_judge (List.mem_singleton.mpr hm) (hregular.within id n hn)
    · refine hsame hn ?_ fun _ _ => rfl
      rw [card_judge, if_neg fun hin => hm (List.mem_singleton.mp hin.1)]
      exact Function.update_of_ne hm _ _
  | @removes gone m hfind honly =>
    have hfound : (L.names.erase gone).get? id = some n := hn
    rw [Table.get?_erase] at hfound
    split at hfound
    · cases hfound
    · next hid =>
      have hne : n ≠ m := by
        rintro rfl
        exact hid ((hregular.own id n hfound).symm.trans (hregular.own gone n hfind))
      refine hsame hfound (Function.update_of_ne hne _ _) fun y hy => ?_
      -- nobody else refers to the one that goes
      have hy : y ≠ gone := by
        rintro rfl
        have hrecorded := (hregular.indexed y id).mpr ⟨n, hfound, hy⟩
        exact hid (Referrer.service.inj (honly _ (Referrers.has_iff.mp hrecorded)))
      rw [Bool.eq_iff_iff]
      exact Table.contains_erase.trans (and_iff_right hy)

end Ledger

/-! ## Verdicts -/

namespace Setup

theorem judged_after (setup : Setup) (hlocal : setup.validator.IsLocal) (events : List Event) :
    (setup.provider.after events).registry.ledger.Judged :=
  setup.on_record_after ⟨hlocal, fun _ _ h => nomatch h⟩ (fun hregular h => h.step hregular) events

/-- With the standard validator the verdict on record of a registered service is, after every
run, the one that the validator passes as things are then. -/
theorem verdict_after (setup : Setup) (hstandard : setup.validator = .standard)
    (events : List Event) :
    let p := setup.provider.after events
    ∀ (id : ServiceId) (n : Incarnation), p.registry.find? id = some n →
      (p.service n).verdict = Validator.standard
        { id := (p.service n).id
          descriptors := (p.service n).descriptors
          properties := (p.service n).properties
          serviceExists := fun k => p.registry.names.contains k } := by
  intro p id n hn
  have hlocal : setup.validator.IsLocal := hstandard ▸ Validator.standard_isLocal
  have hvalidator : p.registry.validator = .standard :=
    (congrArg (fun settings => settings.2.1) (setup.settings_after events)).trans hstandard
  exact hvalidator ▸ (setup.judged_after hlocal events).current id n hn

/-- A service refers to one that comes later, and that is on its way up at once. -/
def arrivingRun : List Event :=
  [.request (.create "plain" ⟨"a"⟩ false), .request (.setProperty ⟨"a"⟩ "upstream" "b"),
    .request (.create "plain" ⟨"b"⟩ true)] ++ Event.rounds 1 3

/-- A provider of plain services, under the standard validator. -/
def strict : Setup := { plain with validator := .standard }

theorem verdict_after_arrival :
    let p := strict.provider.after arrivingRun
    p.registry.find? ⟨"a"⟩ = some 0 ∧ (p.service 0).verdict = Validator.standard
      { id := (p.service 0).id
        descriptors := (p.service 0).descriptors
        properties := (p.service 0).properties
        serviceExists := fun k => p.registry.names.contains k } :=
  ⟨by decide +kernel, verdict_after strict rfl arrivingRun ⟨"a"⟩ 0 (by decide +kernel)⟩

end Setup

end ServiceLifecycle

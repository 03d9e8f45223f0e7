import ServiceLifecycle.Provider.Editing

/-!
# What becomes of the registry

A service is created, edited or removed, or else the request is refused. Each of these
requests is laid out here by its cases, with its answer and with all that it leaves behind.
Later proofs go through the cases and do not open the requests again.

* **creation** — `Provider.Creation`, `Provider.creation`;
* **edits** — `Provider.Revision`, `Provider.revision`;
* **removal** — `Provider.Removal`, `Provider.removal`.
-/

namespace ServiceLifecycle.Provider

variable {between : Interference} {p : Provider} {typeName : String} {id : ServiceId}

/-! ## Creation -/

/-- What is said when a service is created and cannot be enabled. -/
def refusalRemark (id : ServiceId) (e : RequestError) : Remark :=
  ⟨.warn, s!"Controller service {id.text} was not enabled on creation: {e.message}"⟩

/-- The refusal of a request is recorded as the fault of a service. -/
def blame (p : Provider) (n : Incarnation) (message : String) : Provider :=
  p.modify n fun s => { s with fault := some ⟨.rejected, message⟩ }

/-- An instance is made of an implementation and registered. -/
def enrol (between : Interference) (p : Provider) (made : Implementation) (typeName : String)
    (id : ServiceId) : Provider :=
  ((p.instantiate made typeName id).2.register between p.registry.services.size id).say
    ⟨.info, s!"Created controller service {id.text} of type {typeName}"⟩

/-- What the creation of a service comes to, and what is answered. -/
inductive Creation (between : Interference) (p : Provider) (typeName : String) (id : ServiceId) :
    Bool → Except RequestError Incarnation × Provider → Prop
  | unknown {enabled : Bool} : p.registry.catalogue.instantiate? typeName id = none →
      Creation between p typeName id enabled (.error (.unknownServiceType typeName), p)
  /-- The name turns out to be taken when the instance has been made. -/
  | taken {enabled : Bool} {made : Implementation} {n : Incarnation} :
      p.registry.catalogue.instantiate? typeName id = some made → p.registry.find? id = some n →
      Creation between p typeName id enabled
        (.error (.duplicateId id), (p.instantiate made typeName id).2)
  | enrolled {made : Implementation} :
      p.registry.catalogue.instantiate? typeName id = some made → p.registry.find? id = none →
      Creation between p typeName id false
        (.ok p.registry.services.size, p.enrol between made typeName id)
  | enabled {made : Implementation} {i : TaskId} {r : Provider} :
      p.registry.catalogue.instantiate? typeName id = some made → p.registry.find? id = none →
      (p.enrol between made typeName id).enable between id = (.ok i, r) →
      Creation between p typeName id true (.ok p.registry.services.size, r)
  /-- The service is to be enabled at once, but that is refused. -/
  | refused {made : Implementation} {e : RequestError} {r : Provider} :
      p.registry.catalogue.instantiate? typeName id = some made → p.registry.find? id = none →
      (p.enrol between made typeName id).enable between id = (.error e, r) →
      Creation between p typeName id true
        (.ok p.registry.services.size,
          (r.say (refusalRemark id e)).blame p.registry.services.size e.message)

theorem creation (between : Interference) (p : Provider) (typeName : String) (id : ServiceId)
    (enabled : Bool) :
    Creation between p typeName id enabled (p.create between typeName id enabled) := by
  unfold create
  split
  · next hunknown => exact .unknown hunknown
  · next made hmade =>
    dsimp only
    split
    · next htaken =>
      obtain ⟨n, hn⟩ := Option.isSome_iff_exists.mp htaken
      exact .taken hmade hn
    · next hfree =>
      have hfree : p.registry.find? id = none := Option.not_isSome_iff_eq_none.mp hfree
      split
      · next henabled =>
        subst henabled
        split
        · next heq => exact .enabled hmade hfree heq
        · next heq => exact .refused hmade hfree heq
      · next hdown =>
        obtain rfl := eq_false_of_ne_true hdown
        exact .enrolled hmade hfree

/-! ## Edits -/

/-- What an edit of the properties of a service comes to, and what is answered. -/
inductive Revision (between : Interference) (p : Provider) (id : ServiceId)
    (change : Service → PropertyStore × ReferenceChange) (remark : Remark) :
    Except RequestError Unit × Provider → Prop
  | refused (e : RequestError) : Revision between p id change remark (.error e, p)
  | done {n : Incarnation} : p.registry.find? id = some n → (p.service n).removed = false →
      (p.service n).state = .disabled →
      Revision between p id change remark
        (.ok (), (((p.modify n fun s => { s with properties := (change (p.service n)).1 }).applyChange
          id (change (p.service n)).2).revalidate between n).say remark)

theorem revision (between : Interference) (p : Provider) (id : ServiceId)
    (change : Service → PropertyStore × ReferenceChange) (remark : Remark) :
    Revision between p id change remark (p.edit between id change remark) := by
  unfold edit
  split
  · exact .refused _
  · next n hfind =>
    dsimp only
    split
    · exact .refused _
    · next hremoved =>
      split
      · exact .refused _
      · next hdown => exact .done hfind (eq_false_of_ne_true hremoved) (Decidable.not_not.mp hdown)

/-! ## Removal -/

/-- What a service keeps in memory is given up, if it keeps anything. -/
theorem dropMemory_eq (p : Provider) (id : ServiceId) :
    ∃ log, p.dropMemory id = { p with registry := { p.registry with
      memory := p.registry.memory.drop id.text, log } } := by
  unfold dropMemory
  split
  · exact ⟨_, rfl⟩
  · next hnone =>
    have hnone : p.registry.memory.current.get? id.text = none :=
      Option.not_isSome_iff_eq_none.mp hnone
    refine ⟨p.registry.log, ?_⟩
    rw [Memory.drop, hnone]

/-- What the removal of a service comes to, and what is answered. -/
inductive Removal (p : Provider) (id : ServiceId) : Except RequestError Unit × Provider → Prop
  | refused (e : RequestError) : Removal p id (.error e, p)
  /-- Only the service itself refers to it. -/
  | done {n : Incarnation} (log : List Remark) : p.registry.find? id = some n →
      (∀ x ∈ p.registry.referrers.of id, x = .service id) → (p.service n).removed = false →
      (p.service n).state = .disabled →
      Removal p id (.ok (), { p with registry :=
        { p.registry.modify n fun s => { s with removed := true } with
          names := p.registry.names.erase id
          referrers := (p.service n).references.foldl
            (fun rs target => rs.remove target (.service id)) p.registry.referrers
          memory := p.registry.memory.drop id.text
          log } })

theorem removal (p : Provider) (id : ServiceId) : Removal p id (p.remove id) := by
  unfold remove
  split
  · exact .refused _
  · next n hfind =>
    dsimp only
    split
    · exact .refused _
    · next hothers =>
      have honly : ∀ x ∈ p.registry.referrers.of id, x = .service id := by simpa using hothers
      split
      · exact .refused _
      · next hremoved =>
        split
        · exact .refused _
        · next hdown =>
          generalize hq : Provider.mk _ _ _ _ _ = q
          obtain ⟨log, heq⟩ := dropMemory_eq q id
          rw [heq, ← hq]
          exact .done _ hfind honly (eq_false_of_ne_true hremoved) (Decidable.not_not.mp hdown)

end ServiceLifecycle.Provider

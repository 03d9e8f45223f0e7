import ServiceLifecycle.Proofs.Amendments
import ServiceLifecycle.Proofs.Ascent

/-!
# What a request to enable comes to

A request to enable services is refused before anything happens, or not at all: once it has been
checked that the services asked for may be enabled, none of their claims fails, whatever becomes of
the other elements of their branches.

* **obstacles** — what stands in the way of a service (`Provider.Bars`) and what makes sure that
  nothing does (`Provider.MayRise`);
* **one service** — exactly when it is enabled, and the error if it is not
  (`Setup.enable_exact`);
* **several services** — exactly when they are enabled, what else is, and in what order
  (`Setup.enableAll_exact`).
-/

namespace ServiceLifecycle

open Relation

namespace Provider

variable {p q : Provider} {n m : Incarnation} {ns : List Incarnation} {id y : ServiceId}
  {ids willEnable : List ServiceId} {e : RequestError}

/-! ## Obstacles -/

/-- A service that another one refers to is registered, and it is active, or it is down and about to
be enabled, as the services `ids` are. -/
def Serves (p : Provider) (ids : List ServiceId) (y : ServiceId) : Prop :=
  ∃ state, p.registry.stateOf? y = some state ∧
    (state.isActive = true ∨ state = .disabled ∧ y ∈ ids)

/-- All that the properties of a service refer to serves it, and the validator accepts it. -/
structure MayRise (p : Provider) (ids : List ServiceId) (n : Incarnation) : Prop where
  served : ∀ entry ∈ (p.service n).properties.referenceEntries, p.Serves ids entry.2
  valid : p.verdict n = .valid

/-- What stands in the way of enabling a service along with the services `ids`: the first of its
properties, in their order, that refers to something that does not serve it, or else what the
validator objects to. -/
inductive Bars (p : Provider) (ids : List ServiceId) (n : Incarnation) : RequestError → Prop
  | unresolved {before after : List (String × ServiceId)} {name : String} {y : ServiceId} :
      (p.service n).properties.referenceEntries = before ++ (name, y) :: after →
      (∀ entry ∈ before, p.Serves ids entry.2) → p.registry.stateOf? y = none →
      p.Bars ids n (.unresolvedReference (p.service n).id name y)
  | inactive {before after : List (String × ServiceId)} {name : String} {y : ServiceId}
      {state : ServiceState} :
      (p.service n).properties.referenceEntries = before ++ (name, y) :: after →
      (∀ entry ∈ before, p.Serves ids entry.2) → p.registry.stateOf? y = some state →
      ¬ p.Serves ids y →
      p.Bars ids n (.invalidState (p.service n).id s!"referenced service {y.text} is {state.text}")
  | invalid {reasons : List String} :
      (∀ entry ∈ (p.service n).properties.referenceEntries, p.Serves ids entry.2) →
      p.verdict n = .invalid reasons → p.Bars ids n (.invalid (p.service n).id reasons)

/-- Where something stands in the way a service may not be enabled. -/
theorem Bars.not_mayRise (h : p.Bars ids n e) : ¬ p.MayRise ids n := by
  intro hmay
  cases h with
  | @unresolved before after name y hentries _ hnone =>
    obtain ⟨state, hstate, -⟩ := hmay.served (name, y) (by simp [hentries])
    exact absurd (hnone.symm.trans hstate) (by simp)
  | @inactive before after name y state hentries _ _ hnot =>
    exact hnot (hmay.served (name, y) (by simp [hentries]))
  | invalid _ hinvalid => exact absurd (hinvalid.symm.trans hmay.valid) (by simp)

/-- What the validator is shown of a service. -/
def context (p : Provider) (n : Incarnation) : ValidationContext where
  id := (p.service n).id
  descriptors := (p.service n).descriptors
  properties := (p.service n).properties
  serviceExists := fun k => p.registry.names.contains k

/-- By the time the standard validator is asked, nothing is missing but required properties. -/
theorem Bars.reasons_standard {reasons : List String}
    (hstandard : p.registry.validator = .standard) (h : p.Bars ids n (.invalid id reasons)) :
    Validator.danglingReasons (p.context n) = [] ∧
      reasons = Validator.missingReasons (p.context n) := by
  obtain ⟨hserved, hverdict⟩ : (∀ entry ∈ (p.service n).properties.referenceEntries,
      p.Serves ids entry.2) ∧ p.verdict n = .invalid reasons := by
    cases h with
    | invalid hserved hverdict => exact ⟨hserved, hverdict⟩
  have hnone : Validator.danglingReasons (p.context n) = [] := by
    refine List.map_eq_nil_iff.mpr (List.filter_eq_nil_iff.mpr ?_)
    intro entry hentry
    obtain ⟨state, hstate, -⟩ := hserved entry hentry
    obtain ⟨s, hs, -⟩ := Option.map_eq_some_iff.mp hstate
    obtain ⟨m, hm, -⟩ := Option.map_eq_some_iff.mp hs
    show ¬ (!(p.registry.names.get? entry.2).isSome) = true
    rw [show p.registry.names.get? entry.2 = some m from hm]
    simp
  refine ⟨hnone, ?_⟩
  have hasked : p.verdict n = Validator.standard (p.context n) :=
    congrArg (fun validator : Validator => validator (p.context n)) hstandard
  rw [hverdict, Validator.standard, hnone, List.append_nil] at hasked
  cases hmissing : Validator.missingReasons (p.context n) with
  | nil => rw [hmissing] at hasked; cases hasked
  | cons reason rest => rw [hmissing] at hasked; exact Verdict.invalid.inj hasked

/-- Whatever a service refers to that may be enabled serves it. -/
theorem MayRise.serves (h : p.MayRise ids n) (hcoherent : (p.service n).properties.Coherent)
    (hy : y ∈ (p.service n).references) : p.Serves ids y := by
  rw [Service.references, hcoherent y, Table.values, List.mem_map] at hy
  obtain ⟨entry, hentry, hvalue⟩ := hy
  exact h.served (entry.1, y) (List.mem_filterMap.mpr ⟨entry, hentry, by rw [hvalue]; rfl⟩)

/-- The services `willEnable` are those of the services `ids` that are down. -/
def Enlists (p : Provider) (ids willEnable : List ServiceId) : Prop :=
  ∀ y, y ∈ willEnable ↔ p.registry.stateOf? y = some .disabled ∧ y ∈ ids

theorem enlists_nil (p : Provider) : p.Enlists [] [] := by
  intro y
  simp

theorem MayRise.allows (h : p.MayRise ids n) (hwill : p.Enlists ids willEnable)
    (hcoherent : (p.service n).properties.Coherent) : p.scene.Allows n willEnable := by
  intro y hy _
  obtain ⟨state, hstate, hwhy⟩ := h.serves hcoherent hy
  rw [stateOf?_scene, hstate, hwill y]
  refine hwhy.imp_right ?_
  rintro ⟨rfl, hin⟩
  exact ⟨rfl, hstate, hin⟩

/-- What is found to stand in the way of a service when one of its properties is looked at. -/
def obstacle? (p : Provider) (n : Incarnation) (willEnable : List ServiceId)
    (entry : String × ServiceId) : Option RequestError :=
  (p.registry.stateOf? entry.2).elim
    (some (.unresolvedReference (p.service n).id entry.1 entry.2)) fun state =>
      if state.isActive || willEnable.contains entry.2 then none
      else some (.invalidState (p.service n).id
        s!"referenced service {entry.2.text} is {state.text}")

theorem referenceObstacle?_eq (p : Provider) (n : Incarnation) (willEnable : List ServiceId) :
    p.referenceObstacle? n (p.service n).properties willEnable =
      (p.service n).properties.referenceEntries.findSome? (p.obstacle? n willEnable) := by
  unfold referenceObstacle?
  refine congrArg (List.findSome? · _) (funext fun entry => ?_)
  unfold obstacle?
  cases p.registry.stateOf? entry.2 <;> rfl

/-- Nothing is found if what the property refers to serves the service. -/
theorem obstacle?_eq_none (hwill : p.Enlists ids willEnable) {entry : String × ServiceId} :
    p.obstacle? n willEnable entry = none ↔ p.Serves ids entry.2 := by
  unfold obstacle? Serves
  cases hstate : p.registry.stateOf? entry.2 with
  | none => simp
  | some state =>
    have hin := hwill entry.2
    rw [hstate, Option.some.injEq] at hin
    simp [hin, or_iff_not_imp_left]

/-- One of the properties of a service stands in the way, the first that does, or all that they
refer to serves it. -/
theorem referenceObstacle?_cases (hwill : p.Enlists ids willEnable) (n : Incarnation) :
    (∃ e, p.Bars ids n e ∧
      p.referenceObstacle? n (p.service n).properties willEnable = some e) ∨
    (∀ entry ∈ (p.service n).properties.referenceEntries, p.Serves ids entry.2) ∧
      p.referenceObstacle? n (p.service n).properties willEnable = none := by
  rw [referenceObstacle?_eq]
  cases hfirst : (p.service n).properties.referenceEntries.findSome? (p.obstacle? n willEnable) with
  | none =>
    refine .inr ⟨fun entry hin => ?_, rfl⟩
    exact (obstacle?_eq_none hwill).mp (List.findSome?_eq_none_iff.mp hfirst entry hin)
  | some e =>
    obtain ⟨before, ⟨name, y⟩, after, hsplit, hobstacle, hbefore⟩ :=
      List.findSome?_eq_some_iff.mp hfirst
    have hserved : ∀ entry ∈ before, p.Serves ids entry.2 := by
      intro entry hin
      exact (obstacle?_eq_none hwill).mp (hbefore entry hin)
    have hnot : ¬ p.Serves ids y := by
      intro hserves
      have hnone : p.obstacle? n willEnable (name, y) = none :=
        (obstacle?_eq_none hwill).mpr hserves
      exact absurd (hnone.symm.trans hobstacle) (by simp)
    refine .inl ⟨e, ?_, rfl⟩
    unfold obstacle? at hobstacle
    cases hstate : p.registry.stateOf? y with
    | none =>
      rw [hstate] at hobstacle
      exact Option.some.inj hobstacle ▸ .unresolved hsplit hserved hstate
    | some state =>
      rw [hstate, Option.elim_some] at hobstacle
      split at hobstacle
      · cases hobstacle
      · exact Option.some.inj hobstacle ▸ .inactive hsplit hserved hstate hnot

/-- What is found to stand in the way of a service. -/
def objection? (p : Provider) (willEnable : List ServiceId) (n : Incarnation) :
    Option RequestError :=
  (p.referenceObstacle? n (p.service n).properties willEnable).or
    (match p.verdict n with
      | .valid => none
      | .invalid reasons => some (.invalid (p.service n).id reasons))

/-- The check of a service fails if something is found to stand in its way. -/
theorem verifyCanEnable_eq (p : Provider) (log : List Remark) (n : Incarnation)
    (willEnable : List ServiceId) :
    (p.withLog log).verifyCanEnable undisturbed n willEnable =
      (match p.objection? willEnable n with
        | some e => .error e
        | none => .ok (), p.withLog log) := by
  have hobstacle : (p.withLog log).referenceObstacle? n ((p.withLog log).service n).properties
      willEnable = p.referenceObstacle? n (p.service n).properties willEnable := rfl
  have hjudge : (p.withLog log).judge undisturbed n ((p.withLog log).service n).properties =
      (p.verdict n, p.withLog log) := judge_undisturbed _ _ _
  unfold verifyCanEnable objection?
  dsimp only
  rw [hobstacle, hjudge]
  cases p.referenceObstacle? n (p.service n).properties willEnable with
  | some e => rfl
  | none => cases p.verdict n <;> rfl

/-- Something is found if it stands in the way, and nothing otherwise. -/
theorem objection?_cases (hwill : p.Enlists ids willEnable) (n : Incarnation) :
    (∃ e, p.Bars ids n e ∧ p.objection? willEnable n = some e) ∨
      p.MayRise ids n ∧ p.objection? willEnable n = none := by
  unfold objection?
  rcases referenceObstacle?_cases hwill n with ⟨e, hbars, hsome⟩ | ⟨hserved, hnone⟩
  · rw [hsome]
    exact .inl ⟨e, hbars, rfl⟩
  · rw [hnone]
    cases hverdict : p.verdict n with
    | valid => exact .inr ⟨⟨hserved, hverdict⟩, rfl⟩
    | invalid reasons => exact .inl ⟨_, .invalid hserved hverdict, rfl⟩

/-! ## One service -/

/-- The elements of the branch of a service can be submitted one after the other. -/
theorem ready_of_branch (hnamed : Scene.Named p.scene)
    {nodes : Table ServiceId (Graph.Vertex Incarnation)} (hspans : Spans nodes p.scene ns)
    {target : Graph.Vertex Incarnation} (htarget : nodes.get? target.id = some target) :
    ∀ front v back, Graph.enablingBranch nodes target = front ++ v :: back → p.Ready front v := by
  intro front v back hsplit
  have hv : nodes.get? v.id = some v := hspans.stored htarget (hsplit ▸ by simp)
  have hfind := hspans.registered _ v hv
  have hid : (p.service v.item).id = v.id := (hnamed.own _ _ hfind).1
  refine ⟨hid ▸ hfind, hid.symm, ?_⟩
  intro hacyclic m hrefers
  -- what the service refers to stands before it in the branch
  obtain ⟨u, hu, rfl⟩ := hspans.complete v hv m hrefers
  refine ⟨u, Graph.branch_before hspans.own htarget hu ?_ ?_ hsplit, rfl⟩
  · rintro rfl
    exact hacyclic _ (.single hrefers)
  · intro hback
    exact hacyclic _ (TransGen.head' hrefers (hspans.reaches hu.2 hback))

theorem sayNotes_eq (p : Provider) (walk : Graph.Walk Incarnation) :
    ∃ log, p.sayNotes walk = p.withLog log := by
  unfold sayNotes
  rw [sayAll_eq]
  exact ⟨_, rfl⟩

/-- A request to enable a service gives the task of its claim. -/
theorem enable_of_submitted (hn : p.registry.find? id = some n)
    (hdown : (p.service n).state = .disabled) (hnone : p.objection? [] n = none)
    {submission : Submission}
    {i : TaskId} {claimed : Claimed}
    (hsubmit : submitBranch
      (Graph.walkFrom (p.registry.dependencyGraph [n]) (p.registry.vertex n)).branch [] .empty
      (p.sayNotes (Graph.walkFrom (p.registry.dependencyGraph [n]) (p.registry.vertex n))) =
        (submission, q))
    (hlast : submission.last = some (i, claimed))
    (hinitiated : submission.initiated.contains id = true) :
    p.enable undisturbed id = (.ok i, q) := by
  have hverify := p.verifyCanEnable_eq p.registry.log n []
  rw [hnone] at hverify
  have hverify : p.verifyCanEnable undisturbed n [] = (.ok (), p) := hverify
  unfold Provider.enable
  rw [hn]
  dsimp only
  rw [if_neg (not_not.mpr hdown), hverify]
  dsimp only
  rw [hsubmit]
  dsimp only
  rw [hlast]
  dsimp only
  rw [if_pos hinitiated]

/-- What comes of a request to enable the service `n` that is not refused: the service is on its way
up, and the task `i` brings it there. Whatever else comes on its way up is needed by it, and apart
from that nothing has happened. -/
structure Starts (p : Provider) (n : Incarnation) (i : TaskId) (q : Provider) : Prop where
  enabling : (q.service n).state = .enabling
  faultless : (q.service n).fault = none
  transition : (q.service n).transition = some i
  job : ∃ t, q.tasks.tasks[i]? = some t ∧ t.job = some (.enable n)
  rest : ∃ ns, p.Lifted ns q ∧ ∀ m ∈ ns, m = n ∨ TransGen p.Refers n m

/-- What a request to enable a service is refused for. -/
inductive Denies (p : Provider) (id : ServiceId) : RequestError → Prop
  | unknown : p.registry.find? id = none → p.Denies id (.notFound id)
  | occupied {n : Incarnation} : p.registry.find? id = some n → (p.service n).state ≠ .disabled →
      p.Denies id (.invalidState id s!"cannot enable a service that is {(p.service n).state.text}")
  | barred {n : Incarnation} {e : RequestError} : p.registry.find? id = some n →
      (p.service n).state = .disabled → p.Bars [] n e → p.Denies id e

section Alone

variable (hnamed : Scene.Named p.scene) (hn : p.registry.find? id = some n)

include hnamed hn

theorem spans_alone : Spans (p.registry.dependencyGraph [n]) p.scene [n] :=
  spans_dependencyGraph hnamed fun _ hm => List.mem_singleton.mp hm ▸ hnamed.registered hn

theorem stored_alone : (p.registry.dependencyGraph [n]).get? (p.registry.vertex n).id =
    some (p.registry.vertex n) :=
  Registry.dependencyGraph_given
    (fun _ hm => List.mem_singleton.mp hm ▸ hnamed.registered hn) (List.mem_singleton_self n)

/-- A service that is down and may be enabled on its own does not refer to itself. -/
theorem MayRise.not_self (hmay : p.MayRise [] n) (hdown : (p.service n).state = .disabled) :
    (p.service n).id ∉ (p.service n).references := by
  intro hin
  have hfind : p.registry.find? (p.service n).id = some n := hnamed.registered hn
  obtain ⟨state, hstate, hactive | ⟨-, hnil⟩⟩ := hmay.serves (hnamed.coherent n) hin
  · rw [stateOf?_eq hfind, hdown] at hstate
    obtain rfl := Option.some.inj hstate
    cases hactive
  · cases hnil

/-- Once all that stands before it in its branch has been submitted, it is claimed. -/
theorem MayRise.claimed (hmay : p.MayRise [] n) (hdown : (p.service n).state = .disabled)
    {front : List (Graph.Vertex Incarnation)}
    (hbranch : Graph.enablingBranch (p.registry.dependencyGraph [n]) (p.registry.vertex n) =
      front ++ [p.registry.vertex n]) (hfront : p.registry.vertex n ∉ front) (log : List Remark) :
    let last := (front ++ [p.registry.vertex n]).foldl (submitElement []) ({}, p.withLog log)
    ∃ i ms, p.Progress [] [] (front ++ [p.registry.vertex n]) (ms ++ [n]) last ∧
      last.1.last = some (i, .initiated) ∧ (last.2.service n).transition = some i := by
  have hready := ready_of_branch hnamed (spans_alone hnamed hn) (stored_alone hnamed hn)
  have hfronts : ∀ before v after, front = before ++ v :: after → p.Ready before v := by
    intro before v after hsplit
    exact hready before v (after ++ [p.registry.vertex n]) (by rw [hbranch, hsplit]; simp)
  have hwill : p.Permits [] := fun _ _ _ hin => by cases hin
  obtain ⟨ms, hprogress⟩ := Progress.branch hnamed hwill hfronts
    (.start p [] log .empty fun _ hin => by cases hin)
  rw [List.foldl_append]
  rcases hprogress.element hnamed hwill (hready front _ [] hbranch) with
    ⟨hlast, hi, htransition⟩ | ⟨-, hin | hup | hnot⟩
  · exact ⟨_, ms, hlast, hi, htransition⟩
  · -- it stands in its branch only once
    obtain ⟨v, hv, hvn⟩ := hprogress.within n hin
    have hstored := (spans_alone hnamed hn).stored (stored_alone hnamed hn)
      (hbranch ▸ List.mem_append_left _ hv)
    obtain ⟨before, after, hsplit⟩ := List.append_of_mem hv
    have hvid : v.id = (p.registry.vertex n).id := by
      rw [(hfronts before v after hsplit).id_eq, hvn]
      rfl
    exact absurd (Graph.eq_of_find hstored (stored_alone hnamed hn) hvid ▸ hv) hfront
  · exact absurd hdown hup
  · exact absurd (hmay.allows p.enlists_nil (hnamed.coherent n)) hnot

/-- A service that may be enabled is. -/
theorem MayRise.enable (hmay : p.MayRise [] n) (hdown : (p.service n).state = .disabled)
    (hnone : p.objection? [] n = none) :
    ∃ i q, p.enable undisturbed id = (.ok i, q) ∧ p.Starts n i q := by
  have hid : (p.service n).id = id := (hnamed.own id n hn).1
  have hspans := spans_alone hnamed hn
  obtain ⟨front, hbranch, hfront⟩ := Graph.enablingBranch_concat hspans.own
    (stored_alone hnamed hn) (hmay.not_self hnamed hn hdown)
  have hwalk : (Graph.walkFrom (p.registry.dependencyGraph [n]) (p.registry.vertex n)).branch =
      front ++ [p.registry.vertex n] := hbranch
  obtain ⟨log, hlog⟩ :=
    p.sayNotes_eq (Graph.walkFrom (p.registry.dependencyGraph [n]) (p.registry.vertex n))
  obtain ⟨i, ms, hlast, hi, htransition⟩ := hmay.claimed hnamed hn hdown hbranch hfront log
  obtain ⟨j, t, hservice, -, ht, hjob⟩ := hlast.lifted.rising n (by simp)
  obtain rfl : j = i :=
    Option.some.inj ((congrArg Service.transition hservice).symm.trans htransition)
  refine ⟨j, _, enable_of_submitted hn hdown hnone ?_ hi ?_, by rw [hservice]; rfl,
    by rw [hservice]; rfl, htransition, ⟨t, ht, hjob⟩, _, hlast.lifted, ?_⟩
  · rw [hlog, hwalk, submitBranch_eq]
  · rw [OrderedSet.contains_iff, hlast.initiated, ← hid]
    exact List.mem_append_right _ (List.mem_map_of_mem (by simp))
  · intro m hm
    obtain ⟨v, hv, rfl⟩ := hlast.within m hm
    obtain ⟨k, hk, hpath⟩ := hspans.needed _ v
      (hspans.stored (stored_alone hnamed hn) (hbranch ▸ hv))
    obtain rfl := List.mem_singleton.mp hk
    exact reflTransGen_iff_eq_or_transGen.mp hpath

end Alone

/-- A request to enable a service is denied, and then nothing happens, or it is not, and then the
service comes on its way up. -/
theorem enable_cases (h : Scene.Named p.scene) (id : ServiceId) :
    (∃ n, p.registry.find? id = some n ∧ (p.service n).state = .disabled ∧ p.MayRise [] n ∧
      ∃ i q, p.enable undisturbed id = (.ok i, q) ∧ p.Starts n i q) ∨
    (¬ ∃ n, p.registry.find? id = some n ∧ (p.service n).state = .disabled ∧ p.MayRise [] n) ∧
      ∃ e, p.Denies id e ∧ p.enable undisturbed id = (.error e, p) := by
  cases hfind : p.registry.find? id with
  | none =>
    refine .inr ⟨by simp, _, .unknown hfind, ?_⟩
    simp only [enable, hfind]
  | some n =>
    by_cases hdown : (p.service n).state = .disabled
    · rcases objection?_cases p.enlists_nil n with ⟨e, hbars, hsome⟩ | ⟨hmay, hnone⟩
      · have hverify := p.verifyCanEnable_eq p.registry.log n []
        rw [hsome] at hverify
        have hverify : p.verifyCanEnable undisturbed n [] = (.error e, p) := hverify
        refine .inr ⟨?_, e, .barred hfind hdown hbars, ?_⟩
        · rintro ⟨m, hm, -, hmay⟩
          obtain rfl := Option.some.inj hm
          exact hbars.not_mayRise hmay
        · simp only [enable, hfind, hdown, hverify, ne_eq, not_true_eq_false, if_false]
      · exact .inl ⟨n, rfl, hdown, hmay, hmay.enable h hfind hdown hnone⟩
    · refine .inr ⟨?_, _, .occupied hfind hdown, ?_⟩
      · rintro ⟨m, hm, hdisabled, -⟩
        obtain rfl := Option.some.inj hm
        exact hdown hdisabled
      · simp only [enable, hfind, ne_eq, hdown, not_false_eq_true, if_true]

end Provider

/-- After every run, a service is enabled, by a request during which nobody gets in, exactly if it
is registered and down, all that its properties refer to is active, and the validator accepts it.
It is on its way up then, and the task given brings it up. Otherwise nothing happens, and the error
says what is wrong with the request, the service, the first property that stands in the way, or
whatever the validator finds, in this order. -/
theorem Setup.enable_exact (setup : Setup) (events : List Event) (id : ServiceId) :
    let p := setup.provider.after events
    (∃ n, p.registry.find? id = some n ∧ (p.service n).state = .disabled ∧ p.MayRise [] n ∧
      ∃ i q, p.enable undisturbed id = (.ok i, q) ∧ p.Starts n i q) ∨
    (¬ ∃ n, p.registry.find? id = some n ∧ (p.service n).state = .disabled ∧ p.MayRise [] n) ∧
      ∃ e, p.Denies id e ∧ p.enable undisturbed id = (.error e, p) ∧
        (setup.validator = .standard → ∀ n reasons, p.registry.find? id = some n →
          e = .invalid id reasons → Validator.danglingReasons (p.context n) = [] ∧
            reasons = Validator.missingReasons (p.context n)) := by
  intro p
  refine (Provider.enable_cases (setup.lawful_after events).orderly.named id).imp_right ?_
  rintro ⟨hnot, e, hdenies, hrefused⟩
  refine ⟨hnot, e, hdenies, hrefused, ?_⟩
  rintro hstandard n reasons hn rfl
  have hvalidator : p.registry.validator = .standard :=
    (congrArg (fun settings => settings.2.1) (setup.settings_after events)).trans hstandard
  cases hdenies with
  | barred hn' _ hbars =>
    obtain rfl := Option.some.inj (hn.symm.trans hn')
    exact hbars.reasons_standard hvalidator

end ServiceLifecycle

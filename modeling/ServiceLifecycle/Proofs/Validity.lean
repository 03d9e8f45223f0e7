import ServiceLifecycle.Proofs.Run

/-!
# What has been validated when it is claimed

A request consults the validator about each service that it is asked to enable, and about
no other. So what is claimed for activation at its own request is valid at that moment. The
branch of such a service may hold others that are down, but only below one that was on its
way up before: then these are claimed along with it, whatever has become of them in the
meantime.

* **rise** — only a request to enable moves a service from disabled on
  (`Scene.Owned.cause_of_rise`);
* **branches** — what is needed by the targets of a request is a target, up, or on its way
  up, or below a service on its way up (`Scene.Supported.involved`), and nothing else is
  claimed (`Provider.Raises.risen`);
* **validity** — the whole of it, for every run (`Setup.requested_validated`); what is below
  a service on its way up need not be valid (`Setup.drawn_unvalidated`).
-/

namespace ServiceLifecycle

open Relation

namespace Scene

variable {S S' : Scene} {cause : Cause} {n m : Incarnation} {targets : List Incarnation}
  {validator : Validator}

/-- What a validator says of a service with the properties that it has. -/
def verdict (S : Scene) (validator : Validator) (n : Incarnation) : Verdict :=
  validator
    { id := (S.service n).id, descriptors := (S.service n).descriptors
      properties := (S.service n).properties, serviceExists := fun id => (S.find? id).isSome }

theorem SameGraph.verdict (h : SameGraph S S') (validator : Validator) (n : Incarnation) :
    S'.verdict validator n = S.verdict validator n := by
  simp only [Scene.verdict, h.find?, h.id, h.descriptors, h.properties]

/-! ## Rise -/

/-- Only a request to enable moves a service that is down. -/
theorem Owned.cause_of_rise (h : Owned S) (change : Change S cause S')
    (hdown : (S.service n).state = .disabled) (hrisen : (S'.service n).state ≠ .disabled) :
    cause = .claim .up := by
  -- one service is put in another condition
  have hput : ∀ {k : Incarnation} {s : Service} {T : Scene},
      (T.put k s).service n = S'.service n → T.service n = S.service n →
      (n = k → s.state = .disabled) → cause = .claim .up := by
    intro k s T hservice hold hs
    rw [← hservice, service_put] at hrisen
    split at hrisen
    · next heq => exact absurd (hs heq) hrisen
    · exact absurd (hold ▸ hdown) hrisen
  cases change with
  | appears id typeName descriptors behaviour isRegistered =>
    by_cases heq : n = S.size
    · rw [heq, service_appear_self] at hrisen
      exact absurd rfl hrisen
    · rw [service_appear_of_ne heq] at hrisen
      exact absurd hdown hrisen
  | edits | removes | blames | sleeps => exact hput rfl rfl fun heq => heq ▸ hdown
  | shuts | stops | joins | advances | confirms | denies | drops => exact absurd hdown hrisen
  | @claims d k name gates _ horigin =>
    cases d with
    | up => rfl
    | down =>
      refine hput (T := S.push name gates _) rfl rfl fun heq => ?_
      rw [← heq, hdown] at horigin
      cases horigin
  | @concludes i t k entries state fault ending ht hconcludes =>
    obtain ⟨d, hjob, hlive, -⟩ := hconcludes.direction
    refine hput (T := S) rfl rfl fun heq => ?_
    have hvia := (h.held i t d k ht hjob hlive).1
    rw [← heq, hdown] at hvia
    exact absurd hvia.symm d.via_ne_disabled

/-- What is down stays down as long as nobody asks for services to be enabled. -/
theorem Orderly.down_of_changes {K : Cause → Prop} (h : Orderly S) (changes : Changes K S S')
    (hK : ¬ K (.claim .up)) (hdown : (S.service n).state = .disabled) :
    (S'.service n).state = .disabled := by
  induction changes with
  | refl => exact hdown
  | tail hsteps hstep ih =>
    obtain ⟨cause, hcause, change⟩ := hstep
    by_contra hrisen
    exact hK ((h.changes hsteps).owned.cause_of_rise change ih hrisen ▸ hcause)

/-! ## Branches -/

/-- The service is below one that is on its way up. -/
def Drawn (S : Scene) (n : Incarnation) : Prop :=
  ∃ m, (S.service m).state = .enabling ∧ TransGen S.Refers m n

/-- The service is a target, it is up or on its way up, or it is below one on its way up. What
is up stands on the ground. -/
def Involved (S : Scene) (targets : List Incarnation) (n : Incarnation) : Prop :=
  n ∈ targets ∨ (S.service n).state = .enabling ∨ S.Drawn n ∨ S.Grounded n

/-- Whatever an involved service refers to is involved, if every target refers only to targets
and to services that are active. -/
theorem Supported.involved (h : Supported S)
    (hrefs : ∀ n ∈ targets, ∀ y ∈ (S.service n).references, ∃ m, S.find? y = some m ∧
      ((S.service m).state.isActive = true ∨ m ∈ targets))
    (hn : S.Involved targets n) (hnm : S.Refers n m) : S.Involved targets m := by
  have hrefers := hnm
  obtain ⟨y, hy, hm⟩ := hnm
  rcases hn with hn | hrising | ⟨k, hk, hpath⟩ | hground
  · obtain ⟨m', hm', hwhy⟩ := hrefs n hn y hy
    obtain rfl : m' = m := Option.some.inj (hm'.symm.trans hm)
    rcases hwhy with hactive | hin
    · cases hstate : (S.service m').state with
      | enabling => exact .inr (.inl hstate)
      | enabled => exact .inr (.inr (.inr (h.grounded m' (by rw [hstate]; rfl))))
      | disabled | disabling =>
        rw [hstate] at hactive
        cases hactive
    · exact .inl hin
  · exact .inr (.inr (.inl ⟨n, hrising, .single hrefers⟩))
  · exact .inr (.inr (.inl ⟨k, hk, hpath.tail hrefers⟩))
  · cases hground with
    | intro _ _ hground => exact .inr (.inr (.inr (hground y hy m hm)))

/-- An involved service that is down is a target, or below a service on its way up. -/
theorem Involved.of_down (h : S.Involved targets n) (hdown : (S.service n).state = .disabled) :
    n ∈ targets ∨ S.Drawn n := by
  rcases h with hn | hrising | hdrawn | hground
  · exact .inl hn
  · rw [hdown] at hrising
    cases hrising
  · exact .inr hdrawn
  · exact absurd hdown hground.ne_disabled

end Scene

namespace Provider

variable {p : Provider} {n k : Incarnation}

theorem validator_of_settings {r r' : Registry} (h : r'.settings = r.settings) :
    r'.validator = r.validator := congrArg (fun settings => settings.2.1) h

/-! ## What a submission leaves alone -/

theorem service_submitStep (hn : n < p.scene.size) (hk : k ≠ n) (gate : Option TaskId)
    (willEnable : List ServiceId) :
    (p.submitStep n gate willEnable).2.2.scene.size = p.scene.size ∧
      (p.submitStep n gate willEnable).2.2.scene.service k = p.scene.service k := by
  obtain ⟨claimed, p', hstep, name, gates, ⟨-, -, -, -, hscene⟩ | ⟨-, -, -, hscene⟩⟩ :=
    submitStep_cases hn gate willEnable
  · rw [hstep, hscene]
    exact ⟨rfl, Scene.service_put_of_ne (p.scene.push name gates _) _ hk⟩
  · rw [hstep, hscene]
    exact ⟨rfl, rfl⟩

/-- The submission of branches leaves all services alone but the elements. -/
theorem service_submitBranches {branches : List (List (Graph.Vertex Incarnation))}
    (hbranches : ∀ branch ∈ branches, ∀ v ∈ branch, v.item < p.scene.size ∧ k ≠ v.item)
    (willEnable : List ServiceId) :
    (submitBranches branches willEnable p).2.scene.service k = p.scene.service k := by
  let I : Provider → Prop := fun r =>
    r.scene.size = p.scene.size ∧ r.scene.service k = p.scene.service k
  refine (kept_submitBranches (I := I) (fun branch hbranch initiated r hr =>
    kept_submitBranch (I := I) (fun v hv gate s hs => ?_) initiated hr) ⟨rfl, rfl⟩).2
  obtain ⟨hlt, hne⟩ := hbranches branch hbranch v hv
  obtain ⟨hsize, hservice⟩ := service_submitStep (hs.1.symm ▸ hlt) hne gate willEnable
  exact ⟨hsize.trans hs.1, hservice.trans hs.2⟩

/-! ## What a submission claims -/

/-- What moves from disabled on is needed by a target. It is a target itself, or it is drawn
along. -/
theorem Raises.risen {targets : List Incarnation} {S : Scene} (h : p.Raises targets S)
    (hlawful : p.scene.Lawful) (hdown : (p.scene.service k).state = .disabled)
    (hrisen : (S.service k).state ≠ .disabled) :
    (∃ n ∈ targets, ReflTransGen p.scene.Refers n k) ∧ (k ∈ targets ∨ p.scene.Drawn k) := by
  obtain ⟨nodes, hspans, q, willEnable, branches, hq, hbranches, rfl⟩ := h.submits
  -- it is an element of a branch, or it would have been left alone
  have helement : ∃ branch ∈ branches, ∃ v ∈ branch, k = v.item := by
    by_contra hnone
    refine hrisen ?_
    rw [service_submitBranches (fun branch hbranch v hv => ⟨?_, ?_⟩), hq, hdown]
    · obtain ⟨target, htarget, rfl⟩ := hbranches branch hbranch
      rw [hq]
      exact hlawful.orderly.named.within _ _ (hspans.registered _ v (hspans.stored htarget hv))
    · exact fun heq => hnone ⟨branch, hbranch, v, hv, heq⟩
  obtain ⟨branch, hbranch, v, hv, rfl⟩ := helement
  obtain ⟨target, htarget, rfl⟩ := hbranches branch hbranch
  obtain ⟨n, hn, hpath⟩ := hspans.needed _ v (hspans.stored htarget hv)
  have hinvolved : p.scene.Involved targets v.item := by
    clear hdown hrisen
    generalize v.item = k at hpath
    induction hpath with
    | refl => exact .inl hn
    | tail _ hstep ih => exact hlawful.supported.involved h.resolved ih hstep
  exact ⟨⟨n, hn, hpath⟩, hinvolved.of_down hdown⟩

/-- Of the services that move from disabled on when several are to be enabled, those that are
among them are valid, and all others are drawn along. -/
theorem risen_of_enableServices (h : p.scene.Lawful) {ns : List Incarnation}
    (hns : ∀ n ∈ ns, p.scene.Registered n) (hdown : (p.scene.service k).state = .disabled)
    (hrisen : ((p.enableServices undisturbed ns).2.scene.service k).state ≠ .disabled) :
    k ∈ ns ∧ p.verdict k = .valid ∨ k ∉ ns ∧ p.scene.Drawn k := by
  rcases enableServices_raises h.orderly hns with heq | ⟨targets, htarget, hraises⟩
  · rw [heq] at hrisen
    exact absurd hdown hrisen
  · have hk : k ∈ targets ↔ k ∈ ns := (htarget k).trans (and_iff_left hdown)
    rw [← hk]
    by_cases hin : k ∈ targets
    · exact .inl ⟨hin, hraises.valid k hin⟩
    · exact .inr ⟨hin, (hraises.risen h hdown hrisen).2.resolve_left hin⟩

/-- Of the services that move from disabled on when one is to be enabled, this one is valid, and
all others are drawn along. It needs them all. -/
theorem risen_of_enable (h : p.scene.Lawful) {id : ServiceId}
    (hdown : (p.scene.service k).state = .disabled)
    (hrisen : ((p.enable undisturbed id).2.scene.service k).state ≠ .disabled) :
    ∃ n, p.scene.find? id = some n ∧ ReflTransGen p.scene.Refers n k ∧
      (k = n ∧ p.verdict k = .valid ∨ k ≠ n ∧ p.scene.Drawn k) := by
  rcases enable_raises h.orderly id with heq | ⟨n, hfind, hraises⟩
  · rw [heq] at hrisen
    exact absurd hdown hrisen
  · obtain ⟨⟨m, hm, hpath⟩, hwhy⟩ := hraises.risen h hdown hrisen
    rw [List.mem_singleton] at hm hwhy
    refine ⟨n, hfind, hm ▸ hpath, ?_⟩
    by_cases hself : k = n
    · exact .inl ⟨hself, hraises.valid k (List.mem_singleton.mpr hself)⟩
    · exact .inr ⟨hself, hwhy.resolve_left hself⟩

/-- What moves from disabled on at a request is valid if the request asks for it, and else it is
drawn along. -/
theorem Performs.validated {q : Request} {S : Scene} (h : p.scene.Lawful)
    (hperforms : Performs p q S) (hdown : (p.scene.service k).state = .disabled)
    (hrisen : (S.service k).state ≠ .disabled) :
    (S.service k).id ∈ p.requested q ∧ S.verdict p.registry.validator k = .valid ∨
      (S.service k).id ∉ p.requested q ∧ p.scene.Drawn k := by
  have hnamed : ∀ {id : ServiceId} {n : Incarnation}, p.scene.find? id = some n →
      (p.scene.service n).id = id := fun hn => (h.orderly.named.own _ _ hn).1
  cases hperforms with
  | edits _ hchanges => exact absurd (h.orderly.down_of_changes hchanges (by simp) hdown) hrisen
  | lowers _ hchanges => exact absurd (h.orderly.down_of_changes hchanges (by simp) hdown) hrisen
  | shuts => exact absurd hdown hrisen
  | enables id =>
    obtain ⟨hchanges, hsame⟩ := changes_enable h.orderly id
    have hhoused := (h.orderly.changes hchanges).named.housed k hrisen
    rw [hsame.find?, hsame.id] at hhoused
    rw [hsame.verdict, hsame.id]
    obtain ⟨n, hn, -, ⟨rfl, hvalid⟩ | ⟨hne, hdrawn⟩⟩ := risen_of_enable h hdown hrisen
    · exact .inl ⟨List.mem_singleton.mpr (hnamed hn), hvalid⟩
    · refine .inr ⟨fun hin => hne ?_, hdrawn⟩
      rw [List.mem_singleton.mp hin] at hhoused
      exact Option.some.inj (hhoused.symm.trans hn)
  | @raises _ ns hns =>
    have hregistered := registered_of_requested h.orderly.named hns
    obtain ⟨hchanges, hsame⟩ := changes_enableServices h.orderly hregistered
    have hhoused := (h.orderly.changes hchanges).named.housed k hrisen
    rw [hsame.find?, hsame.id] at hhoused
    rw [hsame.verdict, hsame.id]
    have hin : (p.scene.service k).id ∈ p.requested q ↔ k ∈ ns := by
      rw [hns]
      refine ⟨fun hid => ⟨_, hid, hhoused⟩, ?_⟩
      rintro ⟨id, hid, hk⟩
      exact hnamed hk ▸ hid
    rw [hin]
    exact risen_of_enableServices h hregistered hdown hrisen
  | @creates _ made id n _ hmade hchanges hsame =>
    have hlawful := h.changes hmade.changes
    have hdown := h.orderly.down_of_changes hmade.changes (by simp) hdown
    have hrisen : ((made.enable undisturbed id).2.scene.service k).state ≠ .disabled :=
      fun hstill => hrisen ((hlawful.orderly.changes (changes_enable hlawful.orderly id).1
        |>.down_of_changes hchanges (by simp) hstill))
    obtain ⟨n', hn', hpath, hwhy⟩ := risen_of_enable hlawful hdown hrisen
    obtain rfl : n = n' := Option.some.inj (hmade.found.symm.trans hn')
    -- the new service has no references yet, so that it is all there is to its branch
    obtain rfl : n = k := by
      rcases reflTransGen_iff_eq_or_transGen.mp hpath with heq | hpath
      · exact heq.symm
      · obtain ⟨m, ⟨y, hy, -⟩, -⟩ := TransGen.head'_iff.mp hpath
        rw [references_scene, hmade.bare] at hy
        cases hy
    rw [hsame.id, hsame.verdict, (hlawful.orderly.named.own _ _ hn').1,
      ← validator_of_settings hmade.settings]
    rcases hwhy with ⟨-, hvalid⟩ | ⟨hne, -⟩
    · exact .inl ⟨List.mem_singleton_self id, hvalid⟩
    · exact absurd rfl hne

end Provider

/-! ## Validity -/

namespace Setup

/-- Whenever a service moves from disabled to enabling, a request was made. If the request asks
for the service, then it is valid at that moment. If not, a service was on its way up before
that needs it. -/
theorem requested_validated (setup : Setup) (events : List Event) (e : Event) (n : Incarnation)
    (hdown : ((setup.provider.after events).service n).state = .disabled)
    (hrising : (((setup.provider.after events).step e).service n).state = .enabling) :
    let p := setup.provider.after events
    let p' := p.step e
    ∃ q, e = .request q ∧
      ((p'.service n).id ∈ p.requested q ∧ p'.verdict n = .valid ∨
        (p'.service n).id ∉ p.requested q ∧
          ∃ m, (p.service m).state = .enabling ∧ TransGen p.Refers m n) := by
  intro p p'
  have hlawful := setup.lawful_after events
  have hrisen : (p'.scene.service n).state ≠ .disabled := fun hstill => by
    rw [show (p'.service n).state = .disabled from hstill] at hrising
    cases hrising
  by_cases he : ∃ q, e = .request q
  · obtain ⟨q, rfl⟩ := he
    have hsettings := (Provider.assigns_perform undisturbed_assigns q p).settings
    have hvalidated := (Provider.performs hlawful q).validated hlawful hdown hrisen
    rw [← Provider.validator_of_settings hsettings] at hvalidated
    exact ⟨q, rfl, hvalidated⟩
  · -- without a request nothing is claimed
    refine absurd (hlawful.orderly.down_of_changes (Provider.happens_step hlawful e).changes ?_
      hdown) hrisen
    cases e with
    | request q => exact absurd ⟨q, rfl⟩ he
    | move | tear | pass | stop => simp [Event.Causes]

/-- Services of the mock types, and of one that needs an endpoint and fails to come up. -/
def fragile : Setup :=
  { plain with
    validator := .standard
    catalogue := Catalogue.mock.register "fragile" fun _ =>
      ⟨[{ name := "Endpoint", required := true }], .scripted [[.act (.fail "no connection")]] []⟩
    workers := 2 }

/-- A service is on its way up, with a slow one and one that fails below it. The latter
comes down again, and its endpoint is taken from it while the slow one is still at its hook. -/
def drawingRun : List Event :=
  [.request (.create "mock.Slow" ⟨"s"⟩ false), .request (.create "fragile" ⟨"e"⟩ false),
    .request (.create "mock.Dependent" ⟨"d"⟩ false), .request (.create "mock.Dependent" ⟨"x"⟩ false),
    .request (.setProperty ⟨"e"⟩ "Endpoint" "somewhere"),
    .request (.setProperty ⟨"d"⟩ "Other Service" "e"),
    .request (.setProperty ⟨"d"⟩ "Other Service 2" "s"),
    .request (.setProperty ⟨"x"⟩ "Other Service" "d"),
    .request (.enable ⟨"s"⟩), .request (.enableAll [⟨"e"⟩, ⟨"d"⟩])] ++ Event.rounds 4 3 ++
  [.request (.removeProperty ⟨"e"⟩ "Endpoint")]

theorem requested_validated_drawn :
    let p := fragile.provider.after drawingRun
    let p' := p.step (.request (.enable ⟨"x"⟩))
    (p.service 1).state = .disabled ∧ (p'.service 1).state = .enabling ∧
      ∃ q, Event.request (.enable ⟨"x"⟩) = .request q ∧
        ((p'.service 1).id ∈ p.requested q ∧ p'.verdict 1 = .valid ∨
          (p'.service 1).id ∉ p.requested q ∧
            ∃ m, (p.service m).state = .enabling ∧ TransGen p.Refers m 1) :=
  ⟨by decide +kernel, by decide +kernel, requested_validated fragile drawingRun
    (.request (.enable ⟨"x"⟩)) 1 (by decide +kernel) (by decide +kernel)⟩

/-- A service that is drawn along need not be valid. -/
theorem drawn_unvalidated :
    ¬ ∀ (setup : Setup) (events : List Event) (e : Event) (n : Incarnation),
      ((setup.provider.after events).service n).state = .disabled →
      (((setup.provider.after events).step e).service n).state = .enabling →
      ((setup.provider.after events).step e).verdict n = .valid := fun h =>
  absurd (h fragile drawingRun (.request (.enable ⟨"x"⟩)) 1 (by decide +kernel) (by decide +kernel))
    (by decide +kernel)

end Setup

end ServiceLifecycle

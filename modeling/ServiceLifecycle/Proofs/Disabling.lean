import ServiceLifecycle.Proofs.Enabling
import ServiceLifecycle.Provider.Disabling

/-!
# Disabling as changes

What the parts of a disabling request do to the scene. A claim succeeds only if every
other service that refers to the claimed one is down or among the excluded ones. While it
checks this, others may make requests, but none that moves a service. In a chain the
excluded ones are the services of the chain itself, and those that refer to a service
come before it in the disabling order, since nothing that is up refers to itself in a
circle. So each of them is going down ahead, unless somebody else has it: then it has to
keep out of the way.

* **stillness** — what requests leave of a scene if they move no service (`Scene.Stays`);
* **claims** — what a claim makes sure of (`claimDown_cases`);
* **chain** — a chain that nothing gets in the way of is a sequence of changes
  (`changes_claimTargets`), and so is every disabling request (`changes_disable`,
  `changes_disableReferrers`).
-/

namespace ServiceLifecycle

open Relation

/-- Two services are in the same place of their lifecycles, have the same name, and refer to the
same. -/
structure Service.Agrees (s s' : Service) : Prop where
  state : s'.state = s.state
  id : s'.id = s.id
  references : s'.references = s.references
  transition : s'.transition = s.transition

theorem Service.Agrees.refl (s : Service) : s.Agrees s := ⟨rfl, rfl, rfl, rfl⟩

theorem Service.Agrees.trans {s s' t : Service} (h : s.Agrees s') (h' : s'.Agrees t) : s.Agrees t :=
  ⟨h'.state.trans h.state, h'.id.trans h.id, h'.references.trans h.references,
    h'.transition.trans h.transition⟩

namespace Scene

variable {K : Cause → Prop} {S S' T : Scene} {cause : Cause} {n m : Incarnation}

/-! ## Stillness -/

/-- Changes by which no service moves: those that are not down are as they were, and so are the
tasks. -/
structure Stays (K : Cause → Prop) (S S' : Scene) : Prop where
  changes : Changes K S S'
  state : ∀ n, (S'.service n).state = (S.service n).state
  agrees : ∀ n, (S.service n).state ≠ .disabled → (S.service n).Agrees (S'.service n)
  task : ∀ i t, S.task? i = some t → S'.task? i = some t

theorem Stays.refl (K : Cause → Prop) (S : Scene) : Stays K S S :=
  ⟨.refl, fun _ => rfl, fun _ _ => .refl _, fun _ _ => id⟩

theorem Stays.trans (h : Stays K S S') (h' : Stays K S' T) : Stays K S T :=
  ⟨ReflTransGen.trans h.changes h'.changes, fun n => (h'.state n).trans (h.state n),
    fun n hn => (h.agrees n hn).trans (h'.agrees n (h.state n ▸ hn)),
    fun i t ht => h'.task i t (h.task i t ht)⟩

/-- A service that is not down keeps its name. -/
theorem Stays.find? (h : Stays K S S') (hnamed : Named S) (hnamed' : Named S') {u : ServiceId}
    (hm : S.find? u = some m) (hup : (S.service m).state ≠ .disabled) : S'.find? u = some m := by
  have hfind := hnamed'.housed m (h.state m ▸ hup)
  rwa [(h.agrees m hup).id, (hnamed.own u m hm).1] at hfind

/-- A service that is not down had its name before. -/
theorem Stays.find?_back (h : Stays K S S') (hnamed : Named S) (hnamed' : Named S')
    {u : ServiceId} (hm : S'.find? u = some m) (hup : (S.service m).state ≠ .disabled) :
    S.find? u = some m := by
  have hfind := hnamed.housed m hup
  rwa [← (h.agrees m hup).id, (hnamed'.own u m hm).1] at hfind

theorem Stays.covers (h : Stays K S S') {gates : List TaskId} {j : TaskId} :
    S.Covers gates j → S'.Covers gates j := fun ⟨g, hg, hpath⟩ =>
  ⟨g, hg, ReflTransGen.mono (fun _ _ ⟨t, ht, hgate⟩ => ⟨t, h.task _ t ht, hgate⟩) _ _ hpath⟩

/-- A request leaves a service that is not down as it is, unless it claims it. -/
theorem agrees_of_request (hcause : cause.IsRequest) (change : Change S cause S')
    (hup : (S.service n).state ≠ .disabled) :
    (S.service n).Agrees (S'.service n) ∨
      (S.service n).state = .enabled ∧ (S'.service n).state = .disabling := by
  have hput : ∀ {U : Scene} {k : Incarnation} {s : Service}, U.service = S.service →
      (n = k → (S.service n).Agrees s ∨
        (S.service n).state = .enabled ∧ s.state = .disabling) →
      (S.service n).Agrees ((U.put k s).service n) ∨
        (S.service n).state = .enabled ∧ ((U.put k s).service n).state = .disabling := by
    intro U k s hU hs
    rw [service_put, hU]
    split
    · next heq => exact hs heq
    · exact .inl (.refl _)
  cases change with
  | appears id typeName descriptors behaviour isRegistered hnew =>
    have hne : n ≠ S.size := by
      rintro rfl
      rw [hnew] at hup
      exact hup rfl
    rw [service_appear_of_ne hne]
    exact .inl (.refl _)
  | @edits k properties _ hdown => exact hput (U := S) rfl fun heq => absurd hdown (heq ▸ hup)
  | @removes k _ hdown => exact hput (U := S) rfl fun heq => absurd hdown (heq ▸ hup)
  | blames => exact hput rfl fun heq => .inl (heq ▸ ⟨rfl, rfl, rfl, rfl⟩)
  | shuts | joins => exact .inl (.refl _)
  | @claims d k name gates _ horigin =>
    refine hput (U := S.push name gates _) rfl fun heq => ?_
    subst heq
    cases d with
    | up => exact absurd horigin hup
    | down => exact .inr ⟨horigin, rfl⟩
  | stops | advances | sleeps | concludes | confirms | denies | drops => exact hcause.elim

/-- Requests by which no service changes its state move no service. -/
theorem Orderly.stays (h : Orderly S) (changes : Changes Cause.IsRequest S S')
    (hstate : ∀ n, (S'.service n).state = (S.service n).state) :
    Stays Cause.IsRequest S S' := by
  refine ⟨changes, hstate, fun n hup => ?_, fun i t ht => h.task_of_requests changes ht⟩
  -- a service that is claimed is going down ever after
  have hall : (S.service n).Agrees (S'.service n) ∨
      (S.service n).state = .enabled ∧ (S'.service n).state = .disabling := by
    clear hstate
    induction changes with
    | refl => exact .inl (.refl _)
    | tail _ hstep ih =>
      obtain ⟨cause, hcause, change⟩ := hstep
      rcases ih with hsame | ⟨hen, hdis⟩
      · rcases agrees_of_request hcause change (hsame.state ▸ hup) with hnext | ⟨hen, hdis⟩
        · exact .inl (hsame.trans hnext)
        · exact .inr ⟨hsame.state ▸ hen, hdis⟩
      · exact .inr ⟨hen, (state_of_request hcause change (by rw [hdis]; rfl)).trans hdis⟩
  refine hall.resolve_right fun ⟨hen, hdis⟩ => ?_
  rw [hstate n, hen] at hdis
  cases hdis

/-- A service that is not enabled does not get in the way of taking those of the given services
down that are: it is down, or it refers to none of them. -/
def Aside (S : Scene) (targets : List Incarnation) (n : Incarnation) : Prop :=
  (S.service n).state = .disabled ∨
    ∀ m ∈ targets, (S.service m).state = .enabled → (S.service m).id ∉ (S.service n).references

theorem Stays.aside (h : Stays K S S') {targets : List Incarnation} (haside : S.Aside targets n) :
    S'.Aside targets n := by
  by_cases hdown : (S.service n).state = .disabled
  · exact .inl ((h.state n).trans hdown)
  · refine .inr fun m hm henabled => ?_
    rw [h.state m] at henabled
    rw [(h.agrees m (by rw [henabled]; simp)).id, (h.agrees n hdown).references]
    exact haside.resolve_left hdown m hm henabled

end Scene

/-- What others do is due to such causes, and by none of it a service moves. -/
def Interference.Quiet (K : Cause → Prop) (between : Interference) : Prop :=
  ∀ probe (p : Provider), p.scene.Lawful → p.scene.Stays K (between probe p).scene

theorem undisturbed_quiet (K : Cause → Prop) : Interference.Quiet K undisturbed :=
  fun _ _ _ => .refl K _

namespace Provider

variable {K : Cause → Prop} {between : Interference} {p q : Provider} {n : Incarnation}
  {excluded : List ServiceId}

/-! ## Checks -/

theorem askComponent_undisturbed (p : Provider) (c : ComponentNumber) :
    p.askComponent undisturbed c = (p.registry.component c, p) := by
  unfold askComponent undisturbed
  simp

/-- Of several questions each was answered at some time in between. -/
theorem selectAsking_nil {I : Provider → Prop} {α : Type} {check : α → Provider → Bool × Provider}
    (hcheck : ∀ a p, I p → I (check a p).2) {as : List α} (hp : I p)
    (h : (selectAsking check as p).1 = []) : ∀ a ∈ as, ∃ q, I q ∧ (check a q).1 = false := by
  induction as generalizing p with
  | nil => simp
  | cons a as ih =>
    unfold selectAsking at h
    dsimp only at h
    split at h
    · cases h
    · next hpasses =>
      intro b hb
      rcases List.mem_cons.mp hb with rfl | hb
      · exact ⟨p, hp, Bool.not_eq_true _ ▸ hpasses⟩
      · exact ih (hcheck a p hp) h b hb

theorem verifyNoActiveReferrers_snd (p : Provider) (n : Incarnation) (excluded : List ServiceId) :
    (p.verifyNoActiveReferrers undisturbed n excluded).2 = p :=
  kept_verifyNoActiveReferrers (I := (· = p)) (fun _ _ h => h) rfl n excluded

theorem verifyNoneInUse_snd (ns : List Incarnation) (p : Provider) :
    (verifyNoneInUse undisturbed ns p).2 = p :=
  kept_verifyNoneInUse (I := (· = p)) (fun _ _ h => h) ns rfl

/-- Where others move no service, a check moves none. -/
theorem stays_between (hquiet : Interference.Quiet K between) (h : p.scene.Lawful) (probe : Probe)
    (q : Provider) (hq : p.scene.Stays K q.scene) : p.scene.Stays K (between probe q).scene :=
  hq.trans (hquiet probe q (h.changes hq.changes))

/-- Whatever refers to a service that may be taken down is the service itself, excluded or
down, even if it refers to it only since it was checked. -/
theorem verifyNoActiveReferrers_ok (hquiet : Interference.Quiet K between) (h : p.scene.Lawful)
    (hcheck : p.verifyNoActiveReferrers between n excluded = (.ok (), q)) {u : ServiceId}
    {m : Incarnation} (hm : q.scene.find? u = some m)
    (href : (p.scene.service n).id ∈ (q.scene.service m).references) :
    u = (p.scene.service n).id ∨ u ∈ excluded ∨ (q.scene.service m).state = .disabled := by
  have hkeep := stays_between hquiet h
  have hstays : p.scene.Stays K q.scene := by
    have hkept := kept_verifyNoActiveReferrers hkeep (.refl K _) n excluded
    rwa [hcheck] at hkept
  by_contra hnone
  obtain ⟨hne, hnone⟩ := not_or.mp hnone
  obtain ⟨hout, hup⟩ := not_or.mp hnone
  -- what is not down now referred to the service all the time
  have hnamed := h.orderly.named
  have hup' : (p.scene.service m).state ≠ .disabled := hstays.state m ▸ hup
  have hfind := hstays.find?_back hnamed (h.changes hstays.changes).orderly.named hm hup'
  rw [(hstays.agrees m hup').references] at href
  have hrecorded := (hnamed.indexed _ u).mpr ⟨m, hfind, href⟩
  unfold verifyNoActiveReferrers at hcheck
  dsimp only at hcheck
  split at hcheck
  · next heq =>
    obtain ⟨r, hr, hfalse⟩ := selectAsking_nil
      (fun referrer r hr => kept_isActiveReferrer hkeep _ excluded referrer r hr) (.refl K _)
      (congrArg Prod.fst heq) (.service u) (Referrers.has_iff.mp hrecorded)
    have hthen := hr.find? hnamed (h.changes hr.changes).orderly.named hfind hup'
    simp only [isActiveReferrer, stateOf_scene, Outline.stateOf?, hthen, Option.map_some,
      Option.getD_some, hr.state m, Bool.and_eq_false_iff, decide_eq_false_iff_not, not_not,
      Bool.not_eq_false', List.contains_iff_mem] at hfalse
    rcases hfalse with (heq | hin) | hdown
    · exact hne heq
    · exact hout hin
    · exact hup' hdown
  · cases hcheck

theorem selectEnabled_ok {ns targets : List Incarnation} (h : p.selectEnabled ns = .ok targets) :
    ∀ n ∈ targets, n ∈ ns ∧ (p.service n).state = .enabled := by
  induction ns generalizing targets with
  | nil =>
    obtain rfl : [] = targets := Except.ok.inj h
    simp
  | cons m ns ih =>
    have hlater : ∀ {rest}, p.selectEnabled ns = .ok rest → ∀ n ∈ rest,
        n ∈ m :: ns ∧ (p.service n).state = .enabled := fun hrest n hn =>
      ⟨List.mem_cons_of_mem _ (ih hrest n hn).1, (ih hrest n hn).2⟩
    unfold selectEnabled at h
    dsimp only at h
    split at h
    · cases h
    · split at h
      · next hstate =>
        cases hrest : p.selectEnabled ns with
        | error e =>
          rw [hrest] at h
          cases h
        | ok rest =>
          rw [hrest] at h
          obtain rfl : m :: rest = targets := Except.ok.inj h
          intro n hn
          rcases List.mem_cons.mp hn with rfl | hn
          · exact ⟨List.mem_cons_self, hstate⟩
          · exact hlater hrest n hn
      · exact hlater h

/-! ## Claims -/

/-- What a claim of a service that is to go down comes to. -/
theorem claimDown_cases (hquiet : Interference.Quiet K between) (h : p.scene.Lawful)
    (n : Incarnation) (excluded : List ServiceId) (gate : Option TaskId) :
    ∃ q, p.scene.Stays K q.scene ∧
      ((∃ refusal, p.claimDown between n excluded gate = (.error refusal, q) ∧
        ((∃ e, refusal = .rejected e) ∨ (q.scene.service n).state ≠ .enabled)) ∨
      (q.scene.service n).state = .enabled ∧
        (∀ u m, q.scene.find? u = some m →
          (q.scene.service n).id ∈ (q.scene.service m).references →
          u = (q.scene.service n).id ∨ u ∈ excluded ∨ (q.scene.service m).state = .disabled) ∧
        ∃ p' name gates, p.claimDown between n excluded gate = (.ok q.scene.submitted, p') ∧
          (∀ g, g ∈ gates ↔ gate = some g) ∧
          p'.scene = q.scene.claimed n .disabling name gates (.disable n)) := by
  rcases hcheck : p.verifyNoActiveReferrers between n excluded with ⟨check, q⟩
  have hstays : p.scene.Stays K q.scene := by
    have hkept := kept_verifyNoActiveReferrers (stays_between hquiet h) (.refl K _) n excluded
    rwa [hcheck] at hkept
  have hagrees : (p.scene.service n).state = .enabled →
      (p.scene.service n).Agrees (q.scene.service n) := fun hstate =>
    hstays.agrees n (by rw [hstate]; simp)
  have hup : (p.service n).state = .enabled → n < q.registry.services.size := fun hstate =>
    Registry.lt_of_state fun hdown => by
      have hstill : (q.registry.service n).state = .enabled := (hagrees hstate).state.trans hstate
      rw [hdown] at hstill
      cases hstill
  have hclaiming := claiming p n .enabled .disabling (.disable n) gate.toList
    fun p => p.verifyNoActiveReferrers between n excluded
  unfold claimDown
  generalize p.claim n .enabled .disabling (.disable n) gate.toList
    (fun p => p.verifyNoActiveReferrers between n excluded) = result at hclaiming ⊢
  cases hclaiming with
  | removed hremoved =>
    refine ⟨p, .refl K _, .inl ⟨.removed, rfl, .inr fun hen => ?_⟩⟩
    have hown := h.orderly.named.own _ _ (h.orderly.named.housed n (by rw [hen]; simp))
    exact absurd (hown.2.symm.trans hremoved) (by simp)
  | busy _ hstate =>
    exact ⟨p, .refl K _, .inl ⟨.busy (p.service n).state (p.service n).transition, rfl,
      .inr hstate⟩⟩
  | @rejected e r _ _ heq =>
    obtain ⟨-, rfl⟩ := Prod.mk.inj (hcheck.symm.trans heq)
    exact ⟨q, hstays, .inl ⟨.rejected e, rfl, .inl ⟨e, rfl⟩⟩⟩
  | @granted r _ hstate heq =>
    obtain ⟨rfl, rfl⟩ := Prod.mk.inj (hcheck.symm.trans heq)
    have hagrees := hagrees hstate
    obtain ⟨name, hscene⟩ := scene_depart (hup hstate) .disabling (.disable n) gate.toList
    refine ⟨q, hstays, .inr ⟨hagrees.state.trans hstate, fun u m hm href => ?_, _, name, _, rfl,
      fun g => ?_, hscene⟩⟩
    · rw [hagrees.id] at href ⊢
      exact verifyNoActiveReferrers_ok hquiet h hcheck hm href
    · rw [OrderedSet.mem_ofList, Option.mem_toList]

/-- A claim that excludes nothing finds everything that refers to the service down. -/
theorem changes_claimDown (hquiet : Interference.Quiet K between) (hK : K (.claim .down))
    (h : p.scene.Lawful) (n : Incarnation) :
    Changes K p.scene (p.claimDown between n [] none).2.scene := by
  obtain ⟨q, hstays, ⟨refusal, hclaim, -⟩ |
    ⟨hstate, hreferrers, p', name, gates, hclaim, hgates, hscene⟩⟩ :=
    claimDown_cases hquiet h n [] none
  · rw [hclaim]
    exact hstays.changes
  · rw [hclaim]
    have hn := (h.changes hstays.changes).orderly.named.housed n (hstate ▸ by simp)
    have hnone : ∀ g, g ∉ gates := fun g hg => by cases (hgates g).mp hg
    refine ReflTransGen.trans hstays.changes ?_
    show Changes K q.scene p'.scene
    rw [hscene]
    refine Changes.single hK (.claims .down name hn hstate
      (fun g hg => absurd hg (hnone g))
      ⟨fun g hg => absurd hg (hnone g), fun u m hu hne href => ?_⟩)
    rcases hreferrers u m hu href with rfl | hin | hdown
    · exact absurd (Option.some.inj (hu.symm.trans hn)) hne
    · cases hin
    · exact .inl hdown

/-- A request to take a service down is a sequence of changes. -/
theorem changes_disable (h : p.scene.Lawful) (id : ServiceId) :
    Changes (· = .claim .down) p.scene (p.disable undisturbed id).2.scene := by
  unfold disable
  split
  · exact .refl
  · next n _ =>
    have hsnd := verifyNoActiveReferrers_snd p n []
    have hclaim := changes_claimDown (undisturbed_quiet (· = .claim .down)) rfl h n
    dsimp only
    split
    · exact .refl
    · split <;> rename_i heq <;> rw [heq] at hsnd <;> obtain rfl := hsnd
      · exact .refl
      · split <;> next heq => rw [heq] at hclaim; exact hclaim

/-! ## Chains -/

/-- As far as services are not down, a graph shows what they refer to. -/
structure Recalls (nodes : Table ServiceId (Graph.Vertex Incarnation)) (S : Scene) : Prop where
  own : Graph.OwnNames nodes.get?
  shown : ∀ id v, nodes.get? id = some v → (S.service v.item).state ≠ .disabled →
    (S.service v.item).id = id ∧ v.dependencies = (S.service v.item).references
  known : ∀ id v m, nodes.get? id = some v → S.find? id = some m →
    m = v.item ∨ (S.service m).state = .disabled

section Recalls

variable {nodes : Table ServiceId (Graph.Vertex Incarnation)} {S S' : Scene}
  {u v : Graph.Vertex Incarnation}

/-- A graph goes on to show what services refer to as long as none comes up. -/
theorem Recalls.later (h : Recalls nodes S) (hnamed : S.Named) (hnamed' : S'.Named)
    (hkeep : ∀ n, (S'.service n).state ≠ .disabled → (S.service n).state ≠ .disabled ∧
      (S'.service n).id = (S.service n).id ∧
      (S'.service n).references = (S.service n).references) : Recalls nodes S' where
  own := h.own
  shown := fun id v hv hup => by
    obtain ⟨hup, hid, href⟩ := hkeep _ hup
    rw [hid, href]
    exact h.shown id v hv hup
  known := fun id v m hv hm => by
    by_contra hnone
    obtain ⟨hne, hup⟩ := not_or.mp hnone
    obtain ⟨hup, hid, -⟩ := hkeep m hup
    have hfind := hnamed.housed m hup
    rw [← hid, (hnamed'.own id m hm).1] at hfind
    rcases h.known id v m hv hfind with heq | hdown
    · exact hne heq
    · exact hup hdown

/-- From a service that stands on the ground a graph leads to no others than the scene does. -/
theorem Recalls.reaches (h : Recalls nodes S) (hu : nodes.get? u.id = some u)
    (hground : S.Grounded u.item) (hreach : Graph.Reaches nodes.get? u v) :
    ReflTransGen S.Refers u.item v.item ∧ S.Grounded v.item := by
  induction hreach with
  | refl => exact ⟨.refl, hground⟩
  | @tail v w huv hvw ih =>
    obtain ⟨hpath, hground⟩ := ih
    obtain ⟨-, hdependencies⟩ := h.shown _ v (Graph.stored_of_reaches hu huv) hground.ne_disabled
    cases hground with
    | intro _ hfound hground =>
      have hw : w.id ∈ (S.service v.item).references := hdependencies ▸ hvw.1
      obtain ⟨m, hm⟩ := hfound _ hw
      obtain rfl := (h.known _ w m hvw.2 hm).resolve_right (hground _ hw m hm).ne_disabled
      exact ⟨hpath.tail ⟨_, hw, hm⟩, hground _ hw _ hm⟩

/-- Where a service stands on the ground a graph does not lead from it to one that refers to
it. -/
theorem Recalls.acyclic (h : Recalls nodes S) (hnamed : S.Named) (hv : nodes.get? v.id = some v)
    (hground : S.Grounded v.item) (hrefers : Graph.Refers nodes.get? u v)
    (hu : nodes.get? u.id = some u) : ¬ Graph.Reaches nodes.get? v u := by
  intro hreach
  obtain ⟨hpath, hback⟩ := h.reaches hv hground hreach
  have href : v.id ∈ (S.service u.item).references :=
    (h.shown _ u hu hback.ne_disabled).2 ▸ hrefers.1
  have hfind := hnamed.housed _ hground.ne_disabled
  rw [(h.shown _ v hv hground.ne_disabled).1] at hfind
  exact hground.acyclic (TransGen.tail' hpath ⟨_, href, hfind⟩)

end Recalls

/-- A chain has claimed the service: it is going down, and the gate of the next one waits for
it. -/
def Led (S : Scene) (gate : Option TaskId) (n : Incarnation) : Prop :=
  (S.service n).state = .disabling ∧
    ∃ j, (S.service n).transition = some j ∧ S.Covers gate.toList j

/-- A chain under way: what is claimed so far is going down, and what others have does not get
in its way. -/
structure Lowering (nodes : Table ServiceId (Graph.Vertex Incarnation)) (S : Scene)
    (gate : Option TaskId) (done rest : List (Graph.Vertex Incarnation)) : Prop where
  lawful : S.Lawful
  recalls : Recalls nodes S
  order : Graph.disablingOrder nodes = done ++ rest
  past : ∀ v ∈ done, (S.service v.item).state ≠ .enabled
  apart : ∀ v ∈ Graph.disablingOrder nodes, (S.service v.item).state ≠ .enabled →
    Led S gate v.item ∨ S.Aside ((Graph.disablingOrder nodes).map Graph.Vertex.item) v.item
  lowers : ∀ g, gate = some g → S.Lowers g

section Lowering

variable {nodes : Table ServiceId (Graph.Vertex Incarnation)} {S S' : Scene} {gate : Option TaskId}
  {done rest : List (Graph.Vertex Incarnation)} {v : Graph.Vertex Incarnation}
  {name : String} {gates : List TaskId}

/-- A chain is not disturbed by requests that move no service. -/
theorem Lowering.stays (h : Lowering nodes S gate done rest) (hstays : S.Stays K S') :
    Lowering nodes S' gate done rest := by
  have hlawful := h.lawful.changes hstays.changes
  exact {
    lawful := hlawful
    recalls := by
      refine h.recalls.later h.lawful.orderly.named hlawful.orderly.named fun n hup => ?_
      have hup : (S.service n).state ≠ .disabled := hstays.state n ▸ hup
      exact ⟨hup, (hstays.agrees n hup).id, (hstays.agrees n hup).references⟩
    order := h.order
    past v hv := hstays.state _ ▸ h.past v hv
    apart v hv hstate := by
      rcases h.apart v hv (hstays.state _ ▸ hstate) with ⟨hgoing, j, hj, hcovers⟩ | haside
      · have hagrees := hstays.agrees v.item (by rw [hgoing]; simp)
        exact .inl ⟨hagrees.state.trans hgoing, j, hagrees.transition.trans hj,
          hstays.covers hcovers⟩
      · exact .inr (hstays.aside haside)
    lowers g hg := by
      obtain ⟨t, ht, hjob⟩ := h.lowers g hg
      exact ⟨t, hstays.task g t ht, hjob⟩ }

/-- The next element of the chain is registered under its name if it is up. -/
theorem Lowering.head (h : Lowering nodes S gate done (v :: rest))
    (hstate : (S.service v.item).state = .enabled) :
    nodes.get? v.id = some v ∧ S.Registered v.item ∧ (S.service v.item).id = v.id := by
  have hup : (S.service v.item).state ≠ .disabled := hstate ▸ by simp
  have hv := (Graph.mem_disablingOrder h.recalls.own).mp
    (h.order ▸ List.mem_append_right done List.mem_cons_self)
  exact ⟨hv, h.lawful.orderly.named.housed _ hup, (h.recalls.shown _ v hv hup).1⟩

/-- Whatever else refers to the next element is down, or it is going down ahead of it. -/
theorem Lowering.mayLeave (h : Lowering nodes S gate done (v :: rest))
    (hstate : (S.service v.item).state = .enabled) (hgates : ∀ g, g ∈ gates ↔ gate = some g)
    (hreferrers : ∀ u m, S.find? u = some m →
      (S.service v.item).id ∈ (S.service m).references →
      u = (S.service v.item).id ∨ u ∈ nodes.keys ∨ (S.service m).state = .disabled) :
    S.MayLeave v.item gates .down := by
  obtain ⟨hv, hn, hid⟩ := h.head hstate
  have hmem : ∀ {w : Graph.Vertex Incarnation}, w ∈ Graph.disablingOrder nodes ↔
      nodes.get? w.id = some w := Graph.mem_disablingOrder h.recalls.own
  refine ⟨fun g hg => h.lowers g ((hgates g).mp hg), fun u m hu hne href => ?_⟩
  rcases hreferrers u m hu href with rfl | hin | hdown
  · exact absurd (Option.some.inj (hu.symm.trans hn)) hne
  · -- an excluded referrer that is not down stands in the graph, and so before `v` in the order
    obtain ⟨w, hw⟩ := Option.isSome_iff_exists.mp ((Table.mem_keys_iff _ _).mp hin)
    obtain rfl := h.recalls.own _ w hw
    by_cases hdown : (S.service m).state = .disabled
    · exact .inl hdown
    obtain rfl := (h.recalls.known _ w m hw hu).resolve_right hdown
    have hrefers : Graph.Refers nodes.get? w v :=
      ⟨hid ▸ (h.recalls.shown _ w hw hdown).2 ▸ href, hv⟩
    have hground := h.lawful.supported.grounded v.item (by rw [hstate]; rfl)
    have hdone : w ∈ done := Graph.disablingOrder_before h.recalls.own hw hrefers
      (fun heq => hne (by rw [heq]))
      (h.recalls.acyclic h.lawful.orderly.named hv hground hrefers hw) h.order
    rcases h.apart w (hmem.mpr hw) (h.past w hdone) with ⟨hgoing, j, hj, g, hg, hreach⟩ | haside
    · exact .inr ⟨hgoing, j, hj, g, (hgates g).mpr (Option.mem_toList.mp hg), hreach⟩
    · rcases haside with hdown | hother
      · exact .inl hdown
      · exact absurd href (hother _ (List.mem_map_of_mem (hmem.mpr hv)) hstate)
  · exact .inl hdown

/-- Once its next element is claimed the chain goes on with the rest. -/
theorem Lowering.claim (h : Lowering nodes S gate done (v :: rest))
    (hstate : (S.service v.item).state = .enabled) (hgates : ∀ g, g ∈ gates ↔ gate = some g)
    (hchange : Change S (.claim .down) (S.claimed v.item .disabling name gates (.disable v.item))) :
    Lowering nodes (S.claimed v.item .disabling name gates (.disable v.item))
      (some S.submitted) (done ++ [v]) rest := by
  have horderly := h.lawful.orderly
  generalize hT : S.claimed v.item .disabling name gates (.disable v.item) = T at hchange ⊢
  have hself : T.service v.item = (S.service v.item).depart .disabling S.submitted :=
    hT ▸ Scene.service_put_self (S.push name gates _) v.item _
  have hgoing : (T.service v.item).state = .disabling := by rw [hself]; rfl
  have hnew : T.task? S.submitted = some (S.newcomer name gates (.disable v.item)) := by
    rw [← hT]
    show (S.push name gates _).task? _ = _
    rw [Scene.task?_push, if_pos rfl]
  have hother : ∀ n, n ≠ v.item → T.service n = S.service n := fun n hne =>
    hT ▸ Scene.service_put_of_ne (S.push name gates _) _ hne
  have hsame : S.SameGraph T := hT ▸ .claimed _ _ _ _ _ _
  have hlawful := h.lawful.step hchange
  exact {
    lawful := hlawful
    recalls := by
      refine h.recalls.later horderly.named hlawful.orderly.named fun n hup =>
        ⟨?_, hsame.id n, hsame.references n⟩
      by_cases heq : n = v.item
      · rw [heq, hstate]
        simp
      · rwa [hother n heq] at hup
    order := by simp [h.order]
    past w hw := by
      by_cases hwv : w.item = v.item
      · rw [hwv, hgoing]
        simp
      · rw [hother _ hwv]
        rcases List.mem_append.mp hw with hw | hw
        · exact h.past w hw
        · exact absurd (congrArg _ (List.mem_singleton.mp hw)) hwv
    apart w hw hstate := by
      by_cases hwv : w.item = v.item
      · rw [hwv]
        exact .inl ⟨hgoing, S.submitted, by rw [hself]; rfl, S.submitted, by simp, .refl⟩
      · rw [hother _ hwv] at hstate
        rcases h.apart w hw hstate with ⟨hgone, j, hj, g, hg, hreach⟩ | haside
        · left
          unfold Led
          rw [hother _ hwv]
          refine ⟨hgone, j, hj, S.submitted, by simp, .head ?_ (ReflTransGen.mono
            (fun a _ hgate => (horderly.gated.continues hchange a).gate hgate) _ _ hreach)⟩
          -- the new task has the gate of the chain
          exact ⟨_, hnew, (hgates g).mpr (Option.mem_toList.mp hg)⟩
        · right
          unfold Scene.Aside at haside ⊢
          rw [hother _ hwv]
          refine haside.imp_right fun hnone m hm henabled => ?_
          have hmv : m ≠ v.item := by
            rintro rfl
            rw [hgoing] at henabled
            cases henabled
          rw [hother _ hmv] at henabled ⊢
          exact hnone m hm henabled
    lowers g hg := by
      obtain rfl := Option.some.inj hg
      exact ⟨_, hnew, v.item, rfl⟩ }

/-- A chain passes over an element that somebody else has. -/
theorem Lowering.skip (h : Lowering nodes S gate done (v :: rest))
    (hstate : (S.service v.item).state ≠ .enabled) : Lowering nodes S gate (done ++ [v]) rest := by
  refine ⟨h.lawful, h.recalls, by simp [h.order], fun w hw => ?_, h.apart, h.lowers⟩
  rcases List.mem_append.mp hw with hw | hw
  · exact h.past w hw
  · exact List.mem_singleton.mp hw ▸ hstate

end Lowering

/-- The rest of a chain under way is a sequence of changes. -/
theorem changes_claimChain (hquiet : Interference.Quiet K between) (hK : K (.claim .down))
    {nodes : Table ServiceId (Graph.Vertex Incarnation)} (rest : List (Graph.Vertex Incarnation)) :
    ∀ (done : List (Graph.Vertex Incarnation)) (gate : Option TaskId) (p : Provider),
      Lowering nodes p.scene gate done rest →
      Changes K p.scene (claimChain between nodes.keys rest gate p).2.scene := by
  induction rest with
  | nil => exact fun _ _ _ _ => .refl
  | cons v rest ih =>
    intro done gate p h
    unfold claimChain
    obtain ⟨q, hstays, ⟨refusal, hclaim, hwhy⟩ |
      ⟨hstate, hreferrers, p', name, gates, hclaim, hgates, hscene⟩⟩ :=
      claimDown_cases hquiet h.lawful v.item nodes.keys gate
    · rw [hclaim]
      refine ReflTransGen.trans hstays.changes ?_
      rcases hwhy with ⟨e, rfl⟩ | hne
      · exact .refl
      · cases refusal with
        | rejected e => exact .refl
        | busy | removed => exact ih _ _ (q.say _) ((h.stays hstays).skip hne)
    · rw [hclaim]
      refine ReflTransGen.trans hstays.changes ?_
      have h := h.stays hstays
      have hmay := h.mayLeave hstate hgates hreferrers
      have hknown : ∀ g ∈ gates, g < q.scene.submitted := by
        intro g hg
        obtain ⟨t, ht, -⟩ := hmay.1 g hg
        exact h.lawful.orderly.gated.known g t ht
      have hchange := Change.claims .down name (h.head hstate).2.1 hstate hknown hmay
      have hchain := ih _ _ p' (hscene ▸ h.claim hstate hgates hchange)
      refine Changes.head hK (hscene ▸ hchange) ?_
      dsimp only
      split <;> next heq => rw [heq] at hchain; exact hchain

/-- The last part of a request to take several services down: they are claimed one after the
other, those that others build upon last. -/
def claimTargets (between : Interference) (p : Provider) (targets : List Incarnation) :
    Except RequestError (List ServiceId) × Provider :=
  let nodes := Table.ofList (targets.map fun n => ((p.service n).id, p.registry.vertex n))
  let notes := (Graph.walks nodes).flatMap fun w => w.notes.reverse
  let p := { p with
    registry := p.registry.sayAll (notes.map fun n => ⟨.trace, n.text⟩) }
  claimChain between nodes.keys (Graph.disablingOrder nodes) none p

/-- The claims are a sequence of changes if nothing that others have gets in their way. -/
theorem changes_claimTargets (hquiet : Interference.Quiet K between) (hK : K (.claim .down))
    (h : p.scene.Lawful) {targets : List Incarnation}
    (htargets : ∀ n ∈ targets,
      (∀ m, p.scene.find? (p.scene.service n).id = some m →
        m = n ∨ (p.scene.service m).state = .disabled) ∧
      ((p.scene.service n).state ≠ .enabled → p.scene.Aside targets n)) :
    Changes K p.scene (p.claimTargets between targets).2.scene := by
  let nodes := Table.ofList (targets.map fun n => ((p.service n).id, p.registry.vertex n))
  have hnodes : ∀ k v, nodes.get? k = some v →
      ∃ n ∈ targets, k = (p.service n).id ∧ v = p.registry.vertex n := by
    intro k v hv
    obtain ⟨n, hn, heq⟩ := List.mem_map.mp (Table.mem_of_get?_ofList hv)
    obtain ⟨rfl, rfl⟩ := Prod.mk.inj heq
    exact ⟨n, hn, rfl, rfl⟩
  have hrecalls : Recalls nodes p.scene := by
    refine ⟨fun k v hv => ?_, fun k v hv _ => ?_, fun k v m hv hm => ?_⟩ <;>
      obtain ⟨n, hn, rfl, rfl⟩ := hnodes k v hv
    · rfl
    · exact ⟨rfl, rfl⟩
    · exact (htargets n hn).1 m hm
  have hitem : ∀ v ∈ Graph.disablingOrder nodes, v.item ∈ targets := by
    intro v hv
    obtain ⟨n, hn, -, rfl⟩ := hnodes _ v ((Graph.mem_disablingOrder hrecalls.own).mp hv)
    exact hn
  let notes := (Graph.walks nodes).flatMap fun w => w.notes.reverse
  let noted : Provider :=
    { p with registry := p.registry.sayAll (notes.map fun n => ⟨.trace, n.text⟩) }
  have hnoted : noted.scene = p.scene := sceneOf_outline p.tasks (Registry.outline_sayAll _ _)
  have hlowering : Lowering nodes p.scene none [] (Graph.disablingOrder nodes) := by
    refine ⟨h, hrecalls, rfl, by simp, fun v hv hstate => .inr ?_, by simp⟩
    refine ((htargets _ (hitem v hv)).2 hstate).imp_right fun hnone m hm => hnone m ?_
    obtain ⟨w, hw, rfl⟩ := List.mem_map.mp hm
    exact hitem w hw
  have hchain := changes_claimChain hquiet hK _ [] none noted (hnoted.symm ▸ hlowering)
  rw [hnoted] at hchain
  exact hchain

/-- A request to take down everything that refers to a service is a sequence of changes. -/
theorem changes_disableReferrers (h : p.scene.Lawful) (id : ServiceId) :
    Changes (· = .claim .down) p.scene (p.disableReferrers undisturbed id).2.scene := by
  unfold disableReferrers
  split
  · exact .refl
  · split
    · exact .refl
    · next targets hselect =>
      have hsnd := verifyNoneInUse_snd targets p
      split <;> rename_i heq <;> rw [heq] at hsnd <;> obtain rfl := hsnd
      · exact .refl
      · refine changes_claimTargets (undisturbed_quiet (· = .claim .down)) rfl h fun n hn => ?_
        obtain ⟨hin, hstate⟩ := selectEnabled_ok hselect n hn
        obtain ⟨k, -, hk⟩ := List.mem_filterMap.mp hin
        have hn := h.orderly.named.registered hk
        exact ⟨fun m hm => .inl (Option.some.inj (hm.symm.trans hn)),
          fun hne => absurd hstate hne⟩

end Provider

end ServiceLifecycle

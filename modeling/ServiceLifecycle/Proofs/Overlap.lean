import ServiceLifecycle.Proofs.Chains
import ServiceLifecycle.Proofs.Requests

/-!
# Overlapping requests

While a branch is being submitted the service that it leads up to is promised the task
submitted last. The services below it are active by then, claimed by this chain or by
another, and the promise waits for the activation of each. So its own claim succeeds
in the end, and chains still run to their end after the request.

* **branches** — a branch leads up to its service, dependencies first
  (`Scene.Ascent`, `Provider.ascent`);
* **submission** — one element after the other keeps the promise
  (`Scene.Climbing`, `Provider.convergent_branch`);
* **requests** — every request keeps the invariant (`Provider.Performs.convergent`).
-/

namespace ServiceLifecycle

open Relation

namespace Scene

variable {S S' : Scene} {n m v : Incarnation} {K : Incarnation → Prop}
  {branch : List (Graph.Vertex Incarnation)}

/-! ## Branches -/

/-- The branch ends with the service that it leads up to. Every other element is a service that
this one needs, and stands behind those that it refers to. -/
structure Ascent (S : Scene) (v : Incarnation) (branch : List (Graph.Vertex Incarnation)) :
    Prop where
  last : ∃ lower top, branch = lower ++ [top] ∧ top.item = v
  distinct : (branch.map Graph.Vertex.item).Nodup
  needed : ∀ u ∈ branch, ReflTransGen S.Refers v u.item
  before : ∀ pre u post, branch = pre ++ u :: post → ∀ m, S.Refers u.item m →
    ∃ w ∈ pre, w.item = m

theorem Ascent.same (h : Ascent S v branch) (hgraph : SameGraph S S') : Ascent S' v branch where
  last := h.last
  distinct := h.distinct
  needed := hgraph.refers ▸ h.needed
  before := hgraph.refers ▸ h.before

/-- Services that are active or are about to be: with each of them all that it refers to is
registered and among them, and none is going down. -/
structure Reserved (S : Scene) (K : Incarnation → Prop) : Prop where
  registered : ∀ n, K n → S.Registered n
  resolved : ∀ n, K n → ∀ y ∈ (S.service n).references, ∃ m, S.find? y = some m ∧ K m
  steady : ∀ n, K n → (S.service n).state ≠ .disabling

theorem Reserved.of_refers (h : Reserved S K) (hn : K n) (hnm : S.Refers n m) : K m := by
  obtain ⟨y, hy, hm⟩ := hnm
  obtain ⟨m', hm', hK⟩ := h.resolved n hn y hy
  exact Option.some.inj (hm'.symm.trans hm) ▸ hK

theorem Reserved.of_needs (h : Reserved S K) (hn : K n) (hneeds : ReflTransGen S.Refers n m) :
    K m := by
  induction hneeds with
  | refl => exact hn
  | tail _ hstep ih => exact h.of_refers ih hstep

theorem Reserved.down_of_inactive (h : Reserved S K) (hn : K n)
    (hinactive : (S.service n).state.isActive ≠ true) : (S.service n).state = .disabled := by
  have hsteady := h.steady n hn
  cases hstate : (S.service n).state <;> simp_all [ServiceState.isActive]

/-- No request that enables takes a service down. -/
theorem steady_of_claim (change : Change S (.claim .up) S')
    (hstate : (S.service n).state ≠ .disabling) : (S'.service n).state ≠ .disabling := by
  cases change with
  | @claims _ k name gates =>
    rw [show (S.claimed k Direction.up.via name gates (Direction.up.job k)).service n = _ from
      service_put (S.push name gates _) k n _]
    split
    · simp [Service.depart, Service.publish, Direction.via]
    · exact hstate
  | joins => exact hstate

theorem Reserved.claims (h : Reserved S K) (hgraph : SameGraph S S')
    (changes : Changes (· = .claim .up) S S') : Reserved S' K := by
  refine ⟨fun n hn => hgraph.registered (h.registered n hn), fun n hn y hy => ?_, fun n hn => ?_⟩
  · rw [hgraph.references] at hy
    rw [hgraph.find?]
    exact h.resolved n hn y hy
  · have hstate := h.steady n hn
    clear hgraph
    induction changes with
    | refl => exact hstate
    | tail _ hstep ih =>
      obtain ⟨_, rfl, change⟩ := hstep
      exact steady_of_claim change ih

/-! ## Submission -/

/-- The state of a submission: some elements are done, and the one that the branch leads up to
is promised the task of the last of them. -/
structure Climbing (S : Scene) (v : Incarnation) (last : Option TaskId)
    (done : List (Graph.Vertex Incarnation)) : Prop where
  convergent : Convergent S (last.map (v, ·))
  known : ∀ l, last = some l → l < S.submitted
  active : ∀ u ∈ done, (S.service u.item).state.isActive = true
  behind : ∀ u ∈ done, (S.service u.item).state = .enabling →
    ∃ j, (S.service u.item).transition = some j ∧ S.Covers last.toList j
  down : (S.service v).state = .disabled

variable {last : Option TaskId} {done : List (Graph.Vertex Incarnation)}

theorem promise_iff {l : TaskId} :
    (last.map (v, ·) : Promise) = some (n, l) ↔ n = v ∧ last = some l := by
  cases last <;> simp [eq_comm]

/-- What the gates of a new task cover, the task covers. -/
theorem Gated.covers_new (h : Gated S) {name : String} {gates : List TaskId} {job : Job}
    {j : TaskId} (hgates : ∀ g ∈ gates, g < S.submitted) (hcovers : S.Covers gates j) :
    (S.push name gates job).Covers [S.submitted] j :=
  ⟨_, List.mem_singleton_self _, TransGen.to_reflTransGen ((h.behind_new hgates).mpr hcovers)⟩

/-- An element that is active is joined. -/
theorem Climbing.join (h : Climbing S v last done) (horderly : Orderly S)
    {u : Graph.Vertex Incarnation} (hactive : (S.service u.item).state.isActive = true)
    (hneeds : ReflTransGen S.Refers v u.item) (name : String) {gates : List TaskId}
    (hgates : ∀ g, g ∈ gates ↔ (S.service u.item).transition = some g ∨ last = some g) :
    Climbing (S.push name gates (.confirm u.item)) v (some S.submitted) (done ++ [u]) := by
  have hknown : ∀ g ∈ gates, g < S.submitted := by
    intro g hg
    rcases (hgates g).mp hg with hg | hg
    · exact horderly.transition_lt hg
    · exact h.known g hg
  exact {
    convergent := by
      refine h.convergent.join horderly name hknown (fun n l hl => ?_) (fun n l hl => ?_)
        (fun n l hl => ?_)
      · obtain ⟨rfl, hgate⟩ := promise_iff.mp hl
        exact ⟨(hgates l).mpr (.inr hgate), rfl⟩
      · obtain ⟨rfl, rfl⟩ := Prod.mk.inj (Option.some.inj hl)
        refine ⟨rfl, fun g hg => ?_⟩
        rcases (hgates g).mp hg with hg | hg
        · refine .inr ⟨u.item, ?_, hg⟩
          -- only a service in transit has a task for it
          cases hstate : (S.service u.item).state with
          | enabling => rfl
          | enabled =>
            rw [horderly.owned.rests u.item (by rw [hstate]; rfl)] at hg
            cases hg
          | disabled | disabling =>
            rw [hstate] at hactive
            cases hactive
        · exact .inl ⟨v, promise_iff.mpr ⟨rfl, hg⟩⟩
      · obtain ⟨rfl, rfl⟩ := Prod.mk.inj (Option.some.inj hl)
        refine ⟨hneeds, hactive, fun hstate => ?_⟩
        obtain ⟨j, -, hj, -⟩ := horderly.owned.holds u.item .up hstate
        exact ⟨j, hj, (hgates j).mpr (.inl hj)⟩
    known l hl := Option.some.inj hl ▸ Nat.lt_succ_self _
    active w hw := by
      rcases List.mem_append.mp hw with hw | hw
      · exact h.active w hw
      · exact List.mem_singleton.mp hw ▸ hactive
    behind w hw hstate := by
      rcases List.mem_append.mp hw with hw | hw
      · obtain ⟨j, hj, g, hg, hreach⟩ := h.behind w hw hstate
        exact ⟨j, hj, horderly.gated.covers_new hknown
          ⟨g, (hgates g).mpr (.inr (Option.mem_toList.mp hg)), hreach⟩⟩
      · obtain rfl := List.mem_singleton.mp hw
        obtain ⟨j, -, hj, -⟩ := horderly.owned.holds w.item .up hstate
        exact ⟨j, hj, horderly.gated.covers_new hknown ⟨j, (hgates j).mpr (.inl hj), .refl⟩⟩
    down := h.down }

/-- An element that is down is claimed: all that it refers to has been done. Either it is
promised to somebody above it, or it is the top and the promise is redeemed. -/
theorem Climbing.raise (h : Climbing S v last done) (horderly : Orderly S)
    (hreserved : Reserved S K) (hn : K n) (hdown : (S.service n).state = .disabled)
    (hbefore : ∀ m, S.Refers n m → ∃ w ∈ done, w.item = m) (name : String) {gates : List TaskId}
    (hgates : ∀ g, g ∈ gates ↔ last = some g) {promise : Promise}
    (hpromise : promise = some (v, S.submitted) ∨ promise = none ∧ n = v) :
    Convergent (S.claimed n .enabling name gates (.enable n)) promise := by
  refine h.convergent.raise horderly name (fun g hg => h.known g ((hgates g).mp hg)) hdown
    (fun y hy => ?_) (fun m hm hstate => ?_) (fun a l hl => ?_) (fun g hg => ?_) (fun a l hl => ?_)
  · obtain ⟨m, hm, -⟩ := hreserved.resolved n hn y hy
    obtain ⟨w, hw, rfl⟩ := hbefore m ⟨y, hy, hm⟩
    exact ⟨w.item, hm, h.active w hw⟩
  · obtain ⟨w, hw, rfl⟩ := hbefore m hm
    obtain ⟨j, hj, g, hg, hreach⟩ := h.behind w hw hstate
    exact ⟨j, hj, g, (hgates g).mpr (Option.mem_toList.mp hg), hreach⟩
  · obtain ⟨rfl, hgate⟩ := promise_iff.mp hl
    exact ⟨(hgates l).mpr hgate, hpromise.imp id fun heq => heq.2.symm⟩
  · exact ⟨v, promise_iff.mpr ⟨rfl, (hgates g).mp hg⟩⟩
  · rcases hpromise with rfl | ⟨rfl, -⟩
    · exact (Prod.mk.inj (Option.some.inj hl)).2.symm
    · cases hl

theorem Climbing.claim (h : Climbing S v last done) (horderly : Orderly S)
    (hreserved : Reserved S K) {u : Graph.Vertex Incarnation} (hu : K u.item)
    (hdown : (S.service u.item).state = .disabled)
    (hbefore : ∀ m, S.Refers u.item m → ∃ w ∈ done, w.item = m)
    (hfresh : ∀ w ∈ done, w.item ≠ u.item) (hne : u.item ≠ v) (name : String)
    {gates : List TaskId} (hgates : ∀ g, g ∈ gates ↔ last = some g) :
    Climbing (S.claimed u.item .enabling name gates (.enable u.item)) v (some S.submitted)
      (done ++ [u]) := by
  have hservice : ∀ m, (S.claimed u.item .enabling name gates (.enable u.item)).service m =
      if m = u.item then (S.service u.item).depart .enabling S.submitted else S.service m :=
    fun m => service_put (S.push name gates _) u.item m _
  have hknown : ∀ g ∈ gates, g < S.submitted := fun g hg => h.known g ((hgates g).mp hg)
  exact {
    convergent := h.raise horderly hreserved hu hdown hbefore name hgates (.inl rfl)
    known l hl := Option.some.inj hl ▸ Nat.lt_succ_self _
    active w hw := by
      rw [hservice]
      split
      · rfl
      · next hother =>
        rcases List.mem_append.mp hw with hw | hw
        · exact h.active w hw
        · exact absurd (congrArg Graph.Vertex.item (List.mem_singleton.mp hw)) hother
    behind w hw hstate := by
      rcases List.mem_append.mp hw with hw | hw
      · rw [hservice, if_neg (hfresh w hw)] at hstate ⊢
        obtain ⟨j, hj, g, hg, hreach⟩ := h.behind w hw hstate
        exact ⟨j, hj, horderly.gated.covers_new hknown
          ⟨g, (hgates g).mpr (Option.mem_toList.mp hg), hreach⟩⟩
      · obtain rfl := List.mem_singleton.mp hw
        rw [hservice, if_pos rfl]
        exact ⟨_, rfl, _, List.mem_singleton_self _, .refl⟩
    down := by
      rw [hservice, if_neg (Ne.symm hne)]
      exact h.down }

end Scene

namespace Provider

open Scene

variable {p p' : Provider} {n v : Incarnation} {K : Incarnation → Prop} {gate : Option TaskId}
  {willEnable : List ServiceId} {i : TaskId} {claimed : Claimed}
  {branch : List (Graph.Vertex Incarnation)}

/-- An element that is down is claimed if all that it refers to is active. -/
theorem submitStep_raises (h : Orderly p.scene) (hn : p.scene.Registered n)
    (hdown : (p.scene.service n).state = .disabled)
    (hrefs : ∀ y ∈ (p.scene.service n).references,
      ∃ m, p.scene.find? y = some m ∧ (p.scene.service m).state.isActive = true)
    (hstep : p.submitStep n gate willEnable = (i, claimed, p')) :
    ∃ name gates, (∀ g, g ∈ gates ↔ gate = some g) ∧
      p'.scene = p.scene.claimed n .enabling name gates (.enable n) := by
  obtain ⟨c, q, hcases, name, gates, ⟨-, -, -, hgates, hscene⟩ | ⟨-, hwhy, -, -⟩⟩ :=
    submitStep_cases (h.named.within _ n hn) gate willEnable
  · obtain ⟨-, -, rfl⟩ : i = _ ∧ claimed = c ∧ p' = q := by
      simpa only [Prod.mk.injEq] using hstep.symm.trans hcases
    exact ⟨name, gates, hgates, hscene⟩
  · rcases hwhy with hremoved | ⟨-, hnot⟩ | hstate
    · rw [(h.named.own _ n hn).2] at hremoved
      cases hremoved
    · refine absurd (fun y hy _ => ?_) hnot
      obtain ⟨m, hm, hactive⟩ := hrefs y hy
      rw [Outline.stateOf?, hm]
      exact .inl hactive
    · exact absurd hdown hstate

/-- An element that is active is joined. -/
theorem submitStep_joins (h : Orderly p.scene) (hn : p.scene.Registered n)
    (hactive : (p.scene.service n).state.isActive = true)
    (hstep : p.submitStep n gate willEnable = (i, claimed, p')) :
    ∃ name gates,
      (∀ g, g ∈ gates ↔ (p.scene.service n).transition = some g ∨ gate = some g) ∧
      p'.scene = p.scene.push name gates (.confirm n) := by
  have hne : (p.scene.service n).state ≠ .disabled := fun hdown => by
    rw [hdown] at hactive
    cases hactive
  obtain ⟨c, q, hcases, name, gates, ⟨-, hdown, -⟩ | ⟨-, -, hgates, hscene⟩⟩ :=
    submitStep_cases (h.named.within _ n hn) gate willEnable
  · exact absurd hdown hne
  · obtain ⟨-, -, rfl⟩ : i = _ ∧ claimed = c ∧ p' = q := by
      simpa only [Prod.mk.injEq] using hstep.symm.trans hcases
    refine ⟨name, gates, fun g => (hgates g).trans (or_congr_left ?_), hscene⟩
    exact ⟨fun hg => hg.2.2, fun hg => ⟨(h.named.own _ n hn).2, hne, hg⟩⟩

/-- From an element that is not the top, a branch goes on. -/
theorem climbing_step {u : Graph.Vertex Incarnation} {done : List (Graph.Vertex Incarnation)}
    (h : Climbing p.scene v gate done) (horderly : Orderly p.scene)
    (hreserved : Reserved p.scene K) (hu : K u.item)
    (hneeds : ReflTransGen p.scene.Refers v u.item)
    (hbefore : ∀ m, p.scene.Refers u.item m → ∃ w ∈ done, w.item = m)
    (hfresh : ∀ w ∈ done, w.item ≠ u.item) (hne : u.item ≠ v)
    (hstep : p.submitStep u.item gate willEnable = (i, claimed, p')) :
    Climbing p'.scene v (some p.scene.submitted) (done ++ [u]) := by
  have hn := hreserved.registered u.item hu
  by_cases hactive : (p.scene.service u.item).state.isActive = true
  · obtain ⟨name, gates, hgates, hscene⟩ := submitStep_joins horderly hn hactive hstep
    rw [hscene]
    exact h.join horderly hactive hneeds name hgates
  · have hdown := hreserved.down_of_inactive hu hactive
    obtain ⟨name, gates, hgates, hscene⟩ := submitStep_raises horderly hn hdown (fun y hy => by
      obtain ⟨m, hm, -⟩ := hreserved.resolved u.item hu y hy
      obtain ⟨w, hw, rfl⟩ := hbefore m ⟨y, hy, hm⟩
      exact ⟨w.item, hm, h.active w hw⟩) hstep
    rw [hscene]
    exact h.claim horderly hreserved hu hdown hbefore hfresh hne name hgates

/-- With the top of the branch the promise is redeemed. -/
theorem climbing_top {done : List (Graph.Vertex Incarnation)}
    (h : Climbing p.scene v gate done) (horderly : Orderly p.scene)
    (hreserved : Reserved p.scene K) (hv : K v)
    (hbefore : ∀ m, p.scene.Refers v m → ∃ w ∈ done, w.item = m)
    (hstep : p.submitStep v gate willEnable = (i, claimed, p')) : Convergent p'.scene none := by
  obtain ⟨name, gates, hgates, hscene⟩ :=
    submitStep_raises horderly (hreserved.registered v hv) h.down (fun y hy => by
      obtain ⟨m, hm, -⟩ := hreserved.resolved v hv y hy
      obtain ⟨w, hw, rfl⟩ := hbefore m ⟨y, hy, hm⟩
      exact ⟨w.item, hm, h.active w hw⟩) hstep
  rw [hscene]
  exact h.raise horderly hreserved hv h.down hbefore name hgates (.inr ⟨rfl, rfl⟩)

/-- The rest of a branch that leads up to a service that is down. -/
theorem convergent_rest {willEnable : List ServiceId} (rest : List (Graph.Vertex Incarnation)) :
    ∀ (done : List (Graph.Vertex Incarnation)) (acc : Submission × Provider), rest ≠ [] →
      Ascent acc.2.scene v (done ++ rest) → Orderly acc.2.scene → Reserved acc.2.scene K → K v →
      Climbing acc.2.scene v (acc.1.last.map Prod.fst) done →
      Convergent (rest.foldl (submitElement willEnable) acc).2.scene none := by
  induction rest with
  | nil => exact fun _ _ h => absurd rfl h
  | cons u rest ih =>
    intro done acc _ hascent horderly hreserved hv hclimbing
    have hneeds := hascent.needed u (by simp)
    have hu := hreserved.of_needs hv hneeds
    have hn := hreserved.registered u.item hu
    obtain ⟨c, q, hstep, hchange, hsubmitted, hgraph⟩ := change_submitStep horderly hn
      (acc.1.last.map Prod.fst) hclimbing.known willEnable
    have hnext : submitElement willEnable acc u =
        ({ last := some (acc.2.scene.submitted, c),
           initiated := (submitElement willEnable acc u).1.initiated }, q) := by
      simp only [submitElement, hstep]
    have hbefore := hascent.before done u rest rfl
    obtain ⟨lower, top, hbranch, htop⟩ := hascent.last
    rw [List.foldl_cons, hnext]
    cases rest with
    | nil =>
      -- the last element is the top
      obtain ⟨-, hlast⟩ := List.append_inj' hbranch rfl
      obtain rfl := (List.cons.inj hlast).1
      rw [htop] at hstep hbefore
      exact climbing_top hclimbing horderly hreserved hv hbefore hstep
    | cons w rest =>
      have hdistinct := hascent.distinct
      rw [List.map_append, List.map_cons, List.nodup_middle, List.nodup_cons, List.mem_append,
        List.mem_map, List.mem_map] at hdistinct
      have hfresh : ∀ x ∈ done, x.item ≠ u.item :=
        fun x hx heq => hdistinct.1 (.inl ⟨x, hx, heq⟩)
      have hne : u.item ≠ v := by
        intro heq
        refine hdistinct.1 (.inr ⟨top, ?_, htop.trans heq.symm⟩)
        have hlast : ((done ++ [u]) ++ w :: rest).getLast? = some top := by
          rw [List.append_assoc]
          show (done ++ u :: w :: rest).getLast? = _
          rw [hbranch, List.getLast?_concat]
        rw [List.getLast?_append_of_ne_nil _ (by simp)] at hlast
        exact List.mem_of_getLast? hlast
      refine ih (done ++ [u]) _ (by simp) ?_ (horderly.step hchange) ?_ hv ?_
      · rw [List.append_assoc]
        exact hascent.same hgraph
      · exact hreserved.claims hgraph (Changes.single rfl hchange)
      · exact climbing_step hclimbing horderly hreserved hu hneeds hbefore hfresh hne hstep

/-- A branch all of whose elements are active is joined from its beginning to its end. -/
theorem convergent_joins {willEnable : List ServiceId} (rest : List (Graph.Vertex Incarnation)) :
    ∀ acc : Submission × Provider, Convergent acc.2.scene none → Orderly acc.2.scene →
      (∀ i c, acc.1.last = some (i, c) → i < acc.2.scene.submitted) →
      (∀ u ∈ rest, acc.2.scene.Registered u.item ∧
        (acc.2.scene.service u.item).state.isActive = true) →
      Convergent (rest.foldl (submitElement willEnable) acc).2.scene none := by
  induction rest with
  | nil => exact fun _ h _ _ _ => h
  | cons u rest ih =>
    intro acc h horderly hlast hrest
    obtain ⟨hn, hactive⟩ := hrest u List.mem_cons_self
    have hknown : ∀ g, acc.1.last.map Prod.fst = some g → g < acc.2.scene.submitted := by
      intro g hg
      obtain ⟨⟨j, c⟩, hc, rfl⟩ := Option.map_eq_some_iff.mp hg
      exact hlast j c hc
    obtain ⟨c, q, hstep, hchange, hsubmitted, hgraph⟩ := change_submitStep horderly hn
      (acc.1.last.map Prod.fst) hknown willEnable
    obtain ⟨name, gates, hgates, hscene⟩ := submitStep_joins horderly hn hactive hstep
    have hnext : submitElement willEnable acc u =
        ({ last := some (acc.2.scene.submitted, c),
           initiated := (submitElement willEnable acc u).1.initiated }, q) := by
      simp only [submitElement, hstep]
    rw [List.foldl_cons, hnext]
    refine ih _ ?_ (horderly.step hchange) (fun j d hd => ?_) fun w hw => ?_
    · show Convergent q.scene none
      rw [hscene]
      refine h.join horderly name (fun g hg => ?_) ?_ ?_ ?_
      · rcases (hgates g).mp hg with hg | hg
        · exact horderly.transition_lt hg
        · exact hknown g hg
      all_goals exact fun _ _ hl => by cases hl
    · obtain ⟨rfl, -⟩ := Prod.mk.inj (Option.some.inj hd)
      rw [hsubmitted]
      exact Nat.lt_succ_self _
    · obtain ⟨hw, hup⟩ := hrest w (List.mem_cons_of_mem _ hw)
      refine ⟨hgraph.registered hw, ?_⟩
      rw [hscene]
      exact hup

/-- The submission of a branch keeps the invariant. -/
theorem convergent_branch (h : Convergent p.scene none) (horderly : Orderly p.scene)
    (hreserved : Reserved p.scene K) (hascent : Ascent p.scene v branch) (hv : K v)
    (willEnable : List ServiceId) (initiated : OrderedSet ServiceId) :
    Convergent (submitBranch branch willEnable initiated p).2.scene none := by
  rw [submitBranch_eq]
  by_cases hactive : (p.scene.service v).state.isActive = true
  · refine convergent_joins branch _ h horderly (fun _ _ hc => by cases hc) fun u hu => ?_
    have hneeds := hascent.needed u hu
    exact ⟨hreserved.registered _ (hreserved.of_needs hv hneeds),
      h.active_of_needs hactive hneeds⟩
  · obtain ⟨lower, top, hbranch, -⟩ := hascent.last
    refine convergent_rest branch [] _ (by simp [hbranch]) hascent horderly hreserved hv ?_
    exact ⟨h, fun l hl => (by cases hl), by simp, by simp, hreserved.down_of_inactive hv hactive⟩

/-! ## Requests -/

/-- Where no references run in a circle, each branch of the graph of what some services need
leads up to its service. -/
theorem ascent {S : Scene} (h : Named S) (hacyclic : ∀ n, ¬ TransGen S.Refers n n)
    {nodes : Table ServiceId (Graph.Vertex Incarnation)} {targets : List Incarnation}
    (hspans : Spans nodes S targets) {target : Graph.Vertex Incarnation}
    (htarget : nodes.get? target.id = some target) :
    Ascent S target.item (Graph.enablingBranch nodes target) := by
  obtain ⟨order, hbranch, hspec⟩ := Graph.branch_spec hspans.own htarget
  have hstored : ∀ u ∈ order, nodes.get? u.id = some u :=
    fun u hu => Graph.stored_of_reaches htarget ((hspec.mem_iff u).mp hu)
  have hcircle : ∀ u ∈ order, ∀ w, Graph.Refers nodes.get? u w →
      ¬ Graph.Reaches nodes.get? w u := fun u hu w huw hwu =>
    hacyclic _ (TransGen.head' (hspans.refers (hstored u hu) huw) (hspans.reaches huw.2 hwu))
  -- nothing refers to itself, so nothing stands in the branch twice
  have hcopies : ∀ u ∈ order, Graph.copies u = [u] := by
    intro u hu
    unfold Graph.copies
    rw [if_neg]
    · rfl
    · intro hself
      obtain ⟨hsome, hall⟩ := (Graph.dependsOnlyOnItself_iff u).mp hself
      obtain ⟨d, hd⟩ := List.exists_mem_of_ne_nil _ hsome
      exact hcircle u hu u ⟨hall d hd ▸ hd, hstored u hu⟩ .refl
  have horder : Graph.enablingBranch nodes target = order :=
    hbranch.trans ((List.flatMap_congr hcopies).trans (List.flatMap_singleton' order))
  rw [horder]
  refine ⟨?_, ?_, fun u hu => hspans.reaches htarget ((hspec.mem_iff u).mp hu), ?_⟩
  · obtain ⟨lower, hlower⟩ := List.getLast?_eq_some_iff.mp hspec.last
    exact ⟨lower, target, hlower, rfl⟩
  · have hid : order.map Graph.Vertex.id =
        (order.map Graph.Vertex.item).map fun n => (S.service n).id := by
      rw [List.map_map]
      refine List.map_congr_left fun u hu => ?_
      exact (h.own _ _ (hspans.registered _ u (hstored u hu))).1.symm
    exact List.Nodup.of_map _ (hid ▸ hspec.distinct)
  · intro pre u post heq m hm
    have hu : u ∈ order := heq ▸ by simp
    obtain ⟨w, hrefers, rfl⟩ := hspans.complete u (hstored u hu) m hm
    refine ⟨w, hspec.before pre u post heq w hrefers (fun hsame => ?_) (hcircle u hu w hrefers), rfl⟩
    exact hcircle u hu w hrefers (hsame ▸ .refl)

/-- Active services, together with the targets of a request, are all about to be active. -/
theorem Raises.reserved {targets : List Incarnation} {S : Scene} (h : p.Raises targets S)
    (hconvergent : Convergent p.scene none) (horderly : Orderly p.scene) :
    Reserved p.scene fun n => (p.scene.service n).state.isActive = true ∨ n ∈ targets where
  registered := by
    rintro n (hactive | hn)
    · exact horderly.named.housed n fun hdown => by rw [hdown] at hactive; cases hactive
    · exact h.registered n hn
  resolved := by
    rintro n (hactive | hn) y hy
    · obtain ⟨m, hm, hup⟩ := hconvergent.closed n hactive y hy
      exact ⟨m, hm, .inl hup⟩
    · exact h.resolved n hn y hy
  steady := by
    rintro n (hactive | hn) hstate
    · rw [hstate] at hactive
      cases hactive
    · rw [h.down n hn] at hstate
      cases hstate

/-- The submission of branches keeps the invariant. -/
theorem Raises.convergent {targets : List Incarnation} {S : Scene} (h : p.Raises targets S)
    (hconvergent : Convergent p.scene none) (horderly : Orderly p.scene)
    (hacyclic : ∀ n, ¬ TransGen p.scene.Refers n n) : Convergent S none := by
  have hreserved := h.reserved hconvergent horderly
  obtain ⟨nodes, hspans, q, willEnable, branches, hq, hbranches, rfl⟩ := h.submits
  let K := fun n => (p.scene.service n).state.isActive = true ∨ n ∈ targets
  refine (kept_submitBranches (I := fun r => Convergent r.scene none ∧ Orderly r.scene ∧
    Reserved r.scene K ∧ SameGraph p.scene r.scene) (fun branch hbranch initiated r hr => ?_)
    (by rw [hq]; exact ⟨hconvergent, horderly, hreserved, .refl _⟩)).1
  obtain ⟨hconvergentr, horderlyr, hreservedr, hsame⟩ := hr
  obtain ⟨target, htarget, rfl⟩ := hbranches branch hbranch
  have hascent := (ascent horderly.named hacyclic hspans htarget).same hsame
  obtain ⟨n, hn, hpath⟩ := hspans.needed _ target htarget
  have hK : K target.item := hreserved.of_needs (.inr hn) hpath
  obtain ⟨hchanges, hsame'⟩ := changes_submitBranch horderlyr
    (fun u hu => hreservedr.registered _ (hreservedr.of_needs hK (hascent.needed u hu)))
    willEnable initiated
  exact ⟨convergent_branch hconvergentr horderlyr hreservedr hascent hK willEnable initiated,
    horderlyr.changes hchanges, hreservedr.claims hsame' hchanges, hsame.trans hsame'⟩

/-- A request to enable a service keeps the invariant. -/
theorem convergent_enable (h : Convergent p.scene none) (horderly : Orderly p.scene)
    (hacyclic : ∀ n, ¬ TransGen p.scene.Refers n n) (id : ServiceId) :
    Convergent (p.enable undisturbed id).2.scene none := by
  rcases enable_raises horderly id with heq | ⟨n, -, hraises⟩
  · rw [heq]
    exact h
  · exact hraises.convergent h horderly hacyclic

/-- A request to enable several services keeps the invariant. -/
theorem convergent_enableServices (h : Convergent p.scene none) (horderly : Orderly p.scene)
    (hacyclic : ∀ n, ¬ TransGen p.scene.Refers n n) {ns : List Incarnation}
    (hns : ∀ n ∈ ns, p.scene.Registered n) :
    Convergent (p.enableServices undisturbed ns).2.scene none := by
  rcases enableServices_raises horderly hns with heq | ⟨targets, -, hraises⟩
  · rw [heq]
    exact h
  · exact hraises.convergent h horderly hacyclic

/-- Every request keeps the invariant, as long as no references run in a circle and the scheduler
is not shut down. -/
theorem Performs.convergent {q : Request} {S : Scene} (h : Convergent p.scene none)
    (horderly : Orderly p.scene) (hperforms : Performs p q S) (hshutdown : q ≠ .shutdown)
    (hbefore : ∀ n, ¬ TransGen p.scene.Refers n n) (hafter : ∀ n, ¬ TransGen S.Refers n n) :
    Convergent S none := by
  have hedits : ∀ {T U : Scene}, Convergent T none → Orderly T → Changes (· = .edit) T U →
      Convergent U none := by
    intro T U h horderly changes
    induction changes with
    | refl => exact h
    | tail hsteps hstep ih =>
      obtain ⟨_, rfl, change⟩ := hstep
      exact ih.edit (horderly.changes hsteps) change
  cases hperforms with
  | edits _ hchanges => exact hedits h horderly hchanges
  | lowers _ hchanges =>
    clear hafter
    induction hchanges with
    | refl => exact h
    | tail hsteps hstep ih =>
      obtain ⟨_, rfl, change⟩ := hstep
      exact ih.lower (horderly.changes hsteps) change
  | enables id => exact convergent_enable h horderly hbefore id
  | raises hns =>
    exact convergent_enableServices h horderly hbefore (registered_of_requested horderly.named hns)
  | @creates _ made id _ _ hmade hchanges hgraph =>
    have hmadeOrderly := horderly.changes hmade.changes
    have henabled := convergent_enable (hedits h horderly hmade.changes) hmadeOrderly
      (hgraph.refers ▸ hafter) id
    exact hedits henabled (hmadeOrderly.changes (changes_enable hmadeOrderly id).1) hchanges
  | shuts => exact absurd rfl hshutdown

end Provider

end ServiceLifecycle

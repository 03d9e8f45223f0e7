import ServiceLifecycle.Proofs.Orderly

/-!
# What is up stands on what is up

A service is up while it is enabled or going down: others may build on it. Whatever
is up refers only to registered services that are up, and these do so in their turn,
down to services without references.

* **ground** — to stand on the ground is inductive, so it also says that no service
  that is up refers to itself in a circle (`Grounded`);
* **yielding** — a service goes down behind all that refer to it: as long as one of
  them is not down, the task waits behind one that takes it down (`Supported.yielding`);
* **readiness** — while an activation hook is under way all references stay enabled
  (`Supported.ready`).
-/

namespace ServiceLifecycle

/-- Others may build on a service in this state. -/
def ServiceState.isUp : ServiceState → Bool
  | .enabled | .disabling => true
  | .disabled | .enabling => false

namespace Scene

open Relation

variable {S S' : Scene} {cause : Cause} {i j : TaskId} {t : Task Job HookRun} {n m : Incarnation}

/-! ## Ground -/

/-- The first service refers to the second, which is registered. -/
def Refers (S : Scene) (n m : Incarnation) : Prop :=
  ∃ y ∈ (S.service n).references, S.find? y = some m

/-- The service is up, and all that it refers to stands on the ground. -/
inductive Grounded (S : Scene) : Incarnation → Prop
  | intro {n : Incarnation} : (S.service n).state.isUp = true →
      (∀ y ∈ (S.service n).references, ∃ m, S.find? y = some m) →
      (∀ y ∈ (S.service n).references, ∀ m, S.find? y = some m → Grounded S m) → Grounded S n

theorem Grounded.isUp (h : S.Grounded n) : (S.service n).state.isUp = true := by
  cases h
  assumption

theorem Grounded.ne_disabled (h : S.Grounded n) : (S.service n).state ≠ .disabled := by
  intro hdown
  have hup := h.isUp
  rw [hdown] at hup
  cases hup

/-- What stands on the ground still does after a change to others on which it does not
build. `K` holds of all that the change is no matter to. -/
theorem Grounded.transfer {K : Incarnation → Prop}
    (hkeep : ∀ n, (S.service n).state.isUp = true → K n →
      (S'.service n).state.isUp = true ∧
      (S'.service n).references = (S.service n).references ∧
      ∀ y ∈ (S.service n).references, ∀ m, S.find? y = some m → (S.service m).state.isUp = true →
        K m ∧ S'.find? y = some m)
    (h : S.Grounded n) : K n → S'.Grounded n := by
  induction h with
  | @intro n hup hfound hground ih =>
    intro hK
    obtain ⟨hup', hrefs, hnext⟩ := hkeep n hup hK
    refine .intro hup' ?_ ?_
    · intro y hy
      rw [hrefs] at hy
      obtain ⟨m, hm⟩ := hfound y hy
      exact ⟨m, (hnext y hy m hm (hground y hy m hm).isUp).2⟩
    · intro y hy m' hm'
      rw [hrefs] at hy
      obtain ⟨m, hm⟩ := hfound y hy
      obtain ⟨hKm, hfind⟩ := hnext y hy m hm (hground y hy m hm).isUp
      obtain rfl : m = m' := Option.some.inj (hfind.symm.trans hm')
      exact ih y hy m hm hKm

/-- Where states may only rise and references stay, the ground stays. -/
theorem Grounded.mono (h : S.Grounded n)
    (hup : ∀ n, (S.service n).state.isUp = true →
      (S'.service n).state.isUp = true ∧ (S'.service n).references = (S.service n).references)
    (hfind : S'.find? = S.find?) : S'.Grounded n :=
  h.transfer (K := fun _ => True)
    (fun n hn _ => ⟨(hup n hn).1, (hup n hn).2, fun _ _ _ hm _ => ⟨trivial, hfind ▸ hm⟩⟩) trivial

/-- Nothing that stands on the ground builds on itself. -/
theorem Grounded.acyclic (h : S.Grounded n) : ¬ TransGen S.Refers n n := by
  induction h with
  | @intro n hup hfound hground ih =>
    intro hcycle
    obtain ⟨m, ⟨y, hy, hm⟩, hback⟩ := TransGen.head'_iff.mp hcycle
    exact ih y hy m hm (TransGen.tail' hback ⟨y, hy, hm⟩)

/-! ## Support -/

/-- What is up stands on the ground, services go down behind those that refer to them, and
activations find everything up. -/
structure Supported (S : Scene) : Prop where
  grounded : ∀ n, (S.service n).state.isUp = true → S.Grounded n
  yielding : ∀ i t n, S.task? i = some t → t.job = some (Direction.down.job n) →
    t.stage.isLive = true → ∀ m, m ≠ n → (S.service n).id ∈ (S.service m).references →
    (S.service m).state ≠ .disabled →
    ∃ j u, S.Behind i j ∧ S.task? j = some u ∧ u.job = some (Direction.down.job m) ∧
      ¬ S.Completed j
  ready : ∀ i t n, S.task? i = some t → Activates t n → S.Ready n

/-- Once a task that takes a service down is past its gates, whatever else refers to the
service is down. -/
theorem Supported.yielded (h : Supported S) (hgated : Gated S) (ht : S.task? i = some t)
    (hjob : t.job = some (Direction.down.job n)) (hfree : t.stage.isFree = true) (hne : m ≠ n)
    (href : (S.service n).id ∈ (S.service m).references) : (S.service m).state = .disabled := by
  by_contra hstate
  obtain ⟨j, u, hbehind, -, -, hopen⟩ :=
    h.yielding i t n ht hjob (Stage.isLive_of_isFree hfree) m hne href hstate
  refine hopen (hgated.completed_of_behind hbehind fun t' ht' => ?_)
  rw [ht] at ht'
  rw [← Option.some.inj ht']
  exact Stage.unpassed_of_isFree _ hfree

/-- A service stays ready where its references, and what these find enabled, stay. -/
theorem ready_of_keep (hready : S.Ready n)
    (hrefs : (S'.service n).references = (S.service n).references)
    (hkeep : ∀ y ∈ (S.service n).references, ∀ m, S.find? y = some m →
      (S.service m).state = .enabled → S'.find? y = some m ∧ (S'.service m).state = .enabled) :
    S'.Ready n := by
  intro y hy
  rw [hrefs] at hy
  obtain ⟨m, hm, hup⟩ := Option.map_eq_some_iff.mp (hready y hy)
  exact Option.map_eq_some_iff.mpr ⟨m, hkeep y hy m hm hup⟩

/-- A service that is not down stays ready when another one changes that is down. -/
theorem Ready.around (h : S.Ready n) {k : Incarnation} (hn : (S.service n).state ≠ .disabled)
    (hdown : (S.service k).state = .disabled) (hservice : ∀ m, m ≠ k → S'.service m = S.service m)
    (hfind : ∀ y m, S.find? y = some m → m ≠ k → S'.find? y = some m) : S'.Ready n := by
  have hne : ∀ {m}, (S.service m).state ≠ .disabled → m ≠ k := fun hm heq => hm (heq ▸ hdown)
  refine ready_of_keep h (by rw [hservice n (hne hn)]) fun y _ m hm hup => ?_
  have hmk : m ≠ k := hne (by simp [hup])
  exact ⟨hfind y m hm hmk, by rw [hservice m hmk, hup]⟩

/-- A service stays ready when one is put that is not enabled, or stays so. -/
theorem Ready.put (h : S.Ready n) {k : Incarnation} {s : Service} (hfind : S'.find? = S.find?)
    (hservice : ∀ m, S'.service m = if m = k then s else S.service m)
    (hproperties : s.properties = (S.service k).properties)
    (hkeep : (S.service k).state = .enabled → s.state = .enabled) : S'.Ready n := by
  refine ready_of_keep h ?_ fun y _ m hm hup => ⟨hfind ▸ hm, ?_⟩
  · rw [hservice]
    split
    · next heq => simp only [Service.references, hproperties, heq]
    · rfl
  · rw [hservice]
    split
    · next heq => exact hkeep (heq ▸ hup)
    · exact hup

/-- An activating service stays ready: nothing it refers to can be claimed. -/
theorem Orderly.ready_step (h : Orderly S) (change : Change S cause S')
    (hstate : (S.service n).state = .enabling) (hready : S.Ready n) : S'.Ready n := by
  have hrises : (S.service n).state ≠ .disabled := by simp [hstate]
  cases change with
  | appears id typeName descriptors behaviour isRegistered hfresh hfree =>
    exact hready.around hrises (by rw [hfresh]; rfl) (fun m hm => service_appear_of_ne hm)
      fun y m hm _ => find?_appear hfree hm
  | @edits k properties hfind hdown =>
    exact hready.around hrises hdown (fun m hm => service_put_of_ne S _ hm) fun y m hm _ => hm
  | @removes k hfind hdown =>
    refine hready.around hrises hdown (fun m hm => service_put_of_ne S _ hm) fun y m hm hne => ?_
    exact find?_remove hm fun heq => hne (Option.some.inj (hm.symm.trans (heq ▸ hfind)))
  | blames message => exact hready.put rfl (service_put S _ · _) rfl id
  | shuts | stops | joins | advances | confirms | denies | drops =>
    exact ready_of_keep hready rfl fun y _ m hm hup => ⟨hm, hup⟩
  | @claims d k name gates hfind horigin hgates hmay =>
    cases d with
    | up =>
      refine hready.put rfl (service_put (S.push name gates _) k · _) rfl fun hup => ?_
      rw [horigin] at hup
      cases hup
    | down =>
      have hservice : ∀ m, m ≠ k → (S.claimed k Direction.down.via name gates
          (Direction.down.job k)).service m = S.service m :=
        fun m hm => service_put_of_ne (S.push name gates _) _ hm
      have hne : n ≠ k := by
        rintro rfl
        rw [hstate] at horigin
        cases horigin
      refine ready_of_keep hready (by rw [hservice n hne]) fun y hy m hm hup => ⟨hm, ?_⟩
      rw [hservice m, hup]
      -- the service that is claimed is none of the references, for `n` is not down
      rintro rfl
      have hhoused : S.find? (S.service n).id = some n := h.named.housed n hrises
      have hid : (S.service m).id = y := (h.named.own y m hm).1
      rcases hmay.2 _ n hhoused hne (hid ▸ hy) with hd | ⟨hd, -⟩ <;> simp [hstate] at hd
  | sleeps => exact hready.put rfl (service_put S _ · _) rfl id
  | @concludes i t k entries state fault ending ht hconcludes =>
    obtain ⟨d, hjob, hlive, -⟩ := hconcludes.direction
    refine hready.put rfl (service_put S k · _) rfl fun hup => ?_
    exact absurd ((h.owned.held i t d k ht hjob hlive).1.symm.trans hup) d.via_ne_enabled

/-- What stands on the ground stays there when something happens to a service that is not up and
does not come up. -/
theorem Supported.grounded_around (h : Supported S) {k : Incarnation}
    (hbefore : (S.service k).state.isUp = false) (hafter : (S'.service k).state.isUp = false)
    (hkeep : ∀ m, m ≠ k → S'.service m = S.service m)
    (hfind : ∀ y m, S.find? y = some m → m ≠ k → S'.find? y = some m)
    (hn : (S'.service n).state.isUp = true) : S'.Grounded n := by
  have hne : ∀ {m}, (S.service m).state.isUp = true → m ≠ k := by
    rintro m hm rfl
    rw [hbefore] at hm
    cases hm
  have hnk : n ≠ k := by
    rintro rfl
    rw [hafter] at hn
    cases hn
  rw [hkeep n hnk] at hn
  refine (h.grounded n hn).transfer (K := fun _ => True) (fun m hm _ => ?_) trivial
  rw [hkeep m (hne hm)]
  exact ⟨hm, rfl, fun y _ m' hm' hup => ⟨trivial, hfind y m' hm' (hne hup)⟩⟩

/-- What stands on the ground stays there when a service is put in another condition and does not
cease to be up. -/
theorem Supported.grounded_put (h : Supported S) {k : Incarnation} {s : Service}
    (hfind : S'.find? = S.find?) (hservice : ∀ m, S'.service m = if m = k then s else S.service m)
    (hproperties : s.properties = (S.service k).properties)
    (hup : s.state.isUp = (S.service k).state.isUp)
    (hn : (S'.service n).state.isUp = true) : S'.Grounded n := by
  have hsame : ∀ m, (S'.service m).state.isUp = (S.service m).state.isUp ∧
      (S'.service m).references = (S.service m).references := by
    intro m
    rw [hservice]
    split
    · next heq =>
      subst heq
      exact ⟨hup, by simp only [Service.references, hproperties]⟩
    · exact ⟨rfl, rfl⟩
  rw [(hsame n).1] at hn
  exact (h.grounded n hn).mono (fun m hm => ⟨(hsame m).1.trans hm, (hsame m).2⟩) hfind

/-- A service that comes up ready stands on the ground with all the others. -/
theorem Supported.grounded_rise (h : Supported S) {k : Incarnation} {s : Service}
    (hfind : S'.find? = S.find?) (hservice : ∀ m, S'.service m = if m = k then s else S.service m)
    (hproperties : s.properties = (S.service k).properties) (hup : s.state.isUp = true)
    (hready : S.Ready k) (hn : (S'.service n).state.isUp = true) : S'.Grounded n := by
  have hmono : ∀ {m}, S.Grounded m → S'.Grounded m := by
    refine fun hm => hm.mono (fun a ha => ?_) hfind
    rw [hservice]
    split
    · next heq =>
      subst heq
      exact ⟨hup, by simp only [Service.references, hproperties]⟩
    · exact ⟨ha, rfl⟩
  rw [hservice] at hn
  split at hn
  · next heq =>
    subst heq
    have hself : S'.service n = s := by rw [hservice, if_pos rfl]
    have hrefs : (S'.service n).references = (S.service n).references := by
      simp only [hself, Service.references, hproperties]
    have hfound : ∀ y ∈ (S'.service n).references,
        ∃ m, S'.find? y = some m ∧ (S.service m).state = .enabled := by
      intro y hy
      rw [hrefs] at hy
      rw [hfind]
      exact Option.map_eq_some_iff.mp (hready y hy)
    refine .intro (by rwa [hself]) (fun y hy => ?_) fun y hy m hm => ?_
    · obtain ⟨m, hm, -⟩ := hfound y hy
      exact ⟨m, hm⟩
    · obtain ⟨m', hm', hen⟩ := hfound y hy
      obtain rfl : m' = m := Option.some.inj (hm'.symm.trans hm)
      exact hmono (h.grounded m' (by rw [hen]; rfl))
  · exact hmono (h.grounded n hn)

/-- What stands on the ground stays there when a service goes down to which nothing else that is
up refers. -/
theorem Supported.grounded_fall (h : Supported S) {k : Incarnation} {s : Service}
    (hfind : S'.find? = S.find?) (hservice : ∀ m, S'.service m = if m = k then s else S.service m)
    (hdown : s.state.isUp = false)
    (halone : ∀ m, m ≠ k → S.Refers m k → (S.service m).state.isUp = false)
    (hn : (S'.service n).state.isUp = true) : S'.Grounded n := by
  have hne : n ≠ k := by
    rintro rfl
    rw [hservice, if_pos rfl, hdown] at hn
    cases hn
  rw [hservice, if_neg hne] at hn
  refine (h.grounded n hn).transfer (K := (· ≠ k)) (fun m hm hmk => ?_) hne
  rw [hservice, if_neg hmk]
  refine ⟨hm, rfl, fun y hy m' hm' _ => ⟨?_, hfind ▸ hm'⟩⟩
  rintro rfl
  rw [halone m hmk ⟨y, hy, hm'⟩] at hm
  cases hm

/-- What stands on the ground stays there: a service goes down only when nothing that is up
refers to it, and comes up only when all its references are up. -/
theorem Supported.grounded_step (h : Supported S) (horderly : Orderly S)
    (change : Change S cause S') (hn : (S'.service n).state.isUp = true) : S'.Grounded n := by
  cases change with
  | appears id typeName descriptors behaviour isRegistered hfresh hfree =>
    exact h.grounded_around (by rw [hfresh]; rfl) (by rw [service_appear_self]; rfl)
      (fun m hm => service_appear_of_ne hm) (fun y m hm _ => find?_appear hfree hm) hn
  | @edits k properties hfind hdown =>
    have hself : (S.edit k properties).service k = { S.service k with properties } :=
      service_put_self S k _
    exact h.grounded_around (by rw [hdown]; rfl) (by rw [hself, hdown]; rfl)
      (fun m hm => service_put_of_ne S _ hm) (fun y m hm _ => hm) hn
  | @removes k hfind hdown =>
    have hself : (S.remove k).service k = { S.service k with removed := true } :=
      service_put_self S k _
    refine h.grounded_around (by rw [hdown]; rfl) (by rw [hself, hdown]; rfl)
      (fun m hm => service_put_of_ne S _ hm) (fun y m hm hne => ?_) hn
    exact find?_remove hm fun heq => hne (Option.some.inj (hm.symm.trans (heq ▸ hfind)))
  | blames message => exact h.grounded_put rfl (service_put S _ · _) rfl rfl hn
  | shuts | stops | joins | advances | confirms | denies | drops =>
    exact (h.grounded n hn).mono (fun _ hm => ⟨hm, rfl⟩) rfl
  | @claims d k name gates hfind horigin hgates hmay =>
    refine h.grounded_put rfl (service_put (S.push name gates _) k · _) rfl ?_ hn
    rw [horigin]
    cases d <;> rfl
  | sleeps => exact h.grounded_put rfl (service_put S _ · _) rfl rfl hn
  | @concludes i t k entries state fault ending ht hconcludes =>
    obtain ⟨d, hjob, hlive, hresult⟩ := hconcludes.direction
    have hvia := (horderly.owned.held i t d k ht hjob hlive).1
    have hservice := (service_put S k · (((S.service k).recordAll entries).settle state fault))
    rcases hresult with ⟨-, rfl, hfree, hready⟩ | ⟨-, rfl⟩
    · cases d with
      | up =>
        -- its references were enabled when it was at the hook
        exact h.grounded_rise rfl hservice rfl rfl ((hready rfl).elim id (h.ready i t k ht)) hn
      | down =>
        refine h.grounded_fall rfl hservice rfl (fun m hmk href => ?_) hn
        obtain ⟨y, hy, hk⟩ := href
        have hid := (horderly.named.own y k hk).1
        rw [h.yielded horderly.gated ht hjob hfree hmk (hid.symm ▸ hy)]
        rfl
    · refine h.grounded_put rfl hservice rfl ?_ hn
      cases d <;> rw [hvia] <;> rfl

/-- As long as a service is not down, what takes it down has not completed. -/
theorem not_completed_of_up (change : Change S cause S') (hstate : (S'.service m).state ≠ .disabled)
    (ht : S.task? j = some t) (hjob : t.job = some (Direction.down.job m))
    (hopen : ¬ S.Completed j) : ¬ S'.Completed j := by
  intro hdone
  rcases completed_back change hdone with hdone | ⟨u, hu, -, hgoal⟩
  · exact hopen hdone
  · obtain rfl : t = u := Option.some.inj (ht.symm.trans hu)
    rw [hjob] at hgoal
    rcases hgoal with ⟨k, hk, -⟩ | ⟨d, k, hk, hgoal⟩
    · exact absurd (Option.some.inj hk) Direction.job_ne_confirm
    · obtain ⟨rfl, rfl⟩ := Direction.job_inj.mp (Option.some.inj hk)
      exact hstate hgoal

/-- Services go on yielding to those that refer to them. -/
theorem Supported.yielding_step (h : Supported S) (horderly : Orderly S)
    (change : Change S cause S') (ht : S'.task? i = some t) (hjob : t.job = some (Direction.down.job n))
    (hlive : t.stage.isLive = true) (hne : m ≠ n)
    (href : (S'.service n).id ∈ (S'.service m).references)
    (hstate : (S'.service m).state ≠ .disabled) :
    ∃ j u, S'.Behind i j ∧ S'.task? j = some u ∧ u.job = some (Direction.down.job m) ∧
      ¬ S'.Completed j := by
  have hvia' := ((horderly.step change).owned.held i t .down n ht hjob hlive).1
  obtain ⟨hid, -, -⟩ := horderly.kept change (m := n) (by simp [hvia', Direction.via])
  obtain ⟨-, hproperties, hrisen⟩ := horderly.kept change hstate
  rw [hid, Service.references, hproperties] at href
  have hcarry : ∀ {j u}, S'.Behind i j → S.task? j = some u →
      u.job = some (Direction.down.job m) → ¬ S.Completed j →
      ∃ j u, S'.Behind i j ∧ S'.task? j = some u ∧ u.job = some (Direction.down.job m) ∧
        ¬ S'.Completed j := by
    intro j u hbehind hu hujob hnot
    obtain ⟨stage, hu', -⟩ := (horderly.gated.continues change j).task hu
    exact ⟨j, _, hbehind, hu', hujob, not_completed_of_up change hstate hu hujob hnot⟩
  rcases horderly.gated.news change ht with hold | hnew
  · obtain ⟨t₀, ht₀, hjob₀, hlive₀⟩ := hold
    rw [hjob] at hjob₀
    have hvia := (horderly.owned.held i t₀ .down n ht₀ hjob₀.symm (hlive₀ hlive)).1
    by_cases hdisabled : (S.service m).state = .disabled
    · -- `m` was claimed just now, although `n` is going down
      obtain ⟨hfind, hup⟩ := hrisen hdisabled
      have hhoused := horderly.named.housed n (by simp [hvia, Direction.via])
      have hneid : (S.service n).id ≠ (S.service m).id :=
        fun heq => hne (horderly.named.eq_of_id hfind hhoused heq.symm)
      refine absurd ?_ (hup _ href hneid)
      exact Option.map_eq_some_iff.mpr ⟨n, hhoused, hvia⟩
    · obtain ⟨j, u, hbehind, hu, hujob, hnot⟩ :=
        h.yielding i t₀ n ht₀ hjob₀.symm (hlive₀ hlive) m hne href hdisabled
      exact hcarry (horderly.gated.behind change hbehind) hu hujob hnot
  · rcases hnew with ⟨k, hconfirm⟩ | ⟨d, k, name, gates, rfl, rfl, rfl, hfind, horigin, hmay⟩
    · rw [hjob] at hconfirm
      exact absurd (Option.some.inj hconfirm) Direction.job_ne_confirm
    · obtain ⟨rfl, rfl⟩ := Direction.job_inj.mp (Option.some.inj hjob.symm)
      -- `n` was claimed just now, behind `m` if `m` was not down
      have hservice : (S.claimed n Direction.down.via name gates (Direction.down.job n)).service m =
          S.service m := (service_put (S.push name gates _) n m _).trans (if_neg hne)
      have hfindm : S.find? (S.service m).id = some m :=
        horderly.named.housed m (by rwa [hservice] at hstate)
      rcases hmay.2 _ m hfindm hne href with hdisabled | ⟨hvia, j, htransition, g, hg, hreach⟩
      · rw [hservice] at hstate
        exact absurd hdisabled hstate
      · obtain ⟨j', u, htransition', hu, hujob, -⟩ := horderly.owned.holds m .down hvia
        obtain rfl : j = j' := Option.some.inj (htransition.symm.trans htransition')
        refine hcarry ?_ hu hujob (horderly.owned.not_completed (d := .down) hvia htransition)
        exact .head' ⟨_, ht, hg⟩ (ReflTransGen.mono
          (fun a _ hgate => (horderly.gated.continues change a).gate hgate) _ _ hreach)

/-- A task is at an activation hook only if its service was ready when it was called. -/
theorem Supported.ready_before (h : Supported S) (change : Change S cause S')
    (ht : S'.task? i = some t) (hactivates : Activates t n) : S.Ready n := by
  obtain ⟨wake, run, hstage, hservice, hpurpose⟩ := hactivates
  have hbefore : S.task? i = some t → S.Ready n :=
    fun ht => h.ready i t n ht ⟨wake, run, hstage, hservice, hpurpose⟩
  -- of all changes only a sleep puts a task at a hook
  have hstand : ∀ {k : TaskId} {u : Task Job HookRun} {stage : Stage HookRun} {T : Scene},
      T.task? = S.task? → (∀ wake run, stage ≠ .running wake run) →
      (T.stand k u stage).task? i = some t → S.Ready n := by
    intro k u stage T htask hnot ht
    rw [task?_stand] at ht
    split at ht
    · obtain rfl := Option.some.inj ht
      exact absurd hstage (hnot wake run)
    · exact hbefore (htask ▸ ht)
  have hpush : ∀ {name : String} {gates : List TaskId} {job : Job},
      (S.push name gates job).task? i = some t → S.Ready n := by
    intro name gates job ht
    rw [task?_push] at ht
    split at ht
    · obtain rfl := Option.some.inj ht
      exact absurd hstage ((newcomer_idle S name gates job).1 wake run)
    · exact hbefore ht
  cases change with
  | appears | edits | removes | blames | shuts | stops => exact hbefore ht
  | claims d name => exact hpush ht
  | joins => exact hpush ht
  | advances _ hadvances =>
    exact hstand rfl (fun wake run heq => by subst heq; cases hadvances) ht
  | @sleeps j u k purpose before after time wake' run' hu hcalled hooked =>
    rw [task?_stand] at ht
    split at ht
    · obtain rfl := Option.some.inj ht
      obtain ⟨-, rfl⟩ := Stage.running.inj hstage
      obtain rfl := hooked.activation hpurpose
      obtain rfl : k = n := hooked.run.1.symm.trans hservice
      exact hcalled.ready.elim id (h.ready j u k hu)
    · exact hbefore ht
  | concludes => exact hstand rfl (fun _ _ => by simp) ht
  | confirms | denies | drops => exact hstand rfl (fun _ _ => by simp) ht

/-- Every change leaves what is up standing on what is up. -/
theorem Supported.step (h : Supported S) (horderly : Orderly S) (change : Change S cause S') :
    Supported S' where
  grounded := fun _ hn => h.grounded_step horderly change hn
  yielding := fun _ _ _ ht hjob hlive _ hne href hstate =>
    h.yielding_step horderly change ht hjob hlive hne href hstate
  ready := by
    intro i t n ht hactivates
    have hready := h.ready_before change ht hactivates
    obtain ⟨wake, run, hstage, rfl, hpurpose⟩ := hactivates
    have hjob := (horderly.step change).owned.matched i t wake run ht hstage
    rw [hpurpose] at hjob
    rcases horderly.gated.news change ht with ⟨t₀, ht₀, hjob₀, hlive⟩ | ⟨k, hconfirm⟩ | hclaim
    · have hlive₀ := hlive (by rw [hstage]; rfl)
      have hvia := (horderly.owned.held i t₀ .up run.service ht₀ (hjob₀ ▸ hjob) hlive₀).1
      exact horderly.ready_step change hvia hready
    · rw [hjob] at hconfirm
      exact absurd (Option.some.inj hconfirm) Direction.job_ne_confirm
    · obtain ⟨d, k, name, gates, -, rfl, -⟩ := hclaim
      exact absurd hstage ((newcomer_idle S name gates _).1 wake run)

end Scene

/-- A service refers to another, which is registered. -/
def Provider.Refers (p : Provider) (n m : Incarnation) : Prop :=
  ∃ y ∈ (p.service n).references, p.registry.find? y = some m

instance (p : Provider) (n m : Incarnation) : Decidable (p.Refers n m) :=
  inferInstanceAs (Decidable (∃ y ∈ (p.service n).references, p.registry.find? y = some m))

theorem Provider.refers_scene (p : Provider) : p.scene.Refers = p.Refers := rfl

end ServiceLifecycle

import ServiceLifecycle.Proofs.Interruption
import ServiceLifecycle.Proofs.Works

/-!
# Services that carry a refusal

A service that is to be enabled as soon as it is created stays down if that is refused, and the
refusal is recorded as its fault until its next transition starts. But it is registered by then,
and others may get in and enable it. So it may be on its way up when the refusal is recorded, and
it carries the refusal all the way up and as long as it is up.

* **tasks** — no task makes an active service carry a refusal (`Registry.Chores.carries`);
* **works** — nor does any single thing that is done in the course of a request
  (`Provider.Work.carries`);
* **requests** — a request does where others were faster (`Provider.Overtaken`,
  `Provider.overtaken_of_perform`), and only after an ambush was laid
  (`Provider.Overtaken.ambushes`);
* **runs** — there is no other way in any run (`Setup.refusal_overtaken`), and no way where nobody
  lays an ambush (`Setup.not_carries_of_unarmed`).
-/

namespace ServiceLifecycle

open Relation

/-- The service is up, or on its way up, and its fault is a refusal. -/
structure Service.Carries (s : Service) (message : String) : Prop where
  active : s.state.isActive = true
  fault : s.fault = some ⟨.rejected, message⟩

/-- It depends on nothing else. -/
theorem Service.Carries.of_eq {s s' : Service} {message : String} (h : s'.Carries message)
    (hstate : s'.state = s.state) (hfault : s'.fault = s.fault) : s.Carries message :=
  ⟨hstate ▸ h.active, hfault ▸ h.fault⟩

/-! ## Tasks -/

/-- Whoever is active at the end of a transition has arrived, and with the fault it had. -/
theorem Direction.Ends.carries {d : Direction} {target : ServiceState} {fault : Option Fault}
    (h : d.Ends target fault) {s : Service} {message : String} (hstate : s.state = d.via)
    (hcarries : Service.Carries
      { s.publish target with transition := none, fault := fault.or s.fault } message) :
    s.Carries message := by
  obtain ⟨hactive, hfault⟩ := hcarries
  cases h with
  | arrives hnot =>
    cases fault with
    | none =>
      cases d with
      | up => exact ⟨by rw [hstate]; rfl, hfault⟩
      | down => cases hactive
    | some f =>
      obtain rfl : f = ⟨.rejected, message⟩ := Option.some.inj hfault
      exact absurd rfl (hnot _ rfl)
  | @returns f hnot =>
    obtain rfl : f = ⟨.rejected, message⟩ := Option.some.inj hfault
    exact absurd rfl hnot

namespace Registry

variable {r r' : Registry} {n : Incarnation} {message : String}

theorem Chore.carries (h : Chore r r') (hcarries : (r'.service n).Carries message) :
    (r.service n).Carries message := by
  cases h with
  | calm hservices =>
    have hservice : r'.service n = r.service n :=
      congrArg (fun services : Array Service => (services[n]?).getD default) hservices
    exact hservice ▸ hcarries
  | records m e =>
    rw [service_modify_eq] at hcarries
    split at hcarries
    · exact hcarries.of_eq rfl rfl
    · exact hcarries
  | completes m d hends =>
    unfold complete at hcarries
    dsimp only at hcarries
    split at hcarries
    · next hstate =>
      dsimp only at hcarries
      rw [service_modify_eq] at hcarries
      split at hcarries
      · next hn =>
        obtain ⟨rfl, -⟩ := hn
        exact hends.carries hstate hcarries
      · exact hcarries
    · exact hcarries

/-- Whoever carries a refusal after tasks have moved carried it before. -/
theorem Chores.carries (h : Chores r r') (hcarries : (r'.service n).Carries message) :
    (r.service n).Carries message := by
  induction h with
  | refl => exact hcarries
  | tail _ hchore ih => exact ih (hchore.carries hcarries)

end Registry

namespace Provider

variable {between : Interference} {p p' q r : Provider} {n : Incarnation} {message : String}

/-! ## Works -/

theorem Deed.carries (h : Deed between p p') (hnot : ¬ (p.service n).Carries message)
    (hcarries : (p'.service n).Carries message) : ∃ probe, p' = between probe p := by
  cases h with
  | calm halike => exact absurd (service_of_services halike.services n ▸ hcarries) hnot
  | submits | shuts | opens => exact absurd hcarries hnot
  | yields probe => exact ⟨probe, rfl⟩
  | departs d m =>
    rw [service_modify] at hcarries
    split at hcarries
    · -- a transition starts without a fault
      cases hcarries.fault
    · exact absurd hcarries hnot
  | assigns m i =>
    rw [service_modify] at hcarries
    split at hcarries
    · have hbefore : (p.service n).Carries message := hcarries.of_eq rfl rfl
      exact absurd hbefore hnot
    · exact absurd hcarries hnot

theorem Work.carries (h : Work between p p') (hnot : ¬ (p.service n).Carries message)
    (hcarries : (p'.service n).Carries message) : ∃ probe, p' = between probe p := by
  cases h with
  | deed hdeed => exact hdeed.carries hnot hcarries
  | edit hedit =>
    rcases hedit.tends with hyields | htends
    · exact hyields
    · exact absurd (hcarries.of_eq (htends.state n) (htends.fault n)) hnot

/-- Whoever is blamed for it carries a refusal if it is active; of others nothing changes. -/
theorem carries_blame {m : Incarnation} {message' : String}
    (hcarries : ((p.blame m message').service n).Carries message)
    (hnot : ¬ (p.service n).Carries message) :
    n = m ∧ message = message' ∧ (p.service n).state.isActive = true := by
  unfold blame at hcarries
  rw [service_modify] at hcarries
  split at hcarries
  · next hn =>
    have hfault := Option.some.inj hcarries.fault
    exact ⟨hn.1, (Fault.mk.inj hfault).2.symm, hcarries.active⟩
  · exact absurd hcarries hnot

/-! ## Requests -/

/-- In the course of a request a service comes to carry a refusal. Others who get in may interrupt
each other `depth` deep. -/
inductive Overtaken (n : Incarnation) (message : String) : Nat → Provider → Request → Prop
  /-- The service is created and is to be enabled at once. Before that comes to anything others get
  in and enable it. The request to enable it is refused then, and the service is blamed. -/
  | created {depth : Nat} {p q r : Provider} {typeName : String} {id : ServiceId} {probe : Probe} :
      n = p.registry.services.size → Edits (interferenceWithin depth) p q →
      (q.service n).state.isActive = false →
      ((interferenceWithin depth probe q).service n).state.isActive = true →
      Works (interferenceWithin depth) (interferenceWithin depth probe q) r →
      (p.perform (interferenceWithin depth) (.create typeName id true)).2 = r.blame n message →
      Overtaken n message depth p (.create typeName id true)
  /-- That happens in the course of a request that others make when they get in. -/
  | nested {depth : Nat} {p q r : Provider} {outer inner : Request} {probe : Probe} {a : Ambush}
      {before after : List Request} :
      Works (interferenceWithin (depth + 1)) p q →
      q.ambushes.find? (fun a => a.probe = probe) = some a → a.requests = before ++ inner :: after →
      Overtaken n message depth (performOverheard (interferenceWithin depth) before
        { q with ambushes := q.ambushes.filter fun b => b.probe ≠ probe }) inner →
      Works (interferenceWithin (depth + 1)) (interferenceWithin (depth + 1) probe q) r →
      Blames r (p.perform (interferenceWithin (depth + 1)) outer).2 →
      Overtaken n message (depth + 1) p outer

/-- What is so after several requests of others and was not so before became so with one of them. -/
theorem switch_performOverheard {P : Provider → Prop}
    (hoverheard : ∀ p overheard, P { p with overheard } → P p) (requests : List Request)
    (hp : ¬ P p) (hp' : P (performOverheard between requests p)) :
    ∃ before inner after, requests = before ++ inner :: after ∧
      ¬ P (performOverheard between before p) ∧
      P ((performOverheard between before p).perform between inner).2 := by
  induction requests using List.reverseRecOn with
  | nil => exact absurd hp' hp
  | append_singleton requests q ih =>
    by_cases hbefore : P (performOverheard between requests p)
    · obtain ⟨before, inner, after, rfl, hnot, hinner⟩ := ih hbefore
      exact ⟨before, inner, after ++ [q], by simp, hnot, hinner⟩
    · refine ⟨requests, q, [], rfl, hbefore, ?_⟩
      unfold performOverheard at hp' ⊢
      rw [List.foldl_append] at hp'
      exact hoverheard _ _ hp'

section Depth

variable {depth : Nat}

/-- If the requests of others make a service carry a refusal only by overtaking it, then a request
that consists of works and of what others do makes it carry one only in this way. -/
theorem overtaken_of_works
    (hinner : ∀ d, depth = d + 1 → ∀ (p : Provider) (q : Request),
      ¬ (p.service n).Carries message →
      ((p.perform (interferenceWithin d) q).2.service n).Carries message →
      Overtaken n message d p q)
    {outer : Request} (hworks : Works (interferenceWithin depth) p r)
    (hblames : Blames r (p.perform (interferenceWithin depth) outer).2)
    (hnot : ¬ (p.service n).Carries message) (hcarries : (r.service n).Carries message) :
    Overtaken n message depth p outer := by
  obtain ⟨probe, q, hbefore, hq, hq', hafter⟩ :=
    switch (P := fun s => (s.service n).Carries message) (fun _ _ h => h.carries) hworks hnot
      hcarries
  cases depth with
  | zero => exact absurd hq' hq
  | succ depth =>
    have hothers := hq'
    unfold interferenceWithin at hothers
    split at hothers
    · exact absurd hothers hq
    · next a ha =>
      let s : Provider := { q with ambushes := q.ambushes.filter fun b => b.probe ≠ probe }
      have hs : ¬ (s.service n).Carries message := hq
      obtain ⟨before, inner, after, hrequests, hbefore', hinner'⟩ :=
        switch_performOverheard (P := fun s => (s.service n).Carries message)
          (fun _ _ h => h) a.requests hs hothers
      have hovertaken := hinner depth rfl
        (performOverheard (interferenceWithin depth) before s) inner hbefore' hinner'
      exact .nested hbefore ha hrequests hovertaken hafter hblames

/-- As long as a new service is edited it is known by its name, whoever gets in. -/
theorem id_of_edits {typeName : String} {id : ServiceId} {made : Implementation}
    (h : Edits (interferenceWithin depth) (p.instantiate made typeName id).2 q) :
    (q.service p.registry.services.size).id = id := by
  have hsteady := (Edits.works h).steady (steady_interferenceWithin depth)
  have hlt : p.registry.services.size <
      (p.instantiate made typeName id).2.registry.services.size := by
    rw [size_instantiate]
    exact Nat.lt_succ_self _
  rw [hsteady.id _ hlt, service_instantiate, if_pos rfl]

/-- An edit does not enable a service by itself. -/
theorem Edit.active (h : Edit between p p') (hdown : ¬ (p.service n).state.isActive = true)
    (hactive : (p'.service n).state.isActive = true) : ∃ probe, p' = between probe p := by
  rcases h.tends with hyields | htends
  · exact hyields
  · exact absurd (htends.state n ▸ hactive) hdown

/-- A service that is created and blamed, and that is active all the same, has been overtaken. -/
theorem overtaken_of_refused {typeName : String} {id : ServiceId} {made : Implementation}
    {e : RequestError}
    (hedits : Edits (interferenceWithin depth) (p.instantiate made typeName id).2 q)
    (henable : q.enable (interferenceWithin depth) id = (.error e, r))
    (hactive : (r.service p.registry.services.size).state.isActive = true)
    (hperform : (p.perform (interferenceWithin depth) (.create typeName id true)).2 =
      (r.say (refusalRemark id e)).blame p.registry.services.size e.message) :
    Overtaken p.registry.services.size e.message depth p (.create typeName id true) := by
  let n := p.registry.services.size
  let I := Edits (interferenceWithin depth) (p.instantiate made typeName id).2
  -- when the check was over it was active already
  obtain ⟨s, hs, hservice, hrest⟩ := service_of_refused (n := n) (I := I) Edits.yield hedits
    (fun _ hs => id_of_edits hs) henable
  have hs' : (s.service n).state.isActive = true := hservice ▸ hactive
  have hdown : ¬ (p.service n).state.isActive = true := by
    rw [service_size]
    exact Bool.false_ne_true
  have hpath : Edits (interferenceWithin depth) p s :=
    .head (.makes made typeName id) hs
  obtain ⟨probe, t, hbefore, ht, ht', hafter⟩ :=
    switch (P := fun s => (s.service n).state.isActive = true) (fun _ _ h => h.active) hpath hdown
      hs'
  -- what is left of the request is the submission of a branch at most
  have hsubmitted : Works (interferenceWithin depth) s r := by
    rcases hrest with rfl | ⟨walk, rfl⟩
    · exact .refl
    · exact (deeds_submitBranch walk.branch [] .empty (Deeds.sayAll .refl _)).works
  have hlater : Works (interferenceWithin depth) (interferenceWithin depth probe t) r :=
    (Edits.works hafter).trans hsubmitted
  exact .created rfl hbefore (Bool.not_eq_true _ ▸ ht) ht' (hlater.say _) hperform

end Depth

/-- If a service carries a refusal after a request and did not before, it was overtaken. -/
theorem overtaken_of_perform (depth : Nat) (p : Provider) (q : Request)
    (hnot : ¬ (p.service n).Carries message)
    (hcarries : ((p.perform (interferenceWithin depth) q).2.service n).Carries message) :
    Overtaken n message depth p q := by
  -- by induction on the depth: what others do is a series of requests of smaller depth
  induction depth using Nat.strongRecOn generalizing p q with
  | _ depth ih =>
    have hinner : ∀ d, depth = d + 1 → ∀ (p : Provider) (q : Request),
        ¬ (p.service n).Carries message →
        ((p.perform (interferenceWithin d) q).2.service n).Carries message →
        Overtaken n message d p q := fun d hd => ih d (by omega)
    have hfulfils := fulfils_perform (interferenceWithin depth) q p
    generalize hp' : (p.perform (interferenceWithin depth) q).2 = p' at hfulfils hcarries
    cases hfulfils with
    | works hworks => exact overtaken_of_works hinner hworks (hp' ▸ .nobody) hnot hcarries
    | tends htends =>
      exact absurd (hcarries.of_eq (htends.state n) (htends.fault n)) hnot
    | @creates _ id _ _ hcreates =>
      cases hcreates with
      | works hworks => exact overtaken_of_works hinner hworks (hp' ▸ .nobody) hnot hcarries
      | @blames made s r e hedits henable =>
        have hworks : Works (interferenceWithin depth) p r := works_refused hedits henable
        by_cases hr : ((r.say (refusalRemark id e)).service n).Carries message
        · exact overtaken_of_works hinner (hworks.say _) (hp' ▸ .somebody _ _) hnot hr
        · obtain ⟨rfl, rfl, hactive⟩ := carries_blame hcarries hr
          exact overtaken_of_refused hedits henable hactive hp'
    | arms => exact absurd hcarries hnot

/-! ## Ambushes -/

/-- Where no ambush is laid others do nothing. -/
theorem interferenceWithin_of_nil (h : p.ambushes = []) (depth : Nat) (probe : Probe) :
    interferenceWithin depth probe p = p := by
  cases depth with
  | zero => rfl
  | succ depth =>
    unfold interferenceWithin
    rw [h]
    rfl

section Depth

variable {depth : Nat}

/-- No ambush is laid in the course of a request. -/
theorem Work.ambushes (h : Work (interferenceWithin depth) p p') (hp : p.ambushes = []) :
    p'.ambushes = [] := by
  cases h with
  | deed hdeed =>
    cases hdeed with
    | calm halike => exact halike.ambushes.trans hp
    | yields probe => rwa [interferenceWithin_of_nil hp]
    | submits | shuts | opens | departs | assigns => exact hp
  | edit hedit =>
    rcases hedit.tends with ⟨probe, rfl⟩ | htends
    · rwa [interferenceWithin_of_nil hp]
    · exact htends.ambushes.trans hp

theorem Works.ambushes (h : Works (interferenceWithin depth) p p') (hp : p.ambushes = []) :
    p'.ambushes = [] := by
  induction h with
  | refl => exact hp
  | tail _ hwork ih => exact hwork.ambushes ih

theorem ambushes_perform {q : Request} (harm : ∀ probe requests, q ≠ .arm probe requests)
    (hp : p.ambushes = []) : (p.perform (interferenceWithin depth) q).2.ambushes = [] := by
  have hfulfils := fulfils_perform (interferenceWithin depth) q p
  generalize (p.perform (interferenceWithin depth) q).2 = p' at hfulfils
  cases hfulfils with
  | works hworks => exact Works.ambushes hworks hp
  | tends htends => exact htends.ambushes.trans hp
  | creates hcreates =>
    obtain ⟨r, hworks, hblames⟩ := hcreates.works_blames
    have hr : r.ambushes = [] := Works.ambushes hworks hp
    cases hblames <;> exact hr
  | arms probe requests => exact absurd rfl (harm probe requests)

/-- Nobody is overtaken unless an ambush was laid before. -/
theorem Overtaken.ambushes {q : Request} (h : Overtaken n message depth p q) : p.ambushes ≠ [] := by
  intro hp
  cases h with
  | created _ hedits hdown hactive =>
    rw [interferenceWithin_of_nil (Works.ambushes (Edits.works hedits) hp), hdown] at hactive
    cases hactive
  | nested hworks hfind =>
    rw [Works.ambushes hworks hp] at hfind
    cases hfind

end Depth

/-! ## Runs -/

/-- The last event of a run is a request, which others may interrupt, or a step like any other. -/
theorem served_concat (p : Provider) (events : List Event) (e : Event) :
    (∃ q, e = .request q ∧ p.served (events ++ [e]) = ((p.served events).serve q).2) ∨
      (∀ q, e ≠ .request q) ∧ p.served (events ++ [e]) = (p.served events).step e := by
  unfold served
  rw [List.foldl_append]
  cases e with
  | request q => exact .inl ⟨q, rfl, rfl⟩
  | move | pass | stop | tear => exact .inr ⟨by simp, rfl⟩

/-- Only a request has to do with ambushes. -/
theorem ambushes_step {e : Event} (he : ∀ q, e ≠ .request q) (p : Provider) :
    (p.step e).ambushes = p.ambushes := by
  cases e with
  | request q => exact absurd rfl (he q)
  | move i =>
    unfold step
    dsimp only
    cases Scheduler.move Registry.workload i p.tasks p.registry <;> rfl
  | pass | stop => rfl
  | tear i =>
    unfold step
    dsimp only
    split <;> rfl

/-- Whoever carries a refusal after a task has moved, or was torn down, or time has passed,
carried it before. -/
theorem carries_of_step {e : Event} (he : ∀ q, e ≠ .request q)
    (hcarries : ((p.step e).service n).Carries message) : (p.service n).Carries message := by
  have hchores := Registry.maintains_chores p.registry
  cases e with
  | request q => exact absurd rfl (he q)
  | move i =>
    unfold step at hcarries
    dsimp only at hcarries
    cases hmove : Scheduler.move Registry.workload i p.tasks p.registry with
    | none =>
      rw [hmove] at hcarries
      exact hcarries
    | some parts =>
      rw [hmove] at hcarries
      obtain ⟨hmoves, -⟩ := Scheduler.moves_of_move hmove
      exact (hmoves.maintained hchores .refl).carries hcarries
  | pass | stop => exact hcarries
  | tear i =>
    unfold step at hcarries
    dsimp only at hcarries
    split at hcarries
    · exact hcarries
    · obtain ⟨htorn, -⟩ := Scheduler.torn_of_tear Registry.workload i p.tasks p.registry
      exact (htorn.maintained hchores .refl).carries hcarries

end Provider

namespace Setup

/-- As long as nobody lays an ambush, no active service carries a refusal. -/
theorem not_carries_of_unarmed (setup : Setup) (events : List Event)
    (hunarmed : ∀ probe requests, .request (.arm probe requests) ∉ events) (n : Incarnation)
    (message : String) : ¬ ((setup.provider.served events).service n).Carries message := by
  suffices h : (setup.provider.served events).ambushes = [] ∧
      ¬ ((setup.provider.served events).service n).Carries message from h.2
  induction events using List.reverseRecOn with
  | nil => exact ⟨rfl, fun hcarries => by cases hcarries.fault⟩
  | append_singleton events e ih =>
    obtain ⟨hnone, hnot⟩ := ih fun probe requests hin =>
      hunarmed probe requests (List.mem_append_left _ hin)
    rcases Provider.served_concat setup.provider events e with ⟨q, rfl, hserved⟩ | ⟨he, hserved⟩
    · rw [hserved]
      have harm : ∀ probe requests, q ≠ .arm probe requests := by
        rintro probe requests rfl
        exact hunarmed probe requests (by simp)
      refine ⟨Provider.ambushes_perform harm hnone, fun hcarries => ?_⟩
      exact (Provider.overtaken_of_perform _ _ q hnot hcarries).ambushes hnone
    · rw [hserved]
      exact ⟨(Provider.ambushes_step he _).trans hnone,
        fun hcarries => hnot (Provider.carries_of_step he hcarries)⟩

/-- Whoever carries a refusal, in whatever run, has been overtaken in the course of a request, and
has carried it ever since. -/
theorem refusal_overtaken (setup : Setup) (events : List Event) (n : Incarnation)
    (message : String) (hactive : ((setup.provider.served events).service n).state.isActive = true)
    (hfault : ((setup.provider.served events).service n).fault = some ⟨.rejected, message⟩) :
    ∃ before q after, events = before ++ .request q :: after ∧
      Provider.Overtaken n message ((setup.provider.served before).ambushCount + q.arms)
        (setup.provider.served before) q ∧
      ∀ seen, seen <+: after →
        ((setup.provider.served (before ++ .request q :: seen)).service n).Carries message := by
  have hcarries : ((setup.provider.served events).service n).Carries message := ⟨hactive, hfault⟩
  clear hactive hfault
  induction events using List.reverseRecOn with
  | nil => cases hcarries.fault
  | append_singleton events e ih =>
    by_cases hbefore : ((setup.provider.served events).service n).Carries message
    · obtain ⟨before, q, after, rfl, hovertaken, hsince⟩ := ih hbefore
      refine ⟨before, q, after ++ [e], by simp, hovertaken, fun seen hseen => ?_⟩
      rcases List.prefix_concat_iff.mp hseen with rfl | hseen
      · simpa using hcarries
      · exact hsince seen hseen
    · rcases Provider.served_concat setup.provider events e with ⟨q, rfl, hserved⟩ | ⟨he, hserved⟩
      · have hovertaken := Provider.overtaken_of_perform _ _ q hbefore (hserved ▸ hcarries)
        refine ⟨events, q, [], rfl, hovertaken, fun seen hseen => ?_⟩
        obtain rfl := List.prefix_nil.mp hseen
        exact hcarries
      · rw [hserved] at hcarries
        exact absurd (Provider.carries_of_step he hcarries) hbefore

/-- Others get in whenever the validator is consulted. -/
def observed : Setup := { mock with isValidatorObserved := true }

/-- A service is created and is to be enabled at once. The first time the validator is consulted it
is only registered; the second time it is about to be enabled, and somebody else is faster. -/
def hastyRun : List Event :=
  [.request (.arm (.validation ⟨"a"⟩) [.arm (.validation ⟨"a"⟩) [.enable ⟨"a"⟩]]),
    .request (.create "mock.Passthrough" ⟨"a"⟩ true)]

/-- It carries the refusal on its way up and when it is up. -/
theorem refusal_carried :
    let message := "controller service a: another caller started enabling the service"
    let p := observed.provider.served (hastyRun ++ Event.rounds 2 4)
    (p.service 0).state = .enabled ∧ (p.service 0).fault = some ⟨.rejected, message⟩ ∧
      ∃ before q after, hastyRun ++ Event.rounds 2 4 = before ++ .request q :: after ∧
        Provider.Overtaken 0 message ((observed.provider.served before).ambushCount + q.arms)
          (observed.provider.served before) q ∧
        ∀ seen, seen <+: after →
          ((observed.provider.served (before ++ .request q :: seen)).service 0).Carries message := by
  intro message p
  have hstate : (p.service 0).state = .enabled := by decide +kernel
  have hfault : (p.service 0).fault = some ⟨.rejected, message⟩ := by decide +kernel
  exact ⟨hstate, hfault,
    refusal_overtaken observed (hastyRun ++ Event.rounds 2 4) 0 message (hstate ▸ rfl) hfault⟩

/-- So a service that is active may carry a refusal. -/
theorem refusal_outlived :
    ¬ ∀ (setup : Setup) (events : List Event) (n : Incarnation),
      ((setup.provider.served events).service n).state.isActive = true →
      ∀ f ∈ ((setup.provider.served events).service n).fault, f.kind ≠ .rejected := by
  intro h
  have hkind := h observed hastyRun 0 (by decide +kernel)
    ⟨.rejected, "controller service a: another caller started enabling the service"⟩
    (by decide +kernel)
  exact hkind rfl

end Setup

end ServiceLifecycle

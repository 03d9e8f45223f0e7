import Mathlib.Data.Nat.Find
import Mathlib.Order.Bounds.Defs
import ServiceLifecycle.Proofs.Amendments
import ServiceLifecycle.Proofs.Discovery

/-!
# How far away referrers are

A breadth-first discovery finds what can be reached, and the nearer the earlier. Along the record
of references it finds the services from which references lead to a name, whoever bears the
name and whether or not anybody does.

* **steps** — how many steps it takes from one to the other (`Graph.Steps`);
* **levels** — what has been found is sorted by its distance from the start, and what waits in the
  queue is at most one step farther away than the first there (`Graph.Levelled`); every turn
  keeps this (`Graph.Levelled.turn`), and so does the whole discovery
  (`Graph.Discovers.levelled`);
* **referrers** — what is found along the record of references, and in which order
  (`Setup.recursiveReferrers_exact`).
-/

namespace ServiceLifecycle

namespace Graph

/-! ## Steps -/

section Steps

variable {α : Type} {R : α → α → Prop} {a b c x y : α} {n m : Nat}

/-- It takes so many steps from one to the other. -/
inductive Steps (R : α → α → Prop) : Nat → α → α → Prop
  | refl (a : α) : Steps R 0 a a
  | tail {n : Nat} {a b c : α} : Steps R n a b → R b c → Steps R (n + 1) a c

theorem Steps.head (hab : R a b) (h : Steps R n b c) : Steps R (n + 1) a c := by
  induction h with
  | refl => exact .tail (.refl a) hab
  | tail _ hlast ih => exact (ih hab).tail hlast

theorem Steps.reverse (h : Steps R n a b) : Steps (fun x y => R y x) n b a := by
  induction h with
  | refl => exact .refl _
  | tail _ hlast ih => exact .head hlast ih

/-- It takes at most so many steps from one to the other. -/
def Within (R : α → α → Prop) (n : Nat) (a b : α) : Prop := ∃ m ≤ n, Steps R m a b

theorem Steps.within (h : Steps R m a b) (hle : m ≤ n) : Within R n a b := ⟨m, hle, h⟩

theorem Within.mono (h : Within R n a b) (hle : n ≤ m) : Within R m a b := by
  obtain ⟨k, hk, hsteps⟩ := h
  exact ⟨k, Nat.le_trans hk hle, hsteps⟩

/-- From `a` it is no farther to `x` than to `y`. -/
def NoFarther (R : α → α → Prop) (a x y : α) : Prop := ∀ n, Steps R n a y → Within R n a x

/-- What can be reached can be reached in a least number of steps. -/
theorem Steps.exists_least (h : Steps R n a b) : ∃ d, IsLeast {n | Steps R n a b} d := by
  classical
  exact ⟨Nat.find ⟨n, h⟩, Nat.find_spec ⟨n, h⟩, fun _ hm => Nat.find_min' ⟨n, h⟩ hm⟩

end Steps

/-! ## Levels -/

/-- The second is a neighbour of the first. -/
abbrev Adjacent {κ : Type} (neighbours : κ → List κ) (k x : κ) : Prop := x ∈ neighbours k

variable {κ : Type} {neighbours : κ → List κ} {start k x y : κ}
  {done queue : List κ}

/-- What a discovery that began at `start` knows when the names `done` have had their turn and
those in `queue` have not. -/
structure Levelled (neighbours : κ → List κ) (start : κ) (done queue : List κ) : Prop where
  begins : start ∈ done ++ queue
  reached : ∀ x ∈ done ++ queue, ∃ n, Steps (Adjacent neighbours) n start x
  /-- The nearer ones were found first. -/
  sorted : (done ++ queue).Pairwise (NoFarther (Adjacent neighbours) start)
  /-- Nothing is more than one step farther away than what is next. -/
  narrow : ∀ k ∈ queue.head?, ∀ x ∈ done ++ queue, ∀ n,
    Steps (Adjacent neighbours) n start k →
      Within (Adjacent neighbours) (n + 1) start x
  closed : ∀ k ∈ done, ∀ x ∈ neighbours k, x ∈ done ++ queue

namespace Levelled

variable (h : Levelled neighbours start done (k :: queue))
include h

theorem noFarther_of_mem (hx : x ∈ k :: queue) :
    NoFarther (Adjacent neighbours) start k x := by
  rcases List.mem_cons.mp hx with rfl | hx
  · exact fun n hn => hn.within (Nat.le_refl n)
  · exact List.rel_of_pairwise_cons (List.pairwise_append.mp h.sorted).2.1 hx

/-- Whatever is as near as what is next has been found. -/
theorem found_of_near {d n : Nat}
    (hd : ∀ m, Steps (Adjacent neighbours) m start k → d ≤ m) (hn : n ≤ d)
    (hsteps : Steps (Adjacent neighbours) n start x) : x ∈ done ++ k :: queue := by
  induction hsteps with
  | refl => exact h.begins
  | @tail n a b c hab hbc ih =>
    rcases List.mem_append.mp (ih h hd (by omega)) with hb | hb
    · exact h.closed b hb c hbc
    · -- what waits in the queue is not so near
      obtain ⟨m, hm, hk⟩ := h.noFarther_of_mem hb n hab
      have := hd m hk
      omega

/-- What is found in a turn is one step farther away than the one whose turn it is. -/
theorem lt_of_new {d n : Nat}
    (hd : ∀ m, Steps (Adjacent neighbours) m start k → d ≤ m)
    (hx : x ∉ done ++ k :: queue) (hsteps : Steps (Adjacent neighbours) n start x) :
    d < n := by
  by_contra hle
  exact hx (h.found_of_near hd (Nat.le_of_not_lt hle) hsteps)

/-- Every turn keeps the order. -/
theorem turn {fresh : List κ}
    (hfresh : ∀ x, x ∈ fresh ↔ x ∈ neighbours k ∧ x ∉ done ++ k :: queue) :
    Levelled neighbours start (done ++ [k]) (queue ++ fresh) := by
  have hmem : ∀ x, x ∈ (done ++ [k]) ++ (queue ++ fresh) ↔ x ∈ done ++ k :: queue ∨ x ∈ fresh := by
    intro x
    simp only [List.mem_append, List.mem_cons, List.not_mem_nil, or_false]
    tauto
  have happend : (done ++ [k]) ++ (queue ++ fresh) = (done ++ k :: queue) ++ fresh := by simp
  have hk : k ∈ done ++ k :: queue := by simp
  obtain ⟨n, hn⟩ := h.reached k hk
  obtain ⟨d, hkd, hd⟩ := hn.exists_least
  have hd : ∀ m, Steps (Adjacent neighbours) m start k → d ≤ m := fun m hm => hd hm
  have hnew : ∀ x ∈ fresh, Steps (Adjacent neighbours) (d + 1) start x :=
    fun x hx => hkd.tail ((hfresh x).mp hx).1
  -- whatever has been found by now can be reached in one step more than the one whose turn it is
  have hreach : ∀ x ∈ (done ++ [k]) ++ (queue ++ fresh),
      Within (Adjacent neighbours) (d + 1) start x := by
    intro x hx
    rcases (hmem x).mp hx with hx | hx
    · exact h.narrow k rfl x hx d hkd
    · exact (hnew x hx).within (Nat.le_refl _)
  exact {
    begins := (hmem _).mpr (.inl h.begins)
    reached x hx := by
      obtain ⟨m, -, hm⟩ := hreach x hx
      exact ⟨m, hm⟩
    sorted := by
      rw [happend, List.pairwise_append]
      refine ⟨h.sorted, List.pairwise_of_forall_mem_list fun x hx y hy m hm => ?_,
        fun x hx y hy m hm => ?_⟩
      · exact (hnew x hx).within (h.lt_of_new hd ((hfresh y).mp hy).2 hm)
      · exact (h.narrow k rfl x hx d hkd).mono (h.lt_of_new hd ((hfresh y).mp hy).2 hm)
    narrow y hy x hx m hm := by
      have hdm : d ≤ m := by
        rcases List.mem_append.mp (List.mem_of_mem_head? hy) with hy | hy
        · obtain ⟨l, hl, hkl⟩ := h.noFarther_of_mem (List.mem_cons_of_mem _ hy) m hm
          exact Nat.le_trans (hd l hkl) hl
        · exact Nat.le_of_lt (h.lt_of_new hd ((hfresh y).mp hy).2 hm)
      exact (hreach x hx).mono (Nat.succ_le_succ hdm)
    closed y hy x hx := by
      rw [hmem]
      rcases List.mem_append.mp hy with hy | hy
      · exact .inl (h.closed y hy x hx)
      · obtain rfl := List.mem_singleton.mp hy
        by_cases hin : x ∈ done ++ y :: queue
        · exact .inl hin
        · exact .inr ((hfresh x).mpr ⟨hx, hin⟩) }

end Levelled

theorem levelled_start (neighbours : κ → List κ) (start : κ) :
    Levelled neighbours start [] [start] where
  begins := by simp
  reached := by
    intro x hx
    obtain rfl := List.mem_singleton.mp hx
    exact ⟨0, .refl x⟩
  sorted := List.pairwise_singleton _ _
  narrow := by
    intro k _ x hx n _
    obtain rfl := List.mem_singleton.mp hx
    exact ⟨0, Nat.zero_le _, .refl x⟩
  closed := by simp

/-- At the end of a discovery everything has had its turn. -/
theorem Discovers.levelled [DecidableEq κ] {found result : OrderedSet κ}
    (hdiscovers : Discovers neighbours queue found result)
    (h : Levelled neighbours start done queue) (hfound : found.toList = done ++ queue) :
    Levelled neighbours start result.toList [] := by
  induction hdiscovers generalizing done with
  | ends found =>
    rw [List.append_nil] at hfound
    exact hfound ▸ h
  | @turn k queue found result _ ih =>
    refine ih (h.turn fun x => ?_) (toList_found_turn hfound _)
    rw [mem_newcomers, hfound]

/-- What is found is what can be reached. -/
theorem Levelled.mem_iff (h : Levelled neighbours start done []) :
    x ∈ done ↔ ∃ n, Steps (Adjacent neighbours) n start x := by
  constructor
  · intro hx
    exact h.reached x (List.mem_append_left _ hx)
  · rintro ⟨n, hsteps⟩
    induction hsteps with
    | refl => simpa using h.begins
    | @tail n a b c _ hbc ih => simpa using h.closed b (ih h) c hbc

end Graph

/-! ## Referrers -/

namespace Provider

variable {p : Provider} {id k x y : ServiceId} {n : Nat}

/-- A property of a registered service refers to a name. -/
def PropertyRefers (p : Provider) (x y : ServiceId) : Prop :=
  ∃ n, p.registry.find? x = some n ∧
    ∃ name, (p.service n).properties.get? name = some (.reference y)

/-- So many references of registered services lead from one name to another. -/
abbrev Leads (p : Provider) (k : Nat) (x y : ServiceId) : Prop :=
  Graph.Steps p.PropertyRefers k x y

/-- The registered services that are on record as referring to a name. -/
def knownReferrers (p : Provider) (k : ServiceId) : List ServiceId :=
  (p.registry.referrers.services k).filter p.registry.names.contains

theorem propertyRefers_iff (h : Scene.Named p.scene) :
    p.PropertyRefers x y ↔ ∃ n, p.registry.find? x = some n ∧ y ∈ (p.service n).references := by
  refine exists_congr fun n => and_congr_right' ?_
  exact ((h.coherent n y).trans Table.mem_values_iff).symm

/-- Of what is recorded to refer to a name the discovery takes the registered services. -/
theorem mem_knownReferrers (h : Scene.Named p.scene) :
    x ∈ p.knownReferrers k ↔ p.PropertyRefers x k := by
  rw [knownReferrers, List.mem_filter, Referrers.mem_services_iff, Table.contains_iff,
    propertyRefers_iff h]
  constructor
  · rintro ⟨hrecorded, -⟩
    exact (h.indexed k x).mp hrecorded
  · rintro ⟨m, hm, href⟩
    exact ⟨(h.indexed k x).mpr ⟨m, hm, href⟩, m, hm⟩

theorem steps_knownReferrers (h : Scene.Named p.scene) :
    Graph.Steps (Graph.Adjacent p.knownReferrers) n id x ↔ p.Leads n x id := by
  have hrelation : Graph.Adjacent p.knownReferrers = fun k x => p.PropertyRefers x k := by
    funext k x
    exact propext (mem_knownReferrers h)
  rw [hrelation]
  exact ⟨Graph.Steps.reverse, Graph.Steps.reverse⟩

/-- One from which a reference leads somewhere is registered. -/
theorem Leads.registered {j : Nat} (h : p.Leads j x y) (hj : 0 < j) :
    ∃ n, p.registry.find? x = some n := by
  induction h with
  | refl => exact absurd hj (by omega)
  | @tail j a b c hab hbc ih =>
    cases hab with
    | refl =>
      obtain ⟨n, hn, -⟩ := hbc
      exact ⟨n, hn⟩
    | tail => exact ih (Nat.succ_pos _)

/-- The search for referrers comes to its end by itself, and finds the nearer ones first. -/
theorem discovers_referrers (p : Provider) (id : ServiceId) : ∃ result : OrderedSet ServiceId,
    Graph.Discovers p.knownReferrers [id] (OrderedSet.empty.insert id) result ∧
      p.registry.recursiveReferrers id = result.toList.filter fun k => k ≠ id := by
  have hworld : ∀ k ∈ id :: p.registry.names.keys, ∀ x ∈ p.knownReferrers k,
      x ∈ id :: p.registry.names.keys := by
    intro k _ x hx
    obtain ⟨n, hn⟩ := Table.contains_iff.mp (List.mem_filter.mp hx).2
    exact List.mem_cons_of_mem _ (Table.mem_keys_of_get? hn)
  have hstart : (OrderedSet.empty.insert id).toList = [] ++ [id] := rfl
  exact ⟨_, Graph.discovers_discover p.knownReferrers hworld (p.registry.names.size + 1) [] [id] _
    hstart (by simp [hstart]) (by simp [Table.keys, Table.size]), rfl⟩

/-- The nearer ones were found first, the name itself before all others. -/
theorem levelled_referrers (p : Provider) (id : ServiceId) : ∃ result : OrderedSet ServiceId,
    Graph.Levelled p.knownReferrers id result.toList [] ∧
      p.registry.recursiveReferrers id = result.toList.filter fun k => k ≠ id := by
  obtain ⟨result, hdiscovers, hfound⟩ := p.discovers_referrers id
  exact ⟨result, hdiscovers.levelled (Graph.levelled_start _ id) rfl, hfound⟩

/-- What is found to refer to a name, directly or through others, is every other name from which
references lead to it. -/
theorem mem_recursiveReferrers_iff (h : Scene.Named p.scene) :
    x ∈ p.registry.recursiveReferrers id ↔ x ≠ id ∧ ∃ j, p.Leads j x id := by
  obtain ⟨result, hlevelled, hfound⟩ := p.levelled_referrers id
  rw [hfound, List.mem_filter, hlevelled.mem_iff, decide_eq_true_iff, and_comm]
  simp only [steps_knownReferrers h]

/-- A name is not found on the way to itself. -/
theorem Leads.pos {j : Nat} (h : p.Leads j x id) (hne : x ≠ id) : 0 < j := by
  refine Nat.pos_of_ne_zero ?_
  rintro rfl
  cases h
  exact hne rfl

theorem nodup_recursiveReferrers (p : Provider) (id : ServiceId) :
    (p.registry.recursiveReferrers id).Nodup := by
  obtain ⟨result, -, hfound⟩ := p.discovers_referrers id
  rw [hfound]
  exact result.nodup.filter _

/-- From those found first fewer references lead to the name, or as many. -/
theorem sorted_recursiveReferrers (h : Scene.Named p.scene) (id : ServiceId) :
    (p.registry.recursiveReferrers id).Pairwise fun x y =>
      ∀ a b, IsLeast {k | 0 < k ∧ p.Leads k x id} a → IsLeast {k | 0 < k ∧ p.Leads k y id} b →
        a ≤ b := by
  obtain ⟨result, hlevelled, hfound⟩ := p.levelled_referrers id
  have hsorted : (p.registry.recursiveReferrers id).Pairwise
      (Graph.NoFarther (Graph.Adjacent p.knownReferrers) id) := by
    rw [hfound]
    exact (List.append_nil result.toList ▸ hlevelled.sorted).filter _
  refine hsorted.imp_of_mem fun {x y} hx _ hnear a b ha hb => ?_
  obtain ⟨m, hm, hsteps⟩ := hnear b ((steps_knownReferrers h).mpr hb.1.2)
  have hleads := (steps_knownReferrers h).mp hsteps
  have hpos := hleads.pos ((mem_recursiveReferrers_iff h).mp hx).1
  exact Nat.le_trans (ha.2 ⟨hpos, hleads⟩) hm

end Provider

namespace Setup

/-- **Referrers, directly or through others.** After every run the search for what refers to a
name comes to its end, whether or not the name is that of a service. It gives every registered
service but the one of that name from which one reference or more lead to the name, each once,
and those from which fewer lead to it first. -/
theorem recursiveReferrers_exact (setup : Setup) (events : List Event) (id : ServiceId) :
    let p := setup.provider.after events
    let found := p.registry.recursiveReferrers id
    (∃ result : OrderedSet ServiceId,
      Graph.Discovers p.knownReferrers [id] (OrderedSet.empty.insert id) result ∧
        found = result.toList.filter fun k => k ≠ id) ∧
      found.Nodup ∧
      (∀ x, x ∈ found ↔ (∃ n, p.registry.find? x = some n) ∧ x ≠ id ∧ ∃ k, 0 < k ∧ p.Leads k x id) ∧
      found.Pairwise fun x y => ∀ a b, IsLeast {k | 0 < k ∧ p.Leads k x id} a →
        IsLeast {k | 0 < k ∧ p.Leads k y id} b → a ≤ b := by
  intro p found
  have hnamed : Scene.Named p.scene := (setup.lawful_after events).orderly.named
  refine ⟨p.discovers_referrers id, p.nodup_recursiveReferrers id, fun x => ?_,
    Provider.sorted_recursiveReferrers hnamed id⟩
  show x ∈ p.registry.recursiveReferrers id ↔ _
  rw [Provider.mem_recursiveReferrers_iff hnamed]
  constructor
  · rintro ⟨hne, k, hk⟩
    exact ⟨hk.registered (hk.pos hne), hne, k, hk.pos hne, hk⟩
  · rintro ⟨-, hne, k, -, hk⟩
    exact ⟨hne, k, hk⟩

/-- Three services stand on a name that nobody has, and the first of them refers to the last. -/
def bottomlessRun : List Event :=
  [.request (.create "mock.Dependent" ⟨"a"⟩ false), .request (.create "mock.Dependent" ⟨"b"⟩ false),
    .request (.create "mock.Dependent" ⟨"c"⟩ false),
    .request (.setProperty ⟨"a"⟩ "Other Service" "gone"),
    .request (.setProperty ⟨"a"⟩ "Other Service 2" "c"),
    .request (.setProperty ⟨"b"⟩ "Other Service" "a"),
    .request (.setProperty ⟨"c"⟩ "Other Service" "b")]

example : let r := (mock.provider.after bottomlessRun).registry
    r.recursiveReferrers ⟨"gone"⟩ = [⟨"a"⟩, ⟨"b"⟩, ⟨"c"⟩] ∧
      r.recursiveReferrers ⟨"b"⟩ = [⟨"c"⟩, ⟨"a"⟩] := by decide +kernel

end Setup

end ServiceLifecycle

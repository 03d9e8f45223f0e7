import Mathlib.Data.List.Nodup
import ServiceLifecycle.Proofs.Repetitions

/-!
# Part of the registry is enough

To bring services up the registry is cut down to the services asked for and to what they refer
to, directly or through others. A walk never leaves what can be reached from where it begins,
so it goes the same way through the part as it would through the whole.

* **walks** — a walk depends on nothing but what it can reach (`Graph.Walk.visit_congr`), so it
  is the same in every closed part of a graph (`Graph.PartOf.walkFrom`);
* **part** — the dependency graph is a closed part of the registry
  (`Registry.partOf_dependencyGraph`), and what stands in it is known exactly
  (`Registry.dependencyGraph_exact`).
-/

namespace ServiceLifecycle

open Relation

/-! ## Walks -/

namespace Graph

variable {τ : Type}

/-- Two graphs give the same walk if they agree on all that is depended on by vertices of some
kind, and if vertices of that kind depend only on such vertices. -/
theorem Walk.visit_congr {find find' : ServiceId → Option (Vertex τ)} {P : Vertex τ → Prop}
    (hsame : ∀ v, P v → ∀ d ∈ v.dependencies, find d = find' d)
    (hnext : ∀ v, P v → ∀ d ∈ v.dependencies, ∀ u, find d = some u → P u) (depth : Nat) :
    ∀ (v : Vertex τ) (w : Walk τ), P v → visit find depth v w = visit find' depth v w := by
  induction depth with
  | zero => exact fun _ _ _ => rfl
  | succ depth ih =>
    intro v w hv
    have hdescend : ∀ (w : Walk τ), ∀ d ∈ v.dependencies,
        descend find depth v w d = descend find' depth v w d := by
      intro w d hd
      unfold descend
      rw [← hsame v hv d hd]
      split_ifs
      · rfl
      · rfl
      · cases hu : find d with
        | none => rfl
        | some u => exact ih u w (hnext v hv d hd u hu)
    rw [visit_succ, visit_succ, List.foldl_ext _ _ _ hdescend]

/-- Some vertices of a graph, and with each of them all that it depends on. -/
structure PartOf (part whole : Table ServiceId (Vertex τ)) : Prop where
  stored : ∀ k v, part.get? k = some v → whole.get? k = some v
  closed : ∀ k v, part.get? k = some v → ∀ d ∈ v.dependencies, ∀ u, whole.get? d = some u →
    part.get? d = some u

namespace PartOf

variable {part whole : Table ServiceId (Vertex τ)} {v : Vertex τ}

/-- What a vertex of the part depends on is in the part as it is in the whole. -/
theorem get?_eq (h : PartOf part whole) {k : ServiceId} (hv : part.get? k = some v) :
    ∀ d ∈ v.dependencies, part.get? d = whole.get? d := by
  intro d hd
  cases hu : whole.get? d with
  | some u => exact h.closed k v hv d hd u hu
  | none =>
    cases hu' : part.get? d with
    | none => rfl
    | some u => exact (hu.symm.trans (h.stored d u hu')).symm

/-- A walk that begins in the part goes through the part as it goes through the whole. -/
theorem walkFrom (h : PartOf part whole) (hown : OwnNames whole.get?)
    (hv : part.get? v.id = some v) : Graph.walkFrom part v = Graph.walkFrom whole v := by
  have hownPart : OwnNames part.get? := fun k u hu => hown k u (h.stored k u hu)
  -- both walks come to their end by themselves within this depth
  let depth := max part.size whole.size
  calc Graph.walkFrom part v
      = Walk.visit part.get? depth v {} := (walkFrom_depth hownPart hv (le_max_left _ _)).symm
    _ = Walk.visit whole.get? depth v {} := by
        refine Walk.visit_congr (P := fun u => ∃ k, part.get? k = some u) ?_ ?_ depth v {}
          ⟨v.id, hv⟩
        · rintro u ⟨k, hu⟩
          exact h.get?_eq hu
        · rintro u _ d _ u' hu'
          exact ⟨d, hu'⟩
    _ = Graph.walkFrom whole v := walkFrom_depth hown (h.stored _ v hv) (le_max_right _ _)

end PartOf

end Graph

/-! ## The part -/

namespace Registry

variable {r : Registry} {n m : Incarnation} {ns : List Incarnation} {k : ServiceId}

/-- Every registered service as a vertex, in the order of their creation. -/
def wholeGraph (r : Registry) : Table ServiceId (Graph.Vertex Incarnation) :=
  .ofList (r.names.entries.map fun e => (e.1, r.vertex e.2))

/-- A service refers to another one, which is registered. -/
def Refers (r : Registry) (n m : Incarnation) : Prop :=
  ∃ y ∈ (r.service n).references, r.find? y = some m

/-- Every service is registered under its own name. -/
def OwnNames (r : Registry) : Prop := ∀ k n, r.find? k = some n → (r.service n).id = k

theorem wholeGraph_get? (r : Registry) (k : ServiceId) :
    r.wholeGraph.get? k = (r.find? k).map r.vertex := by
  have hkeys : ((r.names.entries.map fun e => (e.1, r.vertex e.2)).map Prod.fst).Nodup := by
    rw [List.map_map]
    exact r.names.keys_nodup
  ext v
  rw [Table.get?_eq_some_iff, wholeGraph, Table.entries_ofList hkeys, List.mem_map,
    Option.map_eq_some_iff]
  constructor
  · rintro ⟨e, he, heq⟩
    obtain ⟨rfl, rfl⟩ := Prod.mk.inj heq
    exact ⟨e.2, Table.get?_eq_some_iff.mpr he, rfl⟩
  · rintro ⟨n, hn, rfl⟩
    exact ⟨(k, n), Table.get?_eq_some_iff.mp hn, rfl⟩

theorem OwnNames.wholeGraph (h : r.OwnNames) : Graph.OwnNames r.wholeGraph.get? := by
  intro k v hv
  rw [wholeGraph_get?] at hv
  obtain ⟨n, hn, rfl⟩ := Option.map_eq_some_iff.mp hv
  exact h k n hn

/-- One that is registered is so under its own name. -/
theorem OwnNames.find? (h : r.OwnNames) (hn : n ∈ r.names.values) :
    r.find? (r.service n).id = some n := by
  obtain ⟨k, hk⟩ := Table.mem_values_iff.mp hn
  rw [h k n hk]
  exact hk

/-- The dependency graph of some registered services is a closed part of the registry. -/
theorem partOf_dependencyGraph (hns : ∀ n ∈ ns, r.find? (r.service n).id = some n) :
    Graph.PartOf (r.dependencyGraph ns) r.wholeGraph where
  stored k v hv := by
    obtain ⟨-, n, hn, rfl⟩ := dependencyGraph_get? hns hv
    rw [wholeGraph_get?, hn]
    rfl
  closed k v hv d hd u hu := by
    rw [wholeGraph_get?] at hu
    obtain ⟨m, hm, rfl⟩ := Option.map_eq_some_iff.mp hu
    exact dependencyGraph_closed hns hv hd hm

/-- The roots are the given services without repetitions, in their order. -/
theorem values_roots (hns : ∀ n ∈ ns, r.find? (r.service n).id = some n) :
    (r.roots ns).values = (OrderedSet.ofList ns).toList := by
  induction ns using List.reverseRecOn with
  | nil => rfl
  | append_singleton ns m ih =>
    have hns' : ∀ n ∈ ns, r.find? (r.service n).id = some n :=
      fun n hn => hns n (List.mem_append_left _ hn)
    have hm := hns m (by simp)
    have hiff : (r.roots ns).contains (r.service m).id = true ↔ m ∈ ns := by
      obtain ⟨hsound, hcomplete⟩ := roots_get? r ns
      rw [Table.contains_iff]
      constructor
      · rintro ⟨n, hn⟩
        obtain ⟨hin, hid⟩ := hsound _ n hn
        obtain rfl : n = m := Option.some.inj ((hns' n hin).symm.trans (hid ▸ hm))
        exact hin
      · exact hcomplete m
    rw [roots_concat, OrderedSet.toList_ofList_concat]
    simp only [hiff]
    split
    · exact ih hns'
    · next hnew =>
      have hfree : (r.roots ns).contains (r.service m).id = false :=
        Bool.eq_false_iff.mpr fun hin => hnew (hiff.mp hin)
      rw [Table.values, Table.entries_insert_new m hfree, List.map_append, ← ih hns']
      rfl

/-- The registered services in the dependency graph of some services, in its order. -/
def graphServices (r : Registry) (ns : List Incarnation) : List Incarnation :=
  (r.graphNames ns).toList.filterMap r.find?

theorem nodup_graphServices (hown : r.OwnNames) (ns : List Incarnation) :
    (r.graphServices ns).Nodup :=
  (r.graphNames ns).nodup.filterMap fun k k' n hn hn' =>
    (hown k n hn).symm.trans (hown k' n hn')

theorem entries_eq_graphServices (hown : r.OwnNames)
    (hns : ∀ n ∈ ns, r.find? (r.service n).id = some n) :
    (r.dependencyGraph ns).entries =
      (r.graphServices ns).map fun n => ((r.service n).id, r.vertex n) := by
  rw [entries_dependencyGraph hns, graphServices, List.map_filterMap]
  refine List.filterMap_congr fun k _ => Option.map_congr fun n hn => ?_
  rw [hown k n hn]

/-- In the graph stand the given services and all that references lead to from one of them. -/
theorem mem_graphServices (hns : ∀ n ∈ ns, r.find? (r.service n).id = some n) :
    n ∈ r.graphServices ns ↔ ∃ root ∈ ns, ReflTransGen r.Refers root n := by
  rw [graphServices, List.mem_filterMap]
  constructor
  · rintro ⟨k, hk, hn⟩
    refine graphNames_within (P := fun n => ∃ root ∈ ns, ReflTransGen r.Refers root n)
      (fun root hroot => ⟨hns root hroot, root, hroot, .refl⟩) ?_ k hk n hn
    rintro m ⟨root, hroot, hpath⟩ y hy m' hm'
    exact ⟨root, hroot, hpath.tail ⟨y, hy, hm'⟩⟩
  · rintro ⟨root, hroot, hpath⟩
    induction hpath with
    | refl => exact ⟨_, mem_graphNames_given hroot, hns root hroot⟩
    | tail _ hlast ih =>
      obtain ⟨k, hk, hm⟩ := ih
      obtain ⟨y, hy, hn⟩ := hlast
      exact ⟨y, graphNames_closed r ns k hk y ((mem_registeredReferences hm).mpr ⟨hy, _, hn⟩), hn⟩

theorem prefix_graphServices (hns : ∀ n ∈ ns, r.find? (r.service n).id = some n) :
    (OrderedSet.ofList ns).toList <+: r.graphServices ns := by
  obtain ⟨rest, hnames⟩ := keys_roots_prefix r ns
  rw [graphServices, ← hnames, List.filterMap_append, filterMap_keys_roots hns, values_roots hns]
  exact List.prefix_append _ _

/-- **Part of the registry is enough.** The dependency graph of some registered services holds
these and every registered service to which references lead from one of them, each once,
first the services asked for, in their order and without repetitions. And whatever its vertex,
the branch in it is the branch in the whole registry. -/
theorem dependencyGraph_exact (r : Registry) (ns : List Incarnation) (hown : r.OwnNames)
    (hns : ∀ n ∈ ns, n ∈ r.names.values) :
    (∃ order : List Incarnation, order.Nodup ∧
      (r.dependencyGraph ns).entries = order.map (fun n => ((r.service n).id, r.vertex n)) ∧
      (∀ n, n ∈ order ↔ ∃ root ∈ ns, ReflTransGen r.Refers root n) ∧
      (OrderedSet.ofList ns).toList <+: order) ∧
    ∀ v ∈ (r.dependencyGraph ns).values,
      Graph.enablingBranch (r.dependencyGraph ns) v = Graph.enablingBranch r.wholeGraph v := by
  have hns : ∀ n ∈ ns, r.find? (r.service n).id = some n := fun n hn => hown.find? (hns n hn)
  refine ⟨⟨r.graphServices ns, nodup_graphServices hown ns, entries_eq_graphServices hown hns,
    fun n => mem_graphServices hns, prefix_graphServices hns⟩, fun v hv => ?_⟩
  have hstored := (Graph.mem_values_iff_stored (dependencyGraph_ownNames hns hown)).mp hv
  have hwalk := (partOf_dependencyGraph hns).walkFrom hown.wholeGraph hstored
  exact congrArg Graph.Walk.branch hwalk

end Registry

namespace Setup

theorem ownNames_after (setup : Setup) (events : List Event) :
    (setup.provider.after events).registry.OwnNames := fun k n hn =>
  ((setup.lawful_after events).orderly.named.own k n hn).1

/-- Two services refer to each other, one of them also to a name that nobody has. A third one
refers to itself and to the second, and a fourth one to the third. -/
def knottedRun : List Event :=
  [.request (.create "mock.Dependent" ⟨"a"⟩ false), .request (.create "mock.Dependent" ⟨"b"⟩ false),
    .request (.create "mock.Dependent" ⟨"c"⟩ false), .request (.create "mock.Dependent" ⟨"d"⟩ false),
    .request (.setProperty ⟨"a"⟩ "Other Service" "b"),
    .request (.setProperty ⟨"a"⟩ "Other Service 2" "gone"),
    .request (.setProperty ⟨"b"⟩ "Other Service" "a"),
    .request (.setProperty ⟨"c"⟩ "Other Service" "c"),
    .request (.setProperty ⟨"c"⟩ "Other Service 2" "b"),
    .request (.setProperty ⟨"d"⟩ "Other Service" "c")]

/-- The third service is asked for twice, and in between the first one. The second comes in
because it is referred to, and the fourth stays out. -/
theorem dependencyGraph_exact_knotted :
    let r := (mock.provider.after knottedRun).registry
    r.OwnNames ∧ (∀ n ∈ [2, 0, 2], n ∈ r.names.values) ∧
      r.names.keys = [⟨"a"⟩, ⟨"b"⟩, ⟨"c"⟩, ⟨"d"⟩] ∧
      (r.dependencyGraph [2, 0, 2]).keys = [⟨"c"⟩, ⟨"a"⟩, ⟨"b"⟩] ∧
      (Graph.enablingBranch r.wholeGraph (r.vertex 2)).map Graph.Vertex.item = [0, 1, 2] ∧
      Graph.enablingBranch (r.dependencyGraph [2, 0, 2]) (r.vertex 2) =
        Graph.enablingBranch r.wholeGraph (r.vertex 2) := by
  intro r
  have hown : r.OwnNames := ownNames_after mock knottedRun
  have hns : ∀ n ∈ [2, 0, 2], n ∈ r.names.values := by decide +kernel
  have hvalue : r.vertex 2 ∈ (r.dependencyGraph [2, 0, 2]).values := by
    refine Table.mem_values_iff.mpr ⟨⟨"c"⟩, ?_⟩
    exact Registry.dependencyGraph_given (fun n hn => hown.find? (hns n hn)) (n := 2) (by simp)
  exact ⟨hown, hns, by decide +kernel, by decide +kernel, by decide +kernel,
    (Registry.dependencyGraph_exact r [2, 0, 2] hown hns).2 _ hvalue⟩

end Setup

end ServiceLifecycle

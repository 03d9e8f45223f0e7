import ServiceLifecycle.Proofs.Index
import ServiceLifecycle.Proofs.Order
import ServiceLifecycle.Registry.Basic

/-!
# The dependency graph of some services

What a breadth-first discovery finds is closed under taking neighbours, as long as it
has a turn for every name that there is. So the dependency graph of some registered
services holds them, and with a service every registered service it refers to.

* **discovery** — what is found stays found (`mem_discover`), and nothing is there without a
  reason (`discover_within`); with turns enough it goes on to its end (`discovers_discover`),
  and nothing is missing (`Discovers.closed`);
* **graph** — what stands in the dependency graph (`dependencyGraph_get?`), who surely
  does (`dependencyGraph_given`, `dependencyGraph_closed`).
-/

namespace ServiceLifecycle

namespace Graph

variable {κ : Type} [DecidableEq κ]

theorem mem_newcomers {found : OrderedSet κ} {neighbours : List κ} {x : κ} :
    x ∈ newcomers found neighbours ↔ x ∈ neighbours ∧ x ∉ found.toList := by
  rw [newcomers, List.mem_filter, OrderedSet.mem_ofList, Bool.not_eq_true',
    ← Bool.not_eq_true, OrderedSet.contains_iff]

theorem newcomers_nodup (found : OrderedSet κ) (neighbours : List κ) :
    (newcomers found neighbours).Nodup :=
  (OrderedSet.ofList neighbours).nodup.filter _

/-- Members that are new go last, in their order. -/
theorem toList_foldl_insert {xs : List κ} (hnodup : xs.Nodup) (s : OrderedSet κ)
    (hnew : ∀ x ∈ xs, x ∉ s.toList) : (xs.foldl OrderedSet.insert s).toList = s.toList ++ xs := by
  induction xs generalizing s with
  | nil => simp
  | cons x xs ih =>
    obtain ⟨hx, hnodup⟩ := List.nodup_cons.mp hnodup
    have hinsert : (s.insert x).toList = s.toList ++ [x] := by
      rw [OrderedSet.insert, dif_neg (hnew x List.mem_cons_self)]
    rw [List.foldl_cons, ih hnodup, hinsert, List.append_assoc]
    · rfl
    · intro y hy hmem
      rw [hinsert, List.mem_append, List.mem_singleton] at hmem
      rcases hmem with hmem | rfl
      · exact hnew y (List.mem_cons_of_mem _ hy) hmem
      · exact hx hy

theorem toList_found (found : OrderedSet κ) (neighbours : List κ) :
    ((newcomers found neighbours).foldl OrderedSet.insert found).toList =
      found.toList ++ newcomers found neighbours :=
  toList_foldl_insert (newcomers_nodup found neighbours) found fun _ hx => (mem_newcomers.mp hx).2

/-- What has been found stays found. -/
theorem mem_discover (neighbours : κ → List κ) (turns : Nat) :
    ∀ (queue : List κ) (found : OrderedSet κ), ∀ x ∈ found.toList,
      x ∈ (discover neighbours turns queue found).toList := by
  induction turns with
  | zero => exact fun _ _ _ h => h
  | succ turns ih =>
    intro queue found x hx
    cases queue with
    | nil => exact hx
    | cons k queue =>
      exact ih _ _ x ((OrderedSet.mem_foldl_insert _ _ _).mpr (.inl hx))

/-- What was found before comes first. -/
theorem prefix_discover (neighbours : κ → List κ) (turns : Nat) :
    ∀ (queue : List κ) (found : OrderedSet κ),
      found.toList <+: (discover neighbours turns queue found).toList := by
  induction turns with
  | zero => exact fun _ _ => List.prefix_refl _
  | succ turns ih =>
    intro queue found
    cases queue with
    | nil => exact List.prefix_refl _
    | cons k queue =>
      exact (toList_found found (neighbours k) ▸ List.prefix_append _ _).trans (ih _ _)

/-- What is found lies where the search begins and where no neighbour leads away from. -/
theorem discover_within (neighbours : κ → List κ) {P : κ → Prop}
    (hnext : ∀ k, P k → ∀ x ∈ neighbours k, P x) (turns : Nat) :
    ∀ (queue : List κ) (found : OrderedSet κ), (∀ k ∈ queue, P k) → (∀ k ∈ found.toList, P k) →
      ∀ k ∈ (discover neighbours turns queue found).toList, P k := by
  induction turns with
  | zero => exact fun _ _ _ hfound => hfound
  | succ turns ih =>
    intro queue found hqueue hfound
    cases queue with
    | nil => exact hfound
    | cons k queue =>
      have hfresh : ∀ x ∈ newcomers found (neighbours k), P x := fun x hx =>
        hnext k (hqueue k List.mem_cons_self) x (mem_newcomers.mp hx).1
      refine ih _ _ ?_ ?_
      · intro x hx
        rcases List.mem_append.mp hx with hx | hx
        · exact hqueue x (List.mem_cons_of_mem _ hx)
        · exact hfresh x hx
      · intro x hx
        rcases (OrderedSet.mem_foldl_insert _ _ _).mp hx with hx | hx
        · exact hfound x hx
        · exact hfresh x hx

/-- A discovery that goes on until the queue is empty. -/
inductive Discovers (neighbours : κ → List κ) : List κ → OrderedSet κ → OrderedSet κ → Prop
  | ends (found : OrderedSet κ) : Discovers neighbours [] found found
  | turn {k : κ} {queue : List κ} {found result : OrderedSet κ} :
      Discovers neighbours (queue ++ newcomers found (neighbours k))
        ((newcomers found (neighbours k)).foldl OrderedSet.insert found) result →
      Discovers neighbours (k :: queue) found result

/-- The name that has had its turn moves from the queue to those that are done. -/
theorem toList_found_turn {done queue : List κ} {k : κ} {found : OrderedSet κ}
    (hfound : found.toList = done ++ k :: queue) (neighbours : List κ) :
    ((newcomers found neighbours).foldl OrderedSet.insert found).toList =
      (done ++ [k]) ++ (queue ++ newcomers found neighbours) := by
  rw [toList_found, hfound]
  simp

/-- Where there is a turn for every member of a world that no neighbour leaves, the discovery
goes on until the queue is empty. Of what is found the names `done` have had their turn. -/
theorem discovers_discover (neighbours : κ → List κ) {world : List κ}
    (hworld : ∀ k ∈ world, ∀ x ∈ neighbours k, x ∈ world) (turns : Nat) :
    ∀ (done queue : List κ) (found : OrderedSet κ), found.toList = done ++ queue →
      (∀ k ∈ found.toList, k ∈ world) → world.length ≤ turns + done.length →
      Discovers neighbours queue found (discover neighbours turns queue found) := by
  induction turns with
  | zero =>
    intro done queue found hfound hin hturns
    -- all turns have been used, so there are no names left that could be in the queue
    have hle := found.nodup.length_le_of_subset hin
    rw [hfound, List.length_append] at hle
    have hqueue : queue = [] := List.eq_nil_of_length_eq_zero (by omega)
    subst hqueue
    exact .ends found
  | succ turns ih =>
    intro done queue found hfound hin hturns
    cases queue with
    | nil => exact .ends found
    | cons k queue =>
      have hk : k ∈ found.toList := hfound ▸ by simp
      refine .turn (ih (done ++ [k]) _ _ (toList_found_turn hfound _) ?_ ?_)
      · intro x hx
        rw [toList_found, List.mem_append] at hx
        rcases hx with hx | hx
        · exact hin x hx
        · exact hworld k (hin k hk) x (mem_newcomers.mp hx).1
      · rw [List.length_append, List.length_singleton]
        omega

/-- Such a discovery finds the neighbours of all that it finds. -/
theorem Discovers.closed {neighbours : κ → List κ} {queue : List κ} {found result : OrderedSet κ}
    (h : Discovers neighbours queue found result) (done : List κ)
    (hfound : found.toList = done ++ queue)
    (hdone : ∀ k ∈ done, ∀ x ∈ neighbours k, x ∈ found.toList) :
    ∀ k ∈ result.toList, ∀ x ∈ neighbours k, x ∈ result.toList := by
  induction h generalizing done with
  | ends found =>
    rw [List.append_nil] at hfound
    exact fun k hk => hdone k (hfound ▸ hk)
  | @turn k queue found result _ ih =>
    refine ih (done ++ [k]) (toList_found_turn hfound _) ?_
    intro y hy x hx
    rw [toList_found, List.mem_append]
    rcases List.mem_append.mp hy with hy | hy
    · exact .inl (hdone y hy x hx)
    · obtain rfl := List.mem_singleton.mp hy
      by_cases hmem : x ∈ found.toList
      · exact .inl hmem
      · exact .inr (mem_newcomers.mpr ⟨hx, hmem⟩)

end Graph

namespace Registry

variable {r : Registry} {n m : Incarnation} {ns : List Incarnation} {k y : ServiceId}
  {v : Graph.Vertex Incarnation}

theorem roots_concat (r : Registry) (ns : List Incarnation) (m : Incarnation) :
    r.roots (ns ++ [m]) = if (r.roots ns).contains (r.service m).id then r.roots ns
      else (r.roots ns).insert (r.service m).id m := by
  rw [roots, List.foldl_append]
  rfl

/-- The given services stand under their names, and nothing else does. -/
theorem roots_get? (r : Registry) (ns : List Incarnation) :
    (∀ k n, (r.roots ns).get? k = some n → n ∈ ns ∧ (r.service n).id = k) ∧
      ∀ n ∈ ns, ∃ n', (r.roots ns).get? (r.service n).id = some n' := by
  induction ns using List.reverseRecOn with
  | nil => exact ⟨fun _ _ h => (by cases h), fun _ h => (by cases h)⟩
  | append_singleton ns m ih =>
    rw [roots_concat]
    obtain ⟨hsound, hcomplete⟩ := ih
    split
    · next hin =>
      refine ⟨fun k n h => ⟨List.mem_append_left _ (hsound k n h).1, (hsound k n h).2⟩, ?_⟩
      intro n hn
      rcases List.mem_append.mp hn with hn | hn
      · exact hcomplete n hn
      · obtain rfl := List.mem_singleton.mp hn
        exact Table.contains_iff.mp hin
    · refine ⟨fun k n h => ?_, fun n hn => ?_⟩
      · rw [Table.get?_insert] at h
        split at h
        · next hk =>
          obtain rfl := Option.some.inj h
          exact ⟨by simp, hk.symm⟩
        · exact ⟨List.mem_append_left _ (hsound k n h).1, (hsound k n h).2⟩
      · rw [Table.get?_insert]
        split
        · exact ⟨m, rfl⟩
        · next hk =>
          rcases List.mem_append.mp hn with hn | hn
          · exact hcomplete n hn
          · exact absurd (congrArg (fun n => (r.service n).id) (List.mem_singleton.mp hn)) hk

/-- Where a given service is looked for first makes no difference if all are registered. -/
theorem roots_or_find? (hns : ∀ n ∈ ns, r.find? (r.service n).id = some n) (k : ServiceId) :
    ((r.roots ns).get? k).or (r.find? k) = r.find? k := by
  cases h : (r.roots ns).get? k with
  | none => rfl
  | some n =>
    obtain ⟨hn, rfl⟩ := (roots_get? r ns).1 k n h
    exact (hns n hn).symm

/-- The registered services that a registered service refers to. -/
def registeredReferences (r : Registry) (k : ServiceId) : List ServiceId :=
  match r.find? k with
  | some n => (r.service n).references.filter r.names.contains
  | none => []

/-- The names in the dependency graph of some services. -/
def graphNames (r : Registry) (ns : List Incarnation) : OrderedSet ServiceId :=
  Graph.discover r.registeredReferences ((r.roots ns).size + r.names.size) (r.roots ns).keys
    ((r.roots ns).keys.foldl OrderedSet.insert .empty)

theorem dependencyGraph_eq (hns : ∀ n ∈ ns, r.find? (r.service n).id = some n) :
    r.dependencyGraph ns = .ofList ((r.graphNames ns).toList.filterMap fun k =>
      (r.find? k).map fun n => (k, r.vertex n)) := by
  simp only [dependencyGraph, roots_or_find? hns]
  rfl

theorem mem_registeredReferences (hn : r.find? k = some n) :
    y ∈ r.registeredReferences k ↔ y ∈ (r.service n).references ∧ ∃ m, r.find? y = some m := by
  simp only [registeredReferences, hn, List.mem_filter, Table.contains_iff]
  rfl

theorem graphNames_closed (r : Registry) (ns : List Incarnation) :
    ∀ k ∈ (r.graphNames ns).toList, ∀ x ∈ r.registeredReferences k,
      x ∈ (r.graphNames ns).toList := by
  have hkeys : ((r.roots ns).keys.foldl OrderedSet.insert .empty).toList = (r.roots ns).keys := by
    exact Graph.toList_foldl_insert (r.roots ns).keys_nodup .empty fun _ _ hx => by cases hx
  have hworld : ∀ k ∈ (r.roots ns).keys ++ r.names.keys, ∀ x ∈ r.registeredReferences k,
      x ∈ (r.roots ns).keys ++ r.names.keys := by
    intro k _ x hx
    refine List.mem_append_right _ ?_
    unfold registeredReferences at hx
    split at hx
    · obtain ⟨m, hm⟩ := Table.contains_iff.mp (List.mem_filter.mp hx).2
      exact Table.mem_keys_of_get? hm
    · cases hx
  exact (Graph.discovers_discover r.registeredReferences hworld _ [] _ _ hkeys
    (fun k hk => List.mem_append_left _ (hkeys ▸ hk)) (by simp [Table.keys, Table.size])).closed []
      hkeys (by simp)

theorem mem_graphNames_given (hn : n ∈ ns) : (r.service n).id ∈ (r.graphNames ns).toList := by
  refine Graph.mem_discover _ _ _ _ _ ((OrderedSet.mem_foldl_insert _ _ _).mpr (.inr ?_))
  obtain ⟨n', hn'⟩ := (roots_get? r ns).2 n hn
  exact Table.mem_keys_of_get? hn'

/-- What holds of the given services, and of all that others of which it holds refer to, holds
of the whole dependency graph. -/
theorem graphNames_within {P : Incarnation → Prop}
    (hns : ∀ n ∈ ns, r.find? (r.service n).id = some n ∧ P n)
    (hnext : ∀ n, P n → ∀ y ∈ (r.service n).references, ∀ m, r.find? y = some m → P m) :
    ∀ k ∈ (r.graphNames ns).toList, ∀ n, r.find? k = some n → P n := by
  have hkeys : ∀ k ∈ (r.roots ns).keys, ∀ n, r.find? k = some n → P n := by
    intro k hk n hn
    obtain ⟨n', hn'⟩ := Option.isSome_iff_exists.mp ((Table.mem_keys_iff _ _).mp hk)
    obtain ⟨hin, rfl⟩ := (roots_get? r ns).1 k n' hn'
    obtain ⟨hfind, hP⟩ := hns n' hin
    exact Option.some.inj (hfind.symm.trans hn) ▸ hP
  refine Graph.discover_within _ (fun k hk x hx n hn => ?_) _ _ _ hkeys ?_
  · unfold registeredReferences at hx
    split at hx
    · next m hm => exact hnext m (hk m hm) x (List.mem_filter.mp hx).1 n hn
    · cases hx
  · intro k hk
    rcases (OrderedSet.mem_foldl_insert _ _ _).mp hk with hk | hk
    · cases hk
    · exact hkeys k hk

/-- Whatever is registered, a vertex of the dependency graph shows a service as it is. -/
theorem vertex_of_dependencyGraph (h : (r.dependencyGraph ns).get? k = some v) :
    v = r.vertex v.item := by
  obtain ⟨_, _, heq⟩ := List.mem_filterMap.mp (Table.mem_of_get?_ofList h)
  obtain ⟨n, _, heq⟩ := Option.map_eq_some_iff.mp heq
  obtain ⟨-, rfl⟩ := Prod.mk.inj heq
  rfl

/-- So does an element of a branch. -/
theorem vertex_of_branch {n : Incarnation}
    (hv : v ∈ (Graph.walkFrom (r.dependencyGraph ns) (r.vertex n)).branch) :
    v = r.vertex v.item :=
  Graph.Walk.left_visit (P := fun u => u = r.vertex u.item)
    (fun _ _ hu => vertex_of_dependencyGraph hu) _ (r.vertex n) rfl {} (fun _ hu => by cases hu) v
    (List.mem_reverse.mp hv)

/-- Every vertex of the dependency graph is that of a registered service. -/
theorem dependencyGraph_get? (hns : ∀ n ∈ ns, r.find? (r.service n).id = some n)
    (h : (r.dependencyGraph ns).get? k = some v) :
    k ∈ (r.graphNames ns).toList ∧ ∃ n, r.find? k = some n ∧ v = r.vertex n := by
  rw [dependencyGraph_eq hns] at h
  obtain ⟨k', hk', heq⟩ := List.mem_filterMap.mp (Table.mem_of_get?_ofList h)
  obtain ⟨n, hn, heq⟩ := Option.map_eq_some_iff.mp heq
  obtain ⟨rfl, rfl⟩ := Prod.mk.inj heq
  exact ⟨hk', n, hn, rfl⟩

theorem dependencyGraph_of_mem (hns : ∀ n ∈ ns, r.find? (r.service n).id = some n)
    (hk : k ∈ (r.graphNames ns).toList) (hn : r.find? k = some n) :
    (r.dependencyGraph ns).get? k = some (r.vertex n) := by
  have hin : (k, r.vertex n) ∈ (r.graphNames ns).toList.filterMap fun k =>
      (r.find? k).map fun n => (k, r.vertex n) :=
    List.mem_filterMap.mpr ⟨k, hk, by rw [hn]; rfl⟩
  obtain ⟨v, hv⟩ := Table.get?_ofList_isSome hin
  rw [← dependencyGraph_eq hns] at hv
  obtain ⟨-, n', hn', rfl⟩ := dependencyGraph_get? hns hv
  obtain rfl : n = n' := Option.some.inj (hn.symm.trans hn')
  exact hv

/-- The given services are in their dependency graph. -/
theorem dependencyGraph_given (hns : ∀ n ∈ ns, r.find? (r.service n).id = some n) (hn : n ∈ ns) :
    (r.dependencyGraph ns).get? (r.service n).id = some (r.vertex n) :=
  dependencyGraph_of_mem hns (mem_graphNames_given hn) (hns n hn)

/-- With a service, every registered service that it refers to is in the graph. -/
theorem dependencyGraph_closed (hns : ∀ n ∈ ns, r.find? (r.service n).id = some n)
    (h : (r.dependencyGraph ns).get? k = some v) (hy : y ∈ v.dependencies)
    (hm : r.find? y = some m) : (r.dependencyGraph ns).get? y = some (r.vertex m) := by
  obtain ⟨hk, n, hn, rfl⟩ := dependencyGraph_get? hns h
  exact dependencyGraph_of_mem hns (graphNames_closed r ns k hk y
    ((mem_registeredReferences hn).mpr ⟨hy, m, hm⟩)) hm

/-- The vertices of the dependency graph are stored under their own names. -/
theorem dependencyGraph_ownNames (hns : ∀ n ∈ ns, r.find? (r.service n).id = some n)
    (hown : ∀ id n, r.find? id = some n → (r.service n).id = id) :
    Graph.OwnNames (r.dependencyGraph ns).get? := by
  intro id v h
  obtain ⟨-, n, hn, rfl⟩ := dependencyGraph_get? hns h
  exact hown id n hn

/-! The given services come first in their graph. -/

theorem length_values_roots (r : Registry) (ns : List Incarnation) :
    (r.roots ns).values.length ≤ ns.length := by
  induction ns using List.reverseRecOn with
  | nil => exact Nat.le_refl 0
  | append_singleton ns m ih =>
    rw [roots_concat, List.length_append, List.length_singleton]
    split
    · exact Nat.le_succ_of_le ih
    · next hnew =>
      rw [Table.values, Table.entries_insert_new m (Bool.not_eq_true _ ▸ hnew), List.length_map,
        List.length_append, List.length_singleton]
      rw [Table.values, List.length_map] at ih
      exact Nat.succ_le_succ ih

theorem mem_values_roots (hns : ∀ n ∈ ns, r.find? (r.service n).id = some n) :
    n ∈ (r.roots ns).values ↔ n ∈ ns := by
  obtain ⟨hsound, hcomplete⟩ := roots_get? r ns
  rw [Table.mem_values_iff]
  constructor
  · rintro ⟨k, hk⟩
    exact (hsound k n hk).1
  · intro hn
    obtain ⟨n', hn'⟩ := hcomplete n hn
    obtain ⟨hin, hid⟩ := hsound _ n' hn'
    obtain rfl : n' = n := Option.some.inj ((hns n' hin).symm.trans (hid ▸ hns n hn))
    exact ⟨_, hn'⟩

/-- Names stand in the graph in the order in which they were found. -/
theorem entries_dependencyGraph (hns : ∀ n ∈ ns, r.find? (r.service n).id = some n) :
    (r.dependencyGraph ns).entries = (r.graphNames ns).toList.filterMap fun k =>
      (r.find? k).map fun n => (k, r.vertex n) := by
  rw [dependencyGraph_eq hns]
  refine Table.entries_ofList ?_
  have hfst : ∀ a, ∀ k ∈ ((r.find? a).map fun n => (a, r.vertex n)).map Prod.fst, k = a := by
    intro a k hk
    obtain ⟨e, he, rfl⟩ := Option.map_eq_some_iff.mp hk
    obtain ⟨n, -, rfl⟩ := Option.map_eq_some_iff.mp he
    rfl
  rw [List.map_filterMap]
  exact (r.graphNames ns).nodup.filterMap fun a a' k hk hk' =>
    (hfst a k hk).symm.trans (hfst a' k hk')

theorem keys_roots_prefix (r : Registry) (ns : List Incarnation) :
    (r.roots ns).keys <+: (r.graphNames ns).toList := by
  have hkeys : ((r.roots ns).keys.foldl OrderedSet.insert .empty).toList = (r.roots ns).keys :=
    Graph.toList_foldl_insert (r.roots ns).keys_nodup .empty fun _ _ hx => by cases hx
  exact hkeys ▸ Graph.prefix_discover _ _ _ _

/-- Under the names of the roots the roots are registered. -/
theorem filterMap_keys_roots (hns : ∀ n ∈ ns, r.find? (r.service n).id = some n) :
    (r.roots ns).keys.filterMap r.find? = (r.roots ns).values := by
  rw [Table.keys, Table.values, List.filterMap_map, ← List.filterMap_eq_map]
  refine List.filterMap_congr fun e he => ?_
  obtain ⟨hin, hid⟩ := (roots_get? r ns).1 e.1 e.2 (Table.get?_eq_some_iff.mpr he)
  show r.find? e.1 = some e.2
  rw [← hid]
  exact hns e.2 hin

theorem values_dependencyGraph (hns : ∀ n ∈ ns, r.find? (r.service n).id = some n) :
    (r.roots ns).values.map r.vertex <+: (r.dependencyGraph ns).values := by
  have hvalues : (r.dependencyGraph ns).values =
      ((r.graphNames ns).toList.filterMap r.find?).map r.vertex := by
    rw [Table.values, entries_dependencyGraph hns, List.map_filterMap, List.map_filterMap]
    refine List.filterMap_congr fun k _ => ?_
    rw [Option.map_map]
    rfl
  obtain ⟨rest, hnames⟩ := keys_roots_prefix r ns
  rw [hvalues, ← hnames, List.filterMap_append, filterMap_keys_roots hns, List.map_append]
  exact List.prefix_append _ _

end Registry

end ServiceLifecycle

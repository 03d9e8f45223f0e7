import Mathlib.Data.List.Induction
import ServiceLifecycle.Proofs.Branch
import ServiceLifecycle.Proofs.Index

/-!
# The disabling order

Services go down in the reverse of the order in which they come up. Each stands in the
disabling order once, and before everything that it depends on, unless the two lie on
a cycle.

* **firsts** — what is left of a list of vertices when of each name only the first is
  kept (`firsts`);
* **order** — who stands in the disabling order (`mem_disablingOrder`), and before whom
  (`disablingOrder_before`), from which `disablingOrder_exact` is put together.
-/

namespace ServiceLifecycle.Graph

variable {τ : Type} {nodes : Table ServiceId (Vertex τ)} {vs : List (Vertex τ)} {u v : Vertex τ}

/-! ## First occurrences -/

/-- The first vertex of each name in a list. -/
def firsts (vs : List (Vertex τ)) : Table ServiceId (Vertex τ) :=
  vs.foldl (fun t v => if t.contains v.id then t else t.insert v.id v) .empty

theorem firsts_concat (vs : List (Vertex τ)) (v : Vertex τ) :
    firsts (vs ++ [v]) = if (firsts vs).contains v.id then firsts vs
      else (firsts vs).insert v.id v := by
  rw [firsts, List.foldl_append]
  rfl

theorem values_firsts_concat (vs : List (Vertex τ)) (v : Vertex τ) :
    (firsts (vs ++ [v])).values = if (firsts vs).contains v.id then (firsts vs).values
      else (firsts vs).values ++ [v] := by
  rw [firsts_concat]
  split
  · rfl
  · next h =>
    rw [Table.values, Table.entries_insert_new v (Bool.not_eq_true _ ▸ h), List.map_append]
    rfl

/-- The first vertices of a list are stored under their own names. -/
theorem ownNames_firsts (vs : List (Vertex τ)) : OwnNames (firsts vs).get? := by
  induction vs using List.reverseRecOn with
  | nil => exact fun id v h => by cases h
  | append_singleton vs v ih =>
    intro id x h
    rw [firsts_concat] at h
    split at h
    · exact ih id x h
    · rw [Table.get?_insert] at h
      split at h
      · next hid => exact Option.some.inj h ▸ hid.symm
      · exact ih id x h

/-- Where no two vertices share a name none is lost. -/
theorem mem_firsts (hsame : ∀ u ∈ vs, ∀ v ∈ vs, u.id = v.id → u = v) (v : Vertex τ) :
    v ∈ (firsts vs).values ↔ v ∈ vs := by
  induction vs using List.reverseRecOn generalizing v with
  | nil => exact Iff.rfl
  | append_singleton vs x ih =>
    have ih := ih fun u hu v hv => hsame u (List.mem_append_left _ hu) v (List.mem_append_left _ hv)
    rw [values_firsts_concat]
    split
    · next hin =>
      -- the vertex stored under the name is the same one
      obtain ⟨y, hy⟩ := Table.contains_iff.mp hin
      have hmem : y ∈ vs := (ih y).mp (Table.mem_values_iff.mpr ⟨_, hy⟩)
      have heq : y = x := hsame y (List.mem_append_left _ hmem) x (by simp) (ownNames_firsts vs _ y hy)
      rw [ih, List.mem_append, List.mem_singleton, or_iff_left_of_imp]
      rintro rfl
      exact heq ▸ hmem
    · rw [List.mem_append, List.mem_append, ih]

/-- What stands before every occurrence of a vertex stands before its first one. -/
theorem firsts_before (hsame : ∀ u ∈ vs, ∀ v ∈ vs, u.id = v.id → u = v)
    (hbefore : ∀ pre post, vs = pre ++ u :: post → v ∈ pre) :
    ∀ pre post, (firsts vs).values = pre ++ u :: post → v ∈ pre := by
  induction vs using List.reverseRecOn with
  | nil =>
    intro pre post h
    cases pre <;> cases h
  | append_singleton vs x ih =>
    have hsame' : ∀ u ∈ vs, ∀ v ∈ vs, u.id = v.id → u = v :=
      fun u hu v hv => hsame u (List.mem_append_left _ hu) v (List.mem_append_left _ hv)
    have ih := ih hsame' fun pre post h => hbefore pre (post ++ [x]) (by simp [h])
    intro pre post h
    rw [values_firsts_concat] at h
    split at h
    · exact ih pre post h
    · rcases List.eq_nil_or_concat post with rfl | ⟨post, y, rfl⟩
      · obtain ⟨rfl, heq⟩ := List.append_inj' h rfl
        obtain rfl : x = u := (List.cons.inj heq).1
        exact (mem_firsts hsame' v).mpr (hbefore vs [] rfl)
      · refine ih pre post ?_
        rw [List.concat_eq_append, ← List.cons_append, ← List.append_assoc] at h
        exact (List.append_inj' h rfl).1

/-! ## The order -/

theorem disablingOrder_eq (nodes : Table ServiceId (Vertex τ)) :
    disablingOrder nodes = (firsts (enablingOrder nodes).flatten).values.reverse := rfl

/-- Where vertices are stored under their own names these are the keys. -/
theorem map_id_values (hown : OwnNames nodes.get?) : nodes.values.map Vertex.id = nodes.keys := by
  rw [Table.values, Table.keys, List.map_map]
  exact List.map_congr_left fun e he => hown e.1 e.2 (Table.get?_eq_some_iff.mpr he)

/-- A vertex of the graph is stored under its own name. -/
theorem mem_values_iff_stored (hown : OwnNames nodes.get?) :
    v ∈ nodes.values ↔ nodes.get? v.id = some v := by
  rw [Table.mem_values_iff]
  constructor
  · rintro ⟨k, hk⟩
    rwa [hown k v hk]
  · exact fun h => ⟨_, h⟩

/-- What a stored vertex reaches is stored. -/
theorem stored_of_reaches (hu : nodes.get? u.id = some u) (h : Reaches nodes.get? u v) :
    nodes.get? v.id = some v := by
  cases h with
  | refl => exact hu
  | tail _ hlast => exact hlast.2

theorem mem_enablingBranch (hown : OwnNames nodes.get?) (hu : nodes.get? u.id = some u) :
    v ∈ enablingBranch nodes u ↔ Reaches nodes.get? u v := by
  obtain ⟨order, hbranch, hspec⟩ := branch_spec hown hu
  rw [hbranch, mem_blocks, hspec.mem_iff]

/-- A vertex that does not depend on itself stands in its branch once, at the end. -/
theorem enablingBranch_concat (hown : OwnNames nodes.get?) (hu : nodes.get? u.id = some u)
    (hself : u.id ∉ u.dependencies) :
    ∃ front, enablingBranch nodes u = front ++ [u] ∧ u ∉ front := by
  obtain ⟨order, hbranch, hspec⟩ := branch_spec hown hu
  obtain ⟨front, rfl⟩ := List.getLast?_eq_some_iff.mp hspec.last
  have hcopies : copies u = [u] := by
    have hnot : ¬ u.dependsOnlyOnItself := by
      rw [dependsOnlyOnItself_iff]
      rintro ⟨hsome, hall⟩
      obtain ⟨d, hd⟩ := List.exists_mem_of_ne_nil _ hsome
      exact hself (hall d hd ▸ hd)
    unfold copies
    rw [if_neg hnot]
    rfl
  refine ⟨front.flatMap copies, ?_, ?_⟩
  · rw [hbranch, List.flatMap_append, List.flatMap_singleton, hcopies]
  · rw [mem_blocks]
    intro hin
    exact (id_ne_of_distinct hspec.distinct).1 u hin rfl

theorem enablingOrder_eq (nodes : Table ServiceId (Vertex τ)) :
    enablingOrder nodes = nodes.values.map (enablingBranch nodes) := by
  unfold enablingOrder walks
  rw [List.map_map]
  rfl

theorem mem_flatten_enablingOrder (hown : OwnNames nodes.get?) :
    v ∈ (enablingOrder nodes).flatten ↔ nodes.get? v.id = some v := by
  rw [enablingOrder_eq, ← List.flatMap_def, List.mem_flatMap]
  constructor
  · rintro ⟨u, hu, hv⟩
    rw [mem_values_iff_stored hown] at hu
    exact stored_of_reaches hu ((mem_enablingBranch hown hu).mp hv)
  · intro hv
    exact ⟨v, (mem_values_iff_stored hown).mpr hv, (mem_enablingBranch hown hv).mpr .refl⟩

theorem eq_of_mem_flatten (hown : OwnNames nodes.get?) :
    ∀ u ∈ (enablingOrder nodes).flatten, ∀ v ∈ (enablingOrder nodes).flatten, u.id = v.id →
      u = v := by
  intro u hu v hv
  rw [mem_flatten_enablingOrder hown] at hu hv
  exact eq_of_find hu hv

/-- The vertices of the graph stand in the disabling order, and nothing else does. -/
theorem mem_disablingOrder (hown : OwnNames nodes.get?) :
    v ∈ disablingOrder nodes ↔ nodes.get? v.id = some v := by
  rw [disablingOrder_eq, List.mem_reverse, mem_firsts (eq_of_mem_flatten hown),
    mem_flatten_enablingOrder hown]

/-- No vertex stands in the disabling order twice. -/
theorem disablingOrder_distinct (nodes : Table ServiceId (Vertex τ)) :
    ((disablingOrder nodes).map Vertex.id).Nodup := by
  rw [disablingOrder_eq, List.map_reverse, List.nodup_reverse, map_id_values (ownNames_firsts _)]
  exact (firsts (enablingOrder nodes).flatten).keys_nodup

/-- In every branch a vertex stands after those that it depends on, unless the two lie on a
cycle. -/
theorem branch_before (hown : OwnNames nodes.get?) {target : Vertex τ}
    (htarget : nodes.get? target.id = some target) (h : Refers nodes.get? u v) (hne : v ≠ u)
    (hback : ¬ Reaches nodes.get? v u) {pre post : List (Vertex τ)}
    (hsplit : enablingBranch nodes target = pre ++ u :: post) : v ∈ pre := by
  obtain ⟨order, hbranch, hspec⟩ := branch_spec hown htarget
  rw [hbranch] at hsplit
  have hu : u ∈ order := by
    rw [← mem_blocks, hsplit]
    simp
  obtain ⟨front, back, rfl⟩ := List.append_of_mem hu
  have hv := hspec.before front u back rfl v h hne hback
  obtain ⟨hfront, -⟩ := id_ne_of_distinct hspec.distinct
  -- the blocks up to that of `u` hold no `u`, so they lie before this occurrence
  have hnot : u ∉ front.flatMap copies := fun hin => hfront u (mem_blocks.mp hin) rfl
  rw [List.flatMap_append] at hsplit
  rcases List.append_eq_append_iff.mp hsplit with ⟨mid, rfl, -⟩ | ⟨mid, hmid, hpost⟩
  · exact List.mem_append_left _ (mem_blocks.mpr hv)
  · cases mid with
    | nil =>
      rw [List.append_nil] at hmid
      exact hmid ▸ mem_blocks.mpr hv
    | cons x mid =>
      obtain ⟨rfl, -⟩ := List.cons.inj hpost
      exact absurd (hmid ▸ by simp) hnot

theorem flatten_before {α : Type} {a b : α} {xss : List (List α)}
    (h : ∀ xs ∈ xss, ∀ pre post, xs = pre ++ a :: post → b ∈ pre) :
    ∀ pre post, xss.flatten = pre ++ a :: post → b ∈ pre := by
  induction xss with
  | nil =>
    intro pre post heq
    cases pre <;> cases heq
  | cons xs xss ih =>
    have ih := ih fun ys hys => h ys (List.mem_cons_of_mem _ hys)
    intro pre post heq
    rw [List.flatten_cons] at heq
    rcases List.append_eq_append_iff.mp heq with ⟨mid, rfl, hrest⟩ | ⟨mid, hxs, hrest⟩
    · exact List.mem_append_right _ (ih mid post hrest)
    · cases mid with
      | nil => exact absurd (ih [] post hrest.symm) (by simp)
      | cons y mid =>
        obtain ⟨rfl, -⟩ := List.cons.inj hrest
        exact h xs List.mem_cons_self pre mid hxs

/-- In the disabling order a vertex stands before those that it depends on, unless the two lie on
a cycle. -/
theorem disablingOrder_before (hown : OwnNames nodes.get?) (hu : nodes.get? u.id = some u)
    (h : Refers nodes.get? u v) (hne : v ≠ u) (hback : ¬ Reaches nodes.get? v u)
    {pre post : List (Vertex τ)} (hsplit : disablingOrder nodes = pre ++ v :: post) : u ∈ pre := by
  have hbefore := firsts_before (u := u) (v := v) (eq_of_mem_flatten hown) <|
    flatten_before fun branch hbranch before after heq => by
      rw [enablingOrder_eq] at hbranch
      obtain ⟨target, htarget, rfl⟩ := List.mem_map.mp hbranch
      exact branch_before hown ((mem_values_iff_stored hown).mp htarget) h hne hback heq
  have hu' : u ∈ disablingOrder nodes := (mem_disablingOrder hown).mpr hu
  rw [hsplit, List.mem_append, List.mem_cons] at hu'
  rcases hu' with hpre | rfl | hpost
  · exact hpre
  · exact absurd rfl hne
  · -- then `v` would stand before `u` in the reverse order, and so twice in this one
    exfalso
    obtain ⟨mid, back, rfl⟩ := List.append_of_mem hpost
    have hvalues : (firsts (enablingOrder nodes).flatten).values =
        back.reverse ++ u :: (mid.reverse ++ v :: pre.reverse) := by
      rw [← List.reverse_inj, ← disablingOrder_eq, hsplit]
      simp
    have hv : v ∈ back := by simpa using hbefore _ _ hvalues
    have hdistinct := disablingOrder_distinct nodes
    rw [hsplit] at hdistinct
    exact (id_ne_of_distinct hdistinct).2 v (by simp [hv]) rfl

/-- **Disabling order.** On arbitrary graphs the disabling order consists of the vertices of the
graph, each of them once. A vertex stands before every other one that it refers to, unless that
one reaches it in its turn. -/
theorem disablingOrder_exact (nodes : Table ServiceId (Vertex τ)) (hown : OwnNames nodes.get?) :
    (disablingOrder nodes).Perm nodes.values ∧
    ((disablingOrder nodes).map Vertex.id).Nodup ∧
    (∀ u v, nodes.get? u.id = some u → Refers nodes.get? u v → v ≠ u →
      ¬ Reaches nodes.get? v u → ∃ before between after,
        disablingOrder nodes = before ++ u :: between ++ v :: after) := by
  have hdistinct := disablingOrder_distinct nodes
  have hvalues : (nodes.values.map Vertex.id).Nodup := map_id_values hown ▸ nodes.keys_nodup
  refine ⟨?_, hdistinct, fun u v hu huv hne hback => ?_⟩
  · refine (List.perm_ext_iff_of_nodup hdistinct.of_map hvalues.of_map).mpr fun v => ?_
    rw [mem_disablingOrder hown, mem_values_iff_stored hown]
  · have hv : v ∈ disablingOrder nodes := (mem_disablingOrder hown).mpr huv.2
    obtain ⟨front, after, hsplit⟩ := List.append_of_mem hv
    have hbefore : u ∈ front := disablingOrder_before hown hu huv hne hback hsplit
    obtain ⟨before, between, rfl⟩ := List.append_of_mem hbefore
    exact ⟨before, between, after, hsplit⟩

/-- A service on a cycle comes before the one that it needs beside the cycle, and that refers to
itself. -/
theorem disablingOrder_exact_tangle :
    let c : Vertex Unit := ⟨⟨"c"⟩, [⟨"b"⟩, ⟨"d"⟩], ()⟩
    let d : Vertex Unit := ⟨⟨"d"⟩, [⟨"d"⟩, ⟨"d"⟩], ()⟩
    OwnNames tangle.get? ∧ tangle.get? c.id = some c ∧ Refers tangle.get? c d ∧
      ¬ Reaches tangle.get? d c ∧
      (disablingOrder tangle).map (fun v => v.id.text) = ["a", "b", "c", "d"] ∧
      ∃ before between after, disablingOrder tangle = before ++ c :: between ++ d :: after := by
  intro c d
  have hown : OwnNames tangle.get? := ownNames_of_entries (by decide)
  have hrefers : Refers tangle.get? c d := ⟨by decide, rfl⟩
  have hback : ¬ Reaches tangle.get? d c := by
    intro hreaches
    have hmem : c ∈ enablingBranch tangle d := (mem_enablingBranch hown rfl).mpr hreaches
    have hid : c.id ∈ (enablingBranch tangle d).map Vertex.id := List.mem_map_of_mem hmem
    revert hid
    decide
  have hne : d ≠ c := fun heq => absurd (congrArg Vertex.id heq) (by decide)
  exact ⟨hown, rfl, hrefers, hback, by decide,
    (disablingOrder_exact tangle hown).2.2 c d rfl hrefers hne hback⟩

end ServiceLifecycle.Graph

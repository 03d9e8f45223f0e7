import Mathlib.Data.List.Nodup
import Mathlib.Logic.Relation
import ServiceLifecycle.Graph.Branch
import ServiceLifecycle.Proofs.Index

/-!
# What an enabling branch lists

The walk from a vertex of an arbitrary graph leaves every vertex that can be
reached from it, each in one block, and whatever a vertex depends on is left
before it unless the two lie on a cycle.

* **invariant** — between two steps the names entered are those of the vertices
  left and of the vertices on the way down to the present one (`Walk.Sound`);
* **visit** — a visit keeps the invariant, leaves only what can be reached and
  never runs out of depth (`Walk.visits`);
* **branch** — the whole walk (`branch_spec`, `walkFrom_depth`), from which
  `enablingBranch_correct` is put together.
-/

namespace ServiceLifecycle.Graph

open Relation

variable {τ : Type}

/-- `v` depends on `u`, which is in the graph. -/
def Refers (find : ServiceId → Option (Vertex τ)) (v u : Vertex τ) : Prop :=
  u.id ∈ v.dependencies ∧ find u.id = some u

/-- `u` can be reached from `v` along dependencies that are in the graph. -/
abbrev Reaches (find : ServiceId → Option (Vertex τ)) : Vertex τ → Vertex τ → Prop :=
  ReflTransGen (Refers find)

/-- Every vertex is stored under its own name. -/
def OwnNames (find : ServiceId → Option (Vertex τ)) : Prop :=
  ∀ id v, find id = some v → v.id = id

/-- The block of a vertex in a branch: twice if it depends on itself and nothing else. -/
def copies (v : Vertex τ) : List (Vertex τ) :=
  List.replicate (if v.dependsOnlyOnItself then 2 else 1) v

theorem mem_copies {u v : Vertex τ} : u ∈ copies v ↔ u = v := by
  unfold copies
  split <;> simp

theorem getLast?_copies (v : Vertex τ) : (copies v).getLast? = some v := by
  unfold copies
  split <;> rfl

theorem mem_blocks {order : List (Vertex τ)} {v : Vertex τ} :
    v ∈ order.flatMap copies ↔ v ∈ order := by
  simp [List.mem_flatMap, mem_copies]

/-- Two vertices of the graph with the same name are the same. -/
theorem eq_of_find {find : ServiceId → Option (Vertex τ)} {u v : Vertex τ}
    (hu : find u.id = some u) (hv : find v.id = some v) (h : u.id = v.id) : u = v := by
  rw [h, hv] at hu
  exact (Option.some.inj hu).symm

namespace Walk

variable {find : ServiceId → Option (Vertex τ)} {keys : List ServiceId}

/-- What a walk does with one dependency of `v`. -/
def descend (find : ServiceId → Option (Vertex τ)) (depth : Nat) (v : Vertex τ)
    (w : Walk τ) (d : ServiceId) : Walk τ :=
  if d = v.id then w
  else if w.entered.contains d then w.note (.again d v.id)
  else match find d with
    | some u => visit find depth u w
    | none => w.note (.unknown v.id d)

theorem visit_succ (depth : Nat) (v : Vertex τ) (w : Walk τ) :
    visit find (depth + 1) v w =
      (v.dependencies.foldl (descend find depth v) (w.enter v)).leave v := rfl

/-- What holds of a vertex and of all that are stored holds of all that the walk leaves. -/
theorem left_visit {P : Vertex τ → Prop} (hfind : ∀ id v, find id = some v → P v) (depth : Nat) :
    ∀ v : Vertex τ, P v → ∀ w : Walk τ, (∀ u ∈ w.left, P u) →
      ∀ u ∈ (visit find depth v w).left, P u := by
  induction depth with
  | zero => exact fun _ _ _ hw => hw
  | succ depth ih =>
    intro v hv w hw
    have hthrough : ∀ u ∈ (v.dependencies.foldl (descend find depth v) (w.enter v)).left, P u := by
      refine List.foldlRecOn (motive := fun w : Walk τ => ∀ u ∈ w.left, P u) v.dependencies
        (descend find depth v) hw fun w hw d _ => ?_
      unfold descend
      split_ifs
      · exact hw
      · exact hw
      · cases hd : find d with
        | none => exact hw
        | some u => exact ih u (hfind d u hd) w hw
    intro u hu
    have hmem : u = v ∨ u ∈ (v.dependencies.foldl (descend find depth v) (w.enter v)).left := by
      rw [visit_succ] at hu
      unfold leave at hu
      dsimp only at hu
      split at hu <;> simpa using hu
    rcases hmem with rfl | hu
    · exact hv
    · exact hthrough u hu

/-! ## Depth -/

/-- The names of the graph that the walk has not entered. -/
def unentered (keys : List ServiceId) (w : Walk τ) : List ServiceId :=
  keys.filter fun k => !w.entered.contains k

theorem unentered_le {w w' : Walk τ} (h : ∀ k ∈ w.entered, k ∈ w'.entered) :
    (unentered keys w').length ≤ (unentered keys w).length := by
  refine (List.monotone_filter_right keys ?_).length_le
  intro k hk
  simp only [Bool.not_eq_true', List.contains_eq_mem, decide_eq_false_iff_not] at hk ⊢
  exact fun hin => hk (h k hin)

/-- Entering a vertex of the graph for the first time uses up a name. -/
theorem unentered_enter {w : Walk τ} {v : Vertex τ} (hkey : v.id ∈ keys)
    (hnew : v.id ∉ w.entered) :
    (unentered keys (w.enter v)).length < (unentered keys w).length := by
  have hsub : (unentered keys (w.enter v)).Sublist (unentered keys w) := by
    refine List.monotone_filter_right keys ?_
    intro k hk
    simp only [enter, Bool.not_eq_true', List.contains_eq_mem, List.mem_cons,
      decide_eq_false_iff_not] at hk ⊢
    exact fun hin => hk (.inr hin)
  refine Nat.lt_of_le_of_ne hsub.length_le fun heq => ?_
  have hin : v.id ∈ unentered keys w := by simp [unentered, hkey, hnew]
  rw [← hsub.eq_of_length heq] at hin
  simp [unentered, enter] at hin

theorem entered_leave (w : Walk τ) (v : Vertex τ) : (w.leave v).entered = w.entered := rfl

theorem entered_subset_descend {depth : Nat}
    (hvisit : ∀ (u : Vertex τ) (w : Walk τ), ∀ k ∈ w.entered, k ∈ (visit find depth u w).entered)
    (v : Vertex τ) (w : Walk τ) (d : ServiceId) :
    ∀ k ∈ w.entered, k ∈ (descend find depth v w d).entered := by
  intro k hk
  unfold descend
  split_ifs
  · exact hk
  · exact hk
  · cases find d with
    | none => exact hk
    | some u => exact hvisit u w k hk

theorem entered_subset_foldl {depth : Nat}
    (hvisit : ∀ (u : Vertex τ) (w : Walk τ), ∀ k ∈ w.entered, k ∈ (visit find depth u w).entered)
    (v : Vertex τ) (ds : List ServiceId) (w : Walk τ) :
    ∀ k ∈ w.entered, k ∈ (ds.foldl (descend find depth v) w).entered := by
  induction ds generalizing w with
  | nil => intro k hk; exact hk
  | cons d ds ih => intro k hk; exact ih _ k (entered_subset_descend hvisit v w d k hk)

/-- A walk never forgets what it has entered. -/
theorem entered_subset_visit (depth : Nat) :
    ∀ (v : Vertex τ) (w : Walk τ), ∀ k ∈ w.entered, k ∈ (visit find depth v w).entered := by
  induction depth with
  | zero => intro v w k hk; exact hk
  | succ depth ih =>
    intro v w k hk
    rw [visit_succ, entered_leave]
    exact entered_subset_foldl ih v _ _ k (List.mem_cons_of_mem _ hk)

/-- Two depths give the same visits, if both cover the names still to be entered. -/
def SameVisits (find : ServiceId → Option (Vertex τ)) (keys : List ServiceId)
    (depth depth' : Nat) : Prop :=
  ∀ (v : Vertex τ) (w : Walk τ), find v.id = some v → v.id ∉ w.entered →
    (unentered keys w).length ≤ depth → (unentered keys w).length ≤ depth' →
    visit find depth v w = visit find depth' v w

theorem SameVisits.foldl {depth depth' : Nat} (hsame : SameVisits find keys depth depth')
    (hown : OwnNames find) (v : Vertex τ) (ds : List ServiceId) {w : Walk τ}
    (h : (unentered keys w).length ≤ depth) (h' : (unentered keys w).length ≤ depth') :
    ds.foldl (descend find depth v) w = ds.foldl (descend find depth' v) w := by
  induction ds generalizing w with
  | nil => rfl
  | cons d ds ih =>
    have hstep : descend find depth v w d = descend find depth' v w d := by
      unfold descend
      split_ifs with hself hin
      · rfl
      · rfl
      · cases hd : find d with
        | none => rfl
        | some u =>
          obtain rfl := hown d u hd
          exact hsame u w hd (by simpa using hin) h h'
    have hmono : (unentered keys (descend find depth v w d)).length ≤ _ :=
      unentered_le (entered_subset_descend (entered_subset_visit depth) v w d)
    rw [List.foldl_cons, List.foldl_cons, ← hstep]
    exact ih (Nat.le_trans hmono h) (Nat.le_trans hmono h')

theorem sameVisits (hkeys : ∀ id v, find id = some v → id ∈ keys) (hown : OwnNames find)
    (depth : Nat) : ∀ depth', SameVisits find keys depth depth' := by
  induction depth with
  | zero =>
    intro depth' v w hv hnew h0 _
    have := unentered_enter (hkeys _ v hv) hnew
    omega
  | succ depth ih =>
    intro depth' v w hv hnew hle hle'
    have hlt := unentered_enter (hkeys _ v hv) hnew
    obtain ⟨depth', rfl⟩ : ∃ n, depth' = n + 1 := ⟨depth' - 1, by omega⟩
    rw [visit_succ, visit_succ, (ih depth').foldl hown v _ (by omega) (by omega)]

/-! ## The invariant -/

/-- What holds between two steps of a walk that has left the vertices `order`, the latest
first, and is on its way down through the vertices `stack`. -/
structure Sound (find : ServiceId → Option (Vertex τ)) (stack order : List (Vertex τ))
    (w : Walk τ) : Prop where
  left : w.left = order.flatMap copies
  entered : ∀ id, id ∈ w.entered ↔ (∃ v ∈ order, v.id = id) ∨ ∃ v ∈ stack, v.id = id
  stored : ∀ v ∈ order, find v.id = some v
  distinct : ((stack ++ order).map Vertex.id).Nodup
  closed : ∀ v ∈ order, ∀ u, Refers find v u → u.id ≠ v.id → u.id ∈ w.entered
  ordered : ∀ pre v post, order = pre ++ v :: post →
    ∀ u, Refers find v u → u ≠ v → ¬ Reaches find u v → u ∈ post

namespace Sound

variable {stack order : List (Vertex τ)} {w : Walk τ} {v : Vertex τ}

theorem note (h : Sound find stack order w) (n : Note) : Sound find stack order (w.note n) :=
  ⟨h.left, h.entered, h.stored, h.distinct, h.closed, h.ordered⟩

theorem enter (h : Sound find stack order w) (hnew : v.id ∉ w.entered) :
    Sound find (v :: stack) order (w.enter v) where
  left := h.left
  entered := by
    intro id
    rw [Walk.enter, List.mem_cons, h.entered id]
    constructor
    · rintro (rfl | hleft | ⟨s, hs, rfl⟩)
      · exact .inr ⟨v, List.mem_cons_self, rfl⟩
      · exact .inl hleft
      · exact .inr ⟨s, List.mem_cons_of_mem _ hs, rfl⟩
    · rintro (hleft | ⟨s, hs, rfl⟩)
      · exact .inr (.inl hleft)
      · rcases List.mem_cons.mp hs with rfl | hs
        · exact .inl rfl
        · exact .inr (.inr ⟨s, hs, rfl⟩)
  stored := h.stored
  distinct := by
    rw [List.cons_append, List.map_cons, List.nodup_cons]
    refine ⟨fun hin => hnew ((h.entered _).mpr ?_), h.distinct⟩
    obtain ⟨x, hx, heq⟩ := List.mem_map.mp hin
    rcases List.mem_append.mp hx with hx | hx
    · exact .inr ⟨x, hx, heq⟩
    · exact .inl ⟨x, hx, heq⟩
  closed := fun x hx u hu hne => List.mem_cons_of_mem _ (h.closed x hx u hu hne)
  ordered := h.ordered

/-- Leaving a vertex keeps the invariant once all its dependencies have been entered. What
it depends on and is not on the way down has been left by then. -/
theorem leave (h : Sound find (v :: stack) order w) (hv : find v.id = some v)
    (hstack : ∀ s ∈ stack, find s.id = some s ∧ Reaches find s v)
    (hdone : ∀ u, Refers find v u → u.id ≠ v.id → u.id ∈ w.entered) :
    Sound find stack (v :: order) (w.leave v) where
  left := by
    rw [Walk.leave, List.flatMap_cons, copies, h.left]
    split <;> simp_all
  entered := by
    intro id
    rw [entered_leave, h.entered id]
    simp only [List.mem_cons, exists_eq_or_imp]
    exact or_left_comm.trans or_assoc.symm
  stored := by
    intro x hx
    rcases List.mem_cons.mp hx with rfl | hx
    · exact hv
    · exact h.stored x hx
  distinct := (List.perm_middle.map Vertex.id).nodup_iff.mpr h.distinct
  closed := by
    intro x hx u hu hne
    rcases List.mem_cons.mp hx with rfl | hx
    · exact hdone u hu hne
    · exact h.closed x hx u hu hne
  ordered := by
    intro pre x post heq u hu hne hback
    cases pre with
    | cons p pre =>
      rw [List.cons_append, List.cons.injEq] at heq
      exact h.ordered pre x post heq.2 u hu hne hback
    | nil =>
      rw [List.nil_append, List.cons.injEq] at heq
      obtain ⟨rfl, rfl⟩ := heq
      have hid : u.id ≠ v.id := fun hid => hne (eq_of_find hu.2 hv hid)
      rcases (h.entered u.id).mp (hdone u hu hid) with ⟨x, hx, hxu⟩ | ⟨s, hs, hsu⟩
      · exact eq_of_find (h.stored x hx) hu.2 hxu ▸ hx
      · -- a vertex on the way down reaches `v`, so this one would lie on a cycle with it
        rcases List.mem_cons.mp hs with rfl | hs
        · exact absurd hsu.symm hid
        · have hsame := eq_of_find (hstack s hs).1 hu.2 hsu
          exact absurd (hsame ▸ (hstack s hs).2) hback

end Sound

/-! ## Visits -/

/-- A visit of a vertex that has not been entered yet leaves it last, and before it only what it
reaches, if the depth covers the names still to be entered. -/
def Visits (find : ServiceId → Option (Vertex τ)) (keys : List ServiceId) (depth : Nat) : Prop :=
  ∀ (v : Vertex τ) (w : Walk τ) (stack order : List (Vertex τ)),
    Sound find stack order w → find v.id = some v → v.id ∉ w.entered →
    (∀ s ∈ stack, find s.id = some s ∧ Reaches find s v) →
    (unentered keys w).length ≤ depth →
    ∃ new, Sound find stack (v :: new ++ order) (visit find depth v w) ∧
      ∀ x ∈ new, Reaches find v x

section

variable {depth : Nat} {v : Vertex τ} {stack : List (Vertex τ)}

/-- A dependency that is in the graph has been entered once it has been looked at. -/
theorem Visits.dependency (hvisits : Visits find keys depth) (hown : OwnNames find)
    (hv : find v.id = some v) (hstack : ∀ s ∈ stack, find s.id = some s ∧ Reaches find s v)
    {d : ServiceId} (hd : d ∈ v.dependencies) {w : Walk τ} {order : List (Vertex τ)}
    (h : Sound find (v :: stack) order w) (hdepth : (unentered keys w).length ≤ depth) :
    ∃ new, Sound find (v :: stack) (new ++ order) (descend find depth v w d) ∧
      (∀ x ∈ new, Reaches find v x) ∧
      (d ≠ v.id → ∀ u, find d = some u → d ∈ (descend find depth v w d).entered) := by
  unfold descend
  split_ifs with hself hin
  · exact ⟨[], h, by simp, fun hne => absurd hself hne⟩
  · exact ⟨[], h.note _, by simp, fun _ _ _ => List.contains_iff_mem.mp hin⟩
  · cases hfind : find d with
    | none => exact ⟨[], h.note _, by simp, by simp⟩
    | some u =>
      obtain rfl := hown d u hfind
      have hvu : Refers find v u := ⟨hd, hfind⟩
      have hstack' : ∀ s ∈ v :: stack, find s.id = some s ∧ Reaches find s u := by
        intro s hs
        rcases List.mem_cons.mp hs with rfl | hs
        · exact ⟨hv, .single hvu⟩
        · exact ⟨(hstack s hs).1, (hstack s hs).2.tail hvu⟩
      obtain ⟨new, hnew, hreach⟩ :=
        hvisits u w (v :: stack) order h hfind (by simpa using hin) hstack' hdepth
      refine ⟨u :: new, hnew, ?_, fun _ _ _ => ?_⟩
      · intro x hx
        rcases List.mem_cons.mp hx with rfl | hx
        · exact .single hvu
        · exact .head hvu (hreach x hx)
      · exact (hnew.entered u.id).mpr (.inl ⟨u, by simp, rfl⟩)

/-- The dependencies are looked at one after the other. -/
theorem Visits.dependencies (hvisits : Visits find keys depth) (hown : OwnNames find)
    (hv : find v.id = some v) (hstack : ∀ s ∈ stack, find s.id = some s ∧ Reaches find s v)
    (ds : List ServiceId) (hds : ∀ d ∈ ds, d ∈ v.dependencies) :
    ∀ {w : Walk τ} {order : List (Vertex τ)}, Sound find (v :: stack) order w →
      (unentered keys w).length ≤ depth →
      ∃ new, Sound find (v :: stack) (new ++ order) (ds.foldl (descend find depth v) w) ∧
        (∀ x ∈ new, Reaches find v x) ∧
        ∀ d ∈ ds, d ≠ v.id → ∀ u, find d = some u →
          d ∈ (ds.foldl (descend find depth v) w).entered := by
  induction ds with
  | nil => exact fun h _ => ⟨[], h, by simp, by simp⟩
  | cons d ds ih =>
    intro w order h hdepth
    rw [List.forall_mem_cons] at hds
    obtain ⟨new₁, hsound₁, hreach₁, hseen⟩ :=
      hvisits.dependency hown hv hstack hds.1 h hdepth
    have hdepth' : (unentered keys (descend find depth v w d)).length ≤ depth :=
      Nat.le_trans (unentered_le (entered_subset_descend (entered_subset_visit depth) v w d)) hdepth
    obtain ⟨new₂, hsound₂, hreach₂, hseen₂⟩ := ih hds.2 hsound₁ hdepth'
    refine ⟨new₂ ++ new₁, by simpa using hsound₂, ?_, ?_⟩
    · intro x hx
      rcases List.mem_append.mp hx with hx | hx
      · exact hreach₂ x hx
      · exact hreach₁ x hx
    · intro x hx hne u hu
      rcases List.mem_cons.mp hx with rfl | hx
      · -- what has been entered stays so
        exact entered_subset_foldl (entered_subset_visit depth) v ds _ _ (hseen hne u hu)
      · exact hseen₂ x hx hne u hu

end

theorem visits (hkeys : ∀ id v, find id = some v → id ∈ keys) (hown : OwnNames find)
    (depth : Nat) : Visits find keys depth := by
  induction depth with
  | zero =>
    intro v w stack order _ hv hnew _ h0
    have := unentered_enter (hkeys _ v hv) hnew
    omega
  | succ depth ih =>
    intro v w stack order hsound hv hnew hstack hle
    have hlt := unentered_enter (hkeys _ v hv) hnew
    obtain ⟨new, hsound', hreach, hseen⟩ := ih.dependencies hown hv hstack v.dependencies
      (fun _ h => h) (hsound.enter hnew) (by omega)
    refine ⟨new, ?_, hreach⟩
    rw [visit_succ]
    exact hsound'.leave hv hstack fun u hu hne => hseen u.id hu.1 hne u hu.2

end Walk

/-! ## Branches -/

variable {nodes : Table ServiceId (Vertex τ)} {target : Vertex τ}

theorem Walk.sound_nil (find : ServiceId → Option (Vertex τ)) : Walk.Sound find [] [] {} :=
  ⟨rfl, by simp, by simp, by simp, by simp, by simp⟩

theorem size_le_depthBound (n : Nat) : n ≤ depthBound n := by
  unfold depthBound
  have : n + 1 ≤ (n + 1) * (n + 1) := Nat.le_mul_of_pos_left _ (Nat.succ_pos n)
  omega

theorem unentered_nil_le (nodes : Table ServiceId (Vertex τ)) :
    (Walk.unentered nodes.keys ({} : Walk τ)).length ≤ nodes.size := by
  refine Nat.le_trans (List.length_filter_le _ _) ?_
  simp [Table.keys, Table.size]

/-- A list of distinct vertices with everything that `target` reaches, `target` last, each
vertex after those it refers to unless the two lie on a cycle. -/
structure DependencyFirst (find : ServiceId → Option (Vertex τ)) (target : Vertex τ)
    (order : List (Vertex τ)) : Prop where
  distinct : (order.map Vertex.id).Nodup
  last : order.getLast? = some target
  mem_iff : ∀ v, v ∈ order ↔ Reaches find target v
  before : ∀ pre v post, order = pre ++ v :: post →
    ∀ u, Refers find v u → u ≠ v → ¬ Reaches find u v → u ∈ pre

/-- The branch of a vertex is such a list, in which a vertex that depends on itself and
nothing else is doubled. -/
theorem branch_spec (hown : OwnNames nodes.get?) (htarget : nodes.get? target.id = some target) :
    ∃ order, enablingBranch nodes target = order.flatMap copies ∧
      DependencyFirst nodes.get? target order := by
  have hdepth := Nat.le_trans (unentered_nil_le nodes) (size_le_depthBound nodes.size)
  obtain ⟨new, hsound, hreach⟩ := Walk.visits (fun _ _ => Table.mem_keys_of_get?) hown
    (depthBound nodes.size) target {} [] [] (Walk.sound_nil _) htarget (by simp) (by simp) hdepth
  rw [List.append_nil] at hsound
  -- nothing is on the way down any more, so what has been entered has been left
  have hleft : ∀ v, Reaches nodes.get? target v → v ∈ target :: new := by
    intro v hv
    induction hv with
    | refl => exact List.mem_cons_self
    | @tail v u _ hvu ih =>
      by_cases hid : u.id = v.id
      · exact eq_of_find hvu.2 (hsound.stored v ih) hid ▸ ih
      · rcases (hsound.entered u.id).mp (hsound.closed v ih u hvu hid) with ⟨x, hx, hxu⟩ | ⟨s, hs, _⟩
        · exact eq_of_find (hsound.stored x hx) hvu.2 hxu ▸ hx
        · simp at hs
  refine ⟨(target :: new).reverse, ?_, {
    distinct := by
      rw [List.map_reverse, List.nodup_reverse]
      exact hsound.distinct
    last := by simp
    mem_iff v := by
      rw [List.mem_reverse]
      constructor
      · intro hv
        rcases List.mem_cons.mp hv with rfl | hv
        · exact .refl
        · exact hreach v hv
      · exact hleft v
    before pre v post heq u hu hne hback := by
      rw [← List.mem_reverse]
      refine hsound.ordered post.reverse v pre.reverse ?_ u hu hne hback
      rw [← List.reverse_inj, heq]
      simp }⟩
  rw [enablingBranch, walkFrom, Walk.branch, hsound.left, List.reverse_flatMap]
  congr 1
  funext v
  exact List.reverse_replicate ..

/-- No depth beyond the number of vertices changes a walk: it comes to its end by itself. -/
theorem walkFrom_depth (hown : OwnNames nodes.get?)
    (htarget : nodes.get? target.id = some target) {depth : Nat} (hdepth : nodes.size ≤ depth) :
    Walk.visit nodes.get? depth target {} = walkFrom nodes target :=
  Walk.sameVisits (fun _ _ => Table.mem_keys_of_get?) hown depth _ target {} htarget (by simp)
    (Nat.le_trans (unentered_nil_le nodes) hdepth)
    (Nat.le_trans (unentered_nil_le nodes) (size_le_depthBound nodes.size))

/-- Names are the vertices' own as soon as the entries say so. -/
theorem ownNames_of_entries (h : ∀ e ∈ nodes.entries, e.2.id = e.1) : OwnNames nodes.get? := by
  intro id v hv
  obtain ⟨e, he, rfl⟩ := Option.map_eq_some_iff.mp hv
  have hkey : e.1 = id := by simpa using List.find?_some he
  rw [h e (List.mem_of_find?_eq_some he), hkey]

/-- In a list split in two, what is only in the first part stands before what is only in
the second. -/
theorem index_lt_of_append {α : Type} {front back : List α} {a b : α} {i j : Nat}
    (ha : a ∉ back) (hb : b ∉ front) (hi : (front ++ back)[i]? = some a)
    (hj : (front ++ back)[j]? = some b) : i < j := by
  have hlt : i < front.length := by
    by_contra hge
    rw [List.getElem?_append_right (by omega)] at hi
    exact ha (List.mem_of_getElem? hi)
  have hle : front.length ≤ j := by
    by_contra hlt'
    rw [List.getElem?_append_left (by omega)] at hj
    exact hb (List.mem_of_getElem? hj)
  omega

theorem dependsOnlyOnItself_iff (v : Vertex τ) :
    v.dependsOnlyOnItself ↔ v.dependencies ≠ [] ∧ ∀ d ∈ v.dependencies, d = v.id := by
  simp [Vertex.dependsOnlyOnItself]

/-- In a list of distinct vertices only the one at a place has its name. -/
theorem id_ne_of_distinct {pre post : List (Vertex τ)} {v : Vertex τ}
    (h : ((pre ++ v :: post).map Vertex.id).Nodup) :
    (∀ u ∈ pre, u.id ≠ v.id) ∧ ∀ u ∈ post, u.id ≠ v.id := by
  rw [List.map_append, List.map_cons, List.nodup_middle, List.nodup_cons, List.mem_append] at h
  refine ⟨fun u hu heq => h.1 (.inl ?_), fun u hu heq => h.1 (.inr ?_)⟩
  · exact heq ▸ List.mem_map_of_mem hu
  · exact heq ▸ List.mem_map_of_mem hu

/-- **Branches on arbitrary graphs.** The walk from a vertex of a graph comes to its end,
and the branch consists of exactly what the vertex reaches, the vertex last. Each
vertex stands in one place, doubled if it depends on itself and nothing else, and every
vertex stands before those that refer to it, unless it reaches them in its turn. -/
theorem enablingBranch_correct (nodes : Table ServiceId (Vertex τ)) (target : Vertex τ)
    (hown : OwnNames nodes.get?) (htarget : nodes.get? target.id = some target) :
    (∀ depth, nodes.size ≤ depth →
      Walk.visit nodes.get? depth target {} = walkFrom nodes target) ∧
    (∀ v, v ∈ enablingBranch nodes target ↔ Reaches nodes.get? target v) ∧
    (enablingBranch nodes target).getLast? = some target ∧
    (∀ v, Reaches nodes.get? target v → ∃ before after,
      enablingBranch nodes target = before ++ List.replicate
        (if v.dependencies ≠ [] ∧ ∀ d ∈ v.dependencies, d = v.id then 2 else 1) v ++ after ∧
      (∀ u ∈ before, u.id ≠ v.id) ∧ ∀ u ∈ after, u.id ≠ v.id) ∧
    (∀ u v, Reaches nodes.get? target u → Refers nodes.get? u v → v ≠ u →
      ¬ Reaches nodes.get? v u → ∀ i j : Nat, (enablingBranch nodes target)[i]? = some v →
        (enablingBranch nodes target)[j]? = some u → i < j) := by
  obtain ⟨order, hbranch, hspec⟩ := branch_spec hown htarget
  rw [hbranch]
  refine ⟨fun depth => walkFrom_depth hown htarget, ?_, ?_, ?_, ?_⟩
  · intro v
    rw [mem_blocks, hspec.mem_iff]
  · obtain ⟨init, rfl⟩ := List.getLast?_eq_some_iff.mp hspec.last
    rw [List.flatMap_append, List.getLast?_append]
    simp [getLast?_copies]
  · intro v hv
    obtain ⟨pre, post, rfl⟩ := List.append_of_mem ((hspec.mem_iff v).mpr hv)
    obtain ⟨hpre, hpost⟩ := id_ne_of_distinct hspec.distinct
    refine ⟨pre.flatMap copies, post.flatMap copies, ?_, ?_, ?_⟩
    · simp [copies, dependsOnlyOnItself_iff]
    · exact fun u hu => hpre u (mem_blocks.mp hu)
    · exact fun u hu => hpost u (mem_blocks.mp hu)
  · intro u v hu huv hne hback i j hi hj
    obtain ⟨pre, post, rfl⟩ := List.append_of_mem ((hspec.mem_iff u).mpr hu)
    have hv : v ∈ pre := hspec.before pre u post rfl v huv hne hback
    obtain ⟨hpre, -⟩ := id_ne_of_distinct hspec.distinct
    rw [List.flatMap_append] at hi hj
    refine index_lt_of_append ?_ ?_ hi hj
    · rw [mem_blocks]
      intro hback
      have hnodup := hspec.distinct
      rw [List.map_append, List.nodup_append] at hnodup
      exact hnodup.2.2 v.id (List.mem_map_of_mem hv) v.id (List.mem_map_of_mem hback) rfl
    · rw [mem_blocks]
      exact fun hmem => hpre u hmem rfl

/-- A graph with a cycle, a self-reference beside others, one alone and a dangling one. -/
def tangle : Table ServiceId (Vertex Unit) := .ofList
  [(⟨"a"⟩, ⟨⟨"a"⟩, [⟨"a"⟩, ⟨"b"⟩, ⟨"d"⟩], ()⟩), (⟨"b"⟩, ⟨⟨"b"⟩, [⟨"c"⟩, ⟨"gone"⟩], ()⟩),
   (⟨"c"⟩, ⟨⟨"c"⟩, [⟨"b"⟩, ⟨"d"⟩], ()⟩), (⟨"d"⟩, ⟨⟨"d"⟩, [⟨"d"⟩, ⟨"d"⟩], ()⟩)]

/-- The branch through the tangle: the services on the cycle come after the one they need. -/
theorem enablingBranch_correct_tangle :
    OwnNames tangle.get? ∧
    tangle.get? ⟨"a"⟩ = some ⟨⟨"a"⟩, [⟨"a"⟩, ⟨"b"⟩, ⟨"d"⟩], ()⟩ ∧
    (enablingBranch tangle ⟨⟨"a"⟩, [⟨"a"⟩, ⟨"b"⟩, ⟨"d"⟩], ()⟩).map (fun v => v.id.text) =
      ["d", "d", "c", "b", "a"] ∧
    (enablingBranch tangle ⟨⟨"a"⟩, [⟨"a"⟩, ⟨"b"⟩, ⟨"d"⟩], ()⟩).getLast? =
      some ⟨⟨"a"⟩, [⟨"a"⟩, ⟨"b"⟩, ⟨"d"⟩], ()⟩ :=
  have hown : OwnNames tangle.get? := ownNames_of_entries (by decide)
  ⟨hown, by rfl, by decide, (enablingBranch_correct tangle _ hown (by rfl)).2.2.1⟩

end ServiceLifecycle.Graph

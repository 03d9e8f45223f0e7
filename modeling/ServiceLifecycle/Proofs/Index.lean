import Mathlib.Data.List.Nodup
import ServiceLifecycle.Property
import ServiceLifecycle.Referrers

/-!
# Look-ups after edits

What tables, ordered sets and the record of referrers show after they were edited,
as far as the registry edits them. The record of referrers is looked at edge by
edge: which edges are there after one was added or removed, and after a list of them
was.
-/

namespace ServiceLifecycle

/-! ## Tables -/

namespace Table

variable {κ α : Type} [DecidableEq κ]

theorem find?_filterMap_value (f : α → Option α) (k : κ) (es : List (κ × α))
    (hnodup : (es.map Prod.fst).Nodup) :
    ((es.filterMap fun e => (f e.2).map (e.1, ·)).find? fun e => e.1 = k).map Prod.snd =
      ((es.find? fun e => e.1 = k).map Prod.snd).bind f := by
  induction es with
  | nil => rfl
  | cons e rest ih =>
    rw [List.map_cons, List.nodup_cons] at hnodup
    by_cases hk : e.1 = k
    · have hrest : ∀ e' ∈ rest, ¬ e'.1 = k := by
        intro e' he' heq
        exact hnodup.1 (hk ▸ heq ▸ List.mem_map_of_mem he')
      cases hf : f e.2 with
      | some b => simp [hf, hk]
      | none =>
        rw [List.filterMap_cons_none (by simp [hf]), ih hnodup.2,
          List.find?_eq_none.mpr (by simpa using hrest)]
        simp [hk, hf]
    · cases hf : f e.2 with
      | some b => simpa [hf, hk] using ih hnodup.2
      | none => simpa [hf, hk] using ih hnodup.2

/-- After the values were filtered a key shows what became of its value. -/
theorem get?_filterMapValues (f : α → Option α) (t : Table κ α) (k : κ) :
    (t.filterMapValues f).get? k = (t.get? k).bind f :=
  find?_filterMap_value f k t.entries t.keys_nodup

theorem mem_keys_of_get? {t : Table κ α} {k : κ} {a : α} (h : t.get? k = some a) :
    k ∈ t.keys := by
  rw [mem_keys_iff, h]
  rfl

theorem get?_eq_some_iff {t : Table κ α} {k : κ} {a : α} :
    t.get? k = some a ↔ (k, a) ∈ t.entries := by
  constructor
  · intro h
    obtain ⟨e, he, rfl⟩ := Option.map_eq_some_iff.mp h
    have hkey : e.1 = k := by simpa using List.find?_some he
    exact hkey ▸ List.mem_of_find?_eq_some he
  · intro h
    cases hget : t.get? k with
    | none =>
      rw [get?, Option.map_eq_none_iff, List.find?_eq_none] at hget
      exact absurd (decide_eq_true rfl) (hget (k, a) h)
    | some b =>
      obtain ⟨e, he, rfl⟩ := Option.map_eq_some_iff.mp hget
      have hkey : e.1 = k := by simpa using List.find?_some he
      -- no key stands in two entries
      have heq := List.inj_on_of_nodup_map t.keys_nodup (List.mem_of_find?_eq_some he) h hkey
      rw [heq]

theorem mem_values_iff {t : Table κ α} {a : α} : a ∈ t.values ↔ ∃ k, t.get? k = some a := by
  simp only [values, List.mem_map, Prod.exists, get?_eq_some_iff, exists_eq_right]

/-- A table made from a list shows only what stands in the list. -/
theorem mem_of_get?_ofList {pairs : List (κ × α)} {k : κ} {a : α}
    (h : (ofList pairs).get? k = some a) : (k, a) ∈ pairs := by
  have gen : ∀ (ps : List (κ × α)) (t : Table κ α),
      (ps.foldl (fun t e => t.insert e.1 e.2) t).get? k = some a →
      t.get? k = some a ∨ (k, a) ∈ ps := by
    intro ps
    induction ps with
    | nil => exact fun t h => .inl h
    | cons e rest ih =>
      intro t h
      rcases ih _ h with h | h
      · rw [get?_insert] at h
        split at h
        · next hk =>
          obtain rfl := Option.some.inj h
          exact .inr (hk ▸ List.mem_cons_self)
        · exact .inl h
      · exact .inr (List.mem_cons_of_mem _ h)
  exact (gen pairs empty h).resolve_left (by simp)

/-- A table made from a list knows every key in the list. -/
theorem get?_ofList_isSome {pairs : List (κ × α)} {k : κ} {a : α} (h : (k, a) ∈ pairs) :
    ∃ b, (ofList pairs).get? k = some b := by
  have gen : ∀ (ps : List (κ × α)) (t : Table κ α), (t.get? k).isSome ∨ (k, a) ∈ ps →
      ((ps.foldl (fun t e => t.insert e.1 e.2) t).get? k).isSome := by
    intro ps
    induction ps with
    | nil => simp
    | cons e rest ih =>
      intro t h
      refine ih _ ?_
      rw [get?_insert]
      by_cases hk : k = e.1
      · simp [hk]
      · rw [if_neg hk]
        refine h.imp_right fun hin => ?_
        rcases List.mem_cons.mp hin with heq | hin
        · exact absurd (congrArg Prod.fst heq) hk
        · exact hin
  exact Option.isSome_iff_exists.mp (gen pairs empty (.inr h))

theorem put_of_new {k : κ} {a : α} {es : List (κ × α)} (h : ∀ e ∈ es, e.1 ≠ k) :
    put k a es = es ++ [(k, a)] := by
  induction es with
  | nil => rfl
  | cons e rest ih =>
    rw [put, if_neg (h e List.mem_cons_self), ih fun e he => h e (List.mem_cons_of_mem _ he)]
    rfl

/-- A new entry goes last. -/
theorem entries_insert_new {t : Table κ α} {k : κ} (a : α) (h : t.contains k = false) :
    (t.insert k a).entries = t.entries ++ [(k, a)] := by
  refine put_of_new fun e he heq => ?_
  have hget : t.get? e.1 = some e.2 := get?_eq_some_iff.mpr he
  rw [contains, ← heq, hget] at h
  cases h

/-- A table made from a list without repeated keys has the entries of the list, in their order. -/
theorem entries_ofList {pairs : List (κ × α)} (h : (pairs.map Prod.fst).Nodup) :
    (ofList pairs).entries = pairs := by
  have gen : ∀ (ps : List (κ × α)) (t : Table κ α), (t.keys ++ ps.map Prod.fst).Nodup →
      (ps.foldl (fun t e => t.insert e.1 e.2) t).entries = t.entries ++ ps := by
    intro ps
    induction ps with
    | nil => exact fun t _ => (List.append_nil _).symm
    | cons e rest ih =>
      intro t h
      have hnew : t.contains e.1 = false := by
        by_contra hin
        rw [Bool.not_eq_false, contains, ← mem_keys_iff] at hin
        exact (List.nodup_append.mp h).2.2 e.1 hin e.1 (by simp) rfl
      have hentries := entries_insert_new e.2 hnew
      rw [List.foldl_cons, ih, hentries, List.append_assoc, List.singleton_append]
      rwa [keys, hentries, List.map_append, List.append_assoc]
  exact gen pairs empty h

theorem contains_iff {t : Table κ α} {k : κ} : t.contains k = true ↔ ∃ a, t.get? k = some a := by
  rw [contains, Option.isSome_iff_exists]

theorem contains_insert {t : Table κ α} {k x : κ} {a : α} :
    (t.insert k a).contains x = true ↔ x = k ∨ t.contains x = true := by
  rw [contains, get?_insert]
  by_cases hx : x = k <;> simp [hx, contains]

theorem contains_erase {t : Table κ α} {k x : κ} :
    (t.erase k).contains x = true ↔ x ≠ k ∧ t.contains x = true := by
  rw [contains, get?_erase]
  by_cases hx : x = k <;> simp [hx, contains]

end Table

/-! ## Ordered sets -/

namespace OrderedSet

variable {α : Type} [DecidableEq α]

theorem contains_iff {s : OrderedSet α} {a : α} : s.contains a = true ↔ a ∈ s.toList := by
  simp [contains]

theorem mem_foldl_insert (xs : List α) (s : OrderedSet α) (x : α) :
    x ∈ (xs.foldl insert s).toList ↔ x ∈ s.toList ∨ x ∈ xs := by
  induction xs generalizing s with
  | nil => simp
  | cons y ys ih => simp [ih, or_assoc]

theorem toList_ofList_concat (xs : List α) (a : α) : (ofList (xs ++ [a])).toList =
    if a ∈ xs then (ofList xs).toList else (ofList xs).toList ++ [a] := by
  have hconcat : ofList (xs ++ [a]) = (ofList xs).insert a := by
    rw [ofList, List.foldl_append]
    rfl
  rw [hconcat, insert]
  simp only [mem_ofList]
  split <;> rfl

omit [DecidableEq α] in
/-- A set kept only if it has members has, kept or not, the same members. -/
theorem toList_getD_unless_empty (s : OrderedSet α) :
    ((if s.isEmpty then none else some s).getD empty).toList = s.toList := by
  split
  · next h => simpa [isEmpty, empty] using h.symm
  · rfl

end OrderedSet

/-! ## Referrers -/

namespace Referrers

variable {r : Referrers} {target y : ServiceId} {source x : Referrer}

theorem has_iff : r.has y x = true ↔ x ∈ r.of y := by
  rw [has, OrderedSet.contains_iff, of]

theorem mem_services_iff {id : ServiceId} : id ∈ r.services y ↔ r.has y (.service id) = true := by
  rw [services, List.mem_filterMap, has_iff]
  constructor
  · rintro ⟨referrer, hin, hid⟩
    cases referrer with
    | service other => exact Option.some.inj hid ▸ hin
    | component c => cases hid
  · exact fun hin => ⟨_, hin, rfl⟩

theorem mem_components_iff {cid : ComponentId} :
    cid ∈ r.components y ↔ .component cid ∈ r.of y := by
  rw [components, List.mem_filterMap]
  constructor
  · rintro ⟨referrer, hin, hcid⟩
    cases referrer with
    | service id => cases hcid
    | component other => exact Option.some.inj hcid ▸ hin
  · exact fun hin => ⟨_, hin, rfl⟩

theorem setOf_insert (r : Referrers) (target y : ServiceId) (set : OrderedSet Referrer) :
    setOf ⟨r.sets.insert target set⟩ y = if y = target then set else r.setOf y := by
  unfold setOf
  rw [Table.get?_insert]
  split <;> rfl

/-- After an edge was added it is there, and so is what was there before. -/
theorem has_add : (r.add target source).has y x = true ↔
    (y = target ∧ x = source) ∨ r.has y x = true := by
  rw [has, add, setOf_insert, has, OrderedSet.contains_iff, OrderedSet.contains_iff]
  by_cases hy : y = target
  · subst hy
    simp [or_comm]
  · simp [hy]

theorem setOf_remove (r : Referrers) (target y : ServiceId) (source : Referrer) :
    ((r.remove target source).setOf y).toList =
      if y = target then ((r.setOf target).erase source).toList else (r.setOf y).toList := by
  unfold remove
  cases hset : r.sets.get? target with
  | none =>
    have hnone : r.setOf target = .empty := by simp [setOf, hset]
    by_cases hy : y = target
    · rw [if_pos hy, hy, hnone]
      rfl
    · rw [if_neg hy]
  | some set =>
    have htarget : r.setOf target = set := by simp [setOf, hset]
    rw [htarget, ← OrderedSet.toList_getD_unless_empty (set.erase source)]
    unfold setOf
    by_cases hempty : (set.erase source).isEmpty <;> by_cases hy : y = target <;>
      simp [hempty, hy, Table.get?_erase, Table.get?_insert]

/-- After an edge was removed it is gone, and nothing else is. -/
theorem has_remove : (r.remove target source).has y x = true ↔
    r.has y x = true ∧ ¬ (y = target ∧ x = source) := by
  rw [has, has, OrderedSet.contains_iff, OrderedSet.contains_iff, setOf_remove]
  by_cases hy : y = target
  · subst hy
    simp
  · simp [hy]

theorem setOf_removeEverywhere (r : Referrers) (y : ServiceId) (source : Referrer) :
    ((r.removeEverywhere source).setOf y).toList = ((r.setOf y).erase source).toList := by
  unfold removeEverywhere setOf
  rw [Table.get?_filterMapValues]
  cases r.sets.get? y with
  | none => rfl
  | some set => exact OrderedSet.toList_getD_unless_empty _

/-- After a referrer was removed everywhere the edges of all others are left. -/
theorem has_removeEverywhere : (r.removeEverywhere source).has y x = true ↔
    r.has y x = true ∧ x ≠ source := by
  rw [has, has, OrderedSet.contains_iff, OrderedSet.contains_iff, setOf_removeEverywhere,
    OrderedSet.mem_erase]

theorem has_foldl_add (targets : List ServiceId) (source : Referrer) (r : Referrers) :
    (targets.foldl (fun rs target => rs.add target source) r).has y x = true ↔
      (y ∈ targets ∧ x = source) ∨ r.has y x = true := by
  induction targets generalizing r with
  | nil => simp
  | cons target rest ih =>
    rw [List.foldl_cons, ih, has_add, List.mem_cons]
    tauto

theorem has_foldl_remove (targets : List ServiceId) (source : Referrer) (r : Referrers) :
    (targets.foldl (fun rs target => rs.remove target source) r).has y x = true ↔
      r.has y x = true ∧ ¬ (y ∈ targets ∧ x = source) := by
  induction targets generalizing r with
  | nil => simp
  | cons target rest ih =>
    rw [List.foldl_cons, ih, has_remove, List.mem_cons]
    tauto

end Referrers

end ServiceLifecycle

import Mathlib.Data.Finset.Basic
import ServiceLifecycle.Proofs.Index

/-!
# Edits of properties

The properties of a service are edited one after the other, and each edit reports what it did to
the services referred to. The reports are all that the registry hears of, so they have to add up to
the references that the values hold.

* **edit** — an edit leaves a value under its name or nothing, and brings the references up to date
  (`PropertyEdit`, `PropertyStore.edit_eq`);
* **places** — where a value comes to stand (`Table.entries_insert_known`, `Edited`);
* **reports** — the changes of many edits, one after the other (`PropertyStore.replay_changes`,
  `PropertyStore.references_tracked`);
* **last edit** — only the last edit of each name matters
  (`PropertyStore.get?_after`, `PropertyStore.only_last_edits_matter`).
-/

namespace ServiceLifecycle

/-! ## Tables and ordered sets -/

namespace Table

variable {κ α : Type}

theorem eq_of_entries {t u : Table κ α} (h : t.entries = u.entries) : t = u := by
  cases t
  cases u
  cases h
  rfl

theorem map_eq_self {f : κ × α → κ × α} {es : List (κ × α)} (h : ∀ e ∈ es, f e = e) :
    es.map f = es :=
  (List.map_congr_left h).trans (List.map_id _)

variable [DecidableEq κ] {t u : Table κ α} {k : κ}

theorem put_of_known {es : List (κ × α)} (a : α) (hnodup : (es.map Prod.fst).Nodup)
    (h : k ∈ es.map Prod.fst) : put k a es = es.map fun e => if e.1 = k then (k, a) else e := by
  induction es with
  | nil => cases h
  | cons e rest ih =>
    rw [List.map_cons, List.nodup_cons] at hnodup
    by_cases hk : e.1 = k
    · -- no later entry has this key
      have hne : ∀ e' ∈ rest, e'.1 ≠ k := by
        intro e' he' heq
        exact hnodup.1 (hk ▸ heq ▸ List.mem_map_of_mem he')
      have hrest : (rest.map fun e => if e.1 = k then (k, a) else e) = rest :=
        map_eq_self fun e' he' => if_neg (hne e' he')
      rw [put, if_pos hk, List.map_cons, if_pos hk, hrest]
    · have hin : k ∈ rest.map Prod.fst := (List.mem_cons.mp h).resolve_left (Ne.symm hk)
      rw [put, if_neg hk, List.map_cons, if_neg hk, ih hnodup.2 hin]

/-- A known key keeps its place. -/
theorem entries_insert_known (a : α) (h : t.contains k = true) :
    (t.insert k a).entries = t.entries.map fun e => if e.1 = k then (k, a) else e := by
  rw [contains, ← mem_keys_iff] at h
  exact put_of_known a t.keys_nodup h

/-- To store again what is stored changes nothing. -/
theorem insert_stored {a : α} (h : t.get? k = some a) : t.insert k a = t := by
  refine eq_of_entries ?_
  rw [entries_insert_known a (contains_iff.mpr ⟨a, h⟩)]
  refine map_eq_self fun e he => ?_
  split
  · next hk =>
    have hget : t.get? k = some e.2 := get?_eq_some_iff.mpr (hk ▸ he)
    exact Prod.ext hk.symm (Option.some.inj (h.symm.trans hget))
  · rfl

/-- To drop what is not there changes nothing. -/
theorem erase_absent (h : t.get? k = none) : t.erase k = t := by
  refine eq_of_entries (List.filter_eq_self.mpr fun e he => ?_)
  refine decide_eq_true fun hk => ?_
  have hget : t.get? k = some e.2 := get?_eq_some_iff.mpr (hk ▸ he)
  rw [h] at hget
  cases hget

theorem keys_subset_of_get?_eq (h : ∀ k, t.get? k = u.get? k) : t.keys ⊆ u.keys := by
  intro k hk
  rw [mem_keys_iff] at hk ⊢
  rwa [← h k]

/-- Two tables that show the same under every key are the same but for the order. -/
theorem sameAs_of_get?_eq [DecidableEq α] (h : ∀ k, t.get? k = u.get? k) :
    t.sameAs u = true := by
  have hle : t.keys.length ≤ u.keys.length :=
    (List.subperm_of_subset t.keys_nodup (keys_subset_of_get?_eq h)).length_le
  have hge : u.keys.length ≤ t.keys.length :=
    (List.subperm_of_subset u.keys_nodup (keys_subset_of_get?_eq fun k => (h k).symm)).length_le
  have hsize : t.size = u.size := by
    simp only [keys, List.length_map] at hle hge
    exact Nat.le_antisymm hle hge
  rw [sameAs, Bool.and_eq_true, decide_eq_true_eq, List.all_eq_true]
  refine ⟨hsize, fun e he => decide_eq_true ?_⟩
  rw [← h]
  exact get?_eq_some_iff.mpr he

end Table

namespace OrderedSet

variable {α : Type}

theorem eq_of_toList {s t : OrderedSet α} (h : s.toList = t.toList) : s = t := by
  cases s
  cases t
  cases h
  rfl

/-- The elements of a list are told apart by their first occurrences. -/
theorem toList_ofList [DecidableEq α] (xs : List α) : (ofList xs).toList = xs.eraseDups := by
  induction xs using List.reverseRecOn with
  | nil => rfl
  | append_singleton xs a ih =>
    rw [toList_ofList_concat, ih, List.eraseDups_append]
    by_cases h : a ∈ xs
    · simp [h, List.removeAll]
    · simp [h, List.removeAll, List.eraseDups_cons]

end OrderedSet

/-! ## Edits -/

/-- An edit of the properties of a service. A value comes with what is declared about the property,
if anything is. -/
inductive PropertyEdit where
  | set (descriptor : Option Descriptor) (name value : String)
  | remove (name : String)
  deriving DecidableEq, Repr

namespace PropertyEdit

/-- The property that is edited. -/
def name : PropertyEdit → String
  | .set _ name _ | .remove name => name

/-- What an edit leaves under its name. A removal leaves nothing, nor does a blank reference. -/
def value? : PropertyEdit → Option PropertyValue
  | .set descriptor _ value =>
    if descriptor.any Descriptor.identifiesService then
      if Text.isBlank value then none else some (.reference ⟨value⟩)
    else some (.literal value)
  | .remove _ => none

/-- The values after an edit. -/
def onValues (e : PropertyEdit) (values : Table String PropertyValue) :
    Table String PropertyValue :=
  match e.value? with
  | some value => values.insert e.name value
  | none => values.erase e.name

/-- What several edits leave under a name is what the last edit of this name leaves. -/
def lastValue? (edits : List PropertyEdit) (name : String) : Option PropertyValue :=
  (edits.reverse.find? fun e => e.name = name).bind value?

variable {e : PropertyEdit} {values : Table String PropertyValue} {value : PropertyValue}

theorem onValues_of_some (h : e.value? = some value) :
    e.onValues values = values.insert e.name value := by
  rw [onValues, h]

theorem onValues_of_none (h : e.value? = none) : e.onValues values = values.erase e.name := by
  rw [onValues, h]

theorem get?_onValues (e : PropertyEdit) (values : Table String PropertyValue) (name : String) :
    (e.onValues values).get? name = if name = e.name then e.value? else values.get? name := by
  cases h : e.value? with
  | none => rw [onValues_of_none h, Table.get?_erase]
  | some value => rw [onValues_of_some h, Table.get?_insert]

/-- An edit that leaves what is there leaves the order as it is too. -/
theorem onValues_of_get? (h : values.get? e.name = e.value?) : e.onValues values = values := by
  cases hv : e.value? with
  | none => exact (onValues_of_none hv).trans (Table.erase_absent (h.trans hv))
  | some value => exact (onValues_of_some hv).trans (Table.insert_stored (h.trans hv))

theorem lastValue?_concat (edits : List PropertyEdit) (e : PropertyEdit) (name : String) :
    lastValue? (edits ++ [e]) name = if name = e.name then e.value? else lastValue? edits name := by
  rw [lastValue?, List.reverse_append, List.reverse_singleton, List.singleton_append,
    List.find?_cons]
  by_cases h : name = e.name
  · simp [h]
  · simp [h, Ne.symm h, lastValue?]

/-- Edits of other names do not matter to a name. -/
theorem lastValue?_append_of_ne {edits others : List PropertyEdit} {name : String}
    (h : ∀ e ∈ others, e.name ≠ name) : lastValue? (edits ++ others) name = lastValue? edits name := by
  induction others using List.reverseRecOn with
  | nil => rw [List.append_nil]
  | append_singleton others e ih =>
    have hne : name ≠ e.name := Ne.symm (h e (by simp))
    rw [← List.append_assoc, lastValue?_concat, if_neg hne]
    exact ih fun e' he' => h e' (List.mem_append_left _ he')

end PropertyEdit

/-- The members of a set of references after a change. -/
def ReferenceChange.apply (c : ReferenceChange) (ids : Finset ServiceId) : Finset ServiceId :=
  (ids ∪ c.added.toFinset) \ c.removed.toFinset

namespace PropertyStore

variable {s t : PropertyStore} {e f : PropertyEdit}

/-- Carries out an edit. -/
def edit (s : PropertyStore) : PropertyEdit → PropertyStore × ReferenceChange
  | .set descriptor name value => s.set descriptor name value
  | .remove name => s.remove name

/-- The store after several edits. -/
def after (s : PropertyStore) (edits : List PropertyEdit) : PropertyStore :=
  edits.foldl (fun s e => (s.edit e).1) s

/-- What several edits report, one after the other. -/
def changes (s : PropertyStore) : List PropertyEdit → List ReferenceChange
  | [] => []
  | e :: edits => (s.edit e).2 :: changes (s.edit e).1 edits

/-- The references of a store are those that its values hold, in property order and each once. -/
def Exact (s : PropertyStore) : Prop :=
  s.references.toList = (s.values.values.filterMap PropertyValue.reference?).eraseDups

theorem edit_eq (s : PropertyStore) (e : PropertyEdit) :
    s.edit e = s.withValues (e.onValues s.values) := by
  cases e with
  | remove name => rfl
  | set descriptor name value =>
    show s.set descriptor name value = _
    by_cases hreference : descriptor.any Descriptor.identifiesService
    · by_cases hblank : Text.isBlank value
      · have hvalue : (PropertyEdit.set descriptor name value).value? = none := by
          simp only [PropertyEdit.value?, if_pos hreference, if_pos hblank]
        rw [set, if_pos hreference, if_pos hblank, PropertyEdit.onValues_of_none hvalue]
        rfl
      · have hvalue : (PropertyEdit.set descriptor name value).value? = some (.reference ⟨value⟩) := by
          simp only [PropertyEdit.value?, if_pos hreference, if_neg hblank]
        rw [set, if_pos hreference, if_neg hblank, PropertyEdit.onValues_of_some hvalue]
        rfl
    · have hvalue : (PropertyEdit.set descriptor name value).value? = some (.literal value) := by
        simp only [PropertyEdit.value?, if_neg hreference]
      rw [set, if_neg hreference, PropertyEdit.onValues_of_some hvalue]
      rfl

theorem exact_empty : empty.Exact := rfl

theorem exact_edit (s : PropertyStore) (e : PropertyEdit) : (s.edit e).1.Exact := by
  rw [edit_eq]
  exact OrderedSet.toList_ofList _

theorem after_concat (s : PropertyStore) (edits : List PropertyEdit) (e : PropertyEdit) :
    s.after (edits ++ [e]) = ((s.after edits).edit e).1 :=
  List.foldl_concat ..

theorem exact_after (edits : List PropertyEdit) : (empty.after edits).Exact := by
  induction edits using List.reverseRecOn with
  | nil => exact exact_empty
  | append_singleton edits e _ =>
    rw [after_concat]
    exact exact_edit _ e

/-- The values of an exact store bring nothing new. -/
theorem withValues_self (h : s.Exact) : s.withValues s.values = (s, ⟨[], []⟩) := by
  have hreferences :
      OrderedSet.ofList (s.values.values.filterMap PropertyValue.reference?) = s.references :=
    OrderedSet.eq_of_toList ((OrderedSet.toList_ofList _).trans h.symm)
  have hnone : (s.references.toList.filter fun id => !s.references.contains id) = [] := by
    refine List.filter_eq_nil_iff.mpr fun id hid => ?_
    simp [OrderedSet.contains_iff.mpr hid]
  rw [withValues, hreferences]
  simp only [hnone]

/-! ## One edit -/

/-- What an edit `e` does to a store `s`. It leaves the store `t` and reports the change `c`. -/
structure Edited (s : PropertyStore) (e : PropertyEdit) (t : PropertyStore)
    (c : ReferenceChange) : Prop where
  /-- No name occurs twice. -/
  names : (t.values.entries.map Prod.fst).Nodup
  exact : t.Exact
  /-- A property that was set keeps its place. -/
  overwrites : ∀ value, e.value? = some value → (s.get? e.name).isSome →
    t.values.entries = s.values.entries.map fun x => if x.1 = e.name then (e.name, value) else x
  /-- A property that was not set goes last. -/
  appends : ∀ value, e.value? = some value → s.get? e.name = none →
    t.values.entries = s.values.entries ++ [(e.name, value)]
  /-- A property that is cleared leaves the others in their order. -/
  clears : e.value? = none →
    t.get? e.name = none ∧ t.values.entries = s.values.entries.filter fun x => x.1 ≠ e.name
  /-- The new references, in their new order. -/
  added : c.added = t.references.toList.filter fun id => id ∉ s.references.toList
  /-- The references that are gone, in their old order. -/
  removed : c.removed = s.references.toList.filter fun id => id ∉ t.references.toList

theorem get?_edit (s : PropertyStore) (e : PropertyEdit) (name : String) :
    (s.edit e).1.get? name = if name = e.name then e.value? else s.get? name := by
  rw [edit_eq]
  exact PropertyEdit.get?_onValues e s.values name

theorem edited_edit (s : PropertyStore) (e : PropertyEdit) :
    Edited s e (s.edit e).1 (s.edit e).2 where
  names := (s.edit e).1.values.keys_nodup
  exact := exact_edit s e
  overwrites := by
    intro value hvalue hset
    rw [edit_eq, PropertyEdit.onValues_of_some hvalue]
    exact Table.entries_insert_known value hset
  appends := by
    intro value hvalue hnone
    have habsent : s.values.contains e.name = false := by
      rw [Table.contains, show s.values.get? e.name = none from hnone]
      rfl
    rw [edit_eq, PropertyEdit.onValues_of_some hvalue]
    exact Table.entries_insert_new value habsent
  clears := by
    intro hvalue
    refine ⟨?_, ?_⟩
    · rw [get?_edit, if_pos rfl, hvalue]
    · rw [edit_eq, PropertyEdit.onValues_of_none hvalue]
      rfl
  added := by
    rw [edit_eq]
    refine List.filter_congr fun id _ => ?_
    simp [OrderedSet.contains]
  removed := by
    rw [edit_eq]
    refine List.filter_congr fun id _ => ?_
    simp [OrderedSet.contains, withValues]

/-- What an edit reports leads from the references before it to those after it. -/
theorem Edited.apply {c : ReferenceChange} (h : Edited s e t c) :
    c.apply s.references.toList.toFinset = t.references.toList.toFinset := by
  ext id
  simp only [ReferenceChange.apply, h.added, h.removed, Finset.mem_sdiff, Finset.mem_union,
    List.mem_toFinset, List.mem_filter, decide_eq_true_eq]
  tauto

/-- An edit that leaves what is there reports nothing. -/
theorem edit_of_get? (h : s.Exact) (hget : s.get? e.name = e.value?) :
    s.edit e = (s, ⟨[], []⟩) := by
  rw [edit_eq, PropertyEdit.onValues_of_get? hget, withValues_self h]

/-- A blank reference is a removal. -/
theorem set_blank {descriptor : Descriptor} {value : String}
    (hreference : descriptor.identifiesService = true)
    (hblank : ∀ c ∈ value.toList, Text.isWhiteSpace c = true) (s : PropertyStore) (name : String) :
    s.set (some descriptor) name value = s.remove name := by
  have hb : Text.isBlank value = true := List.all_eq_true.mpr hblank
  rw [set, if_pos (show (some descriptor).any _ = true from hreference), if_pos hb]

/-! ## Many edits -/

/-- The reports of many edits lead from the first references to the last. -/
theorem replay_changes (edits : List PropertyEdit) (s : PropertyStore) :
    (s.changes edits).foldl (fun ids c => c.apply ids) s.references.toList.toFinset =
      (s.after edits).references.toList.toFinset := by
  induction edits generalizing s with
  | nil => rfl
  | cons e edits ih =>
    rw [changes, List.foldl_cons, (edited_edit s e).apply, ih]
    rfl

/-- Under a name stands what the last edit of this name left. -/
theorem get?_after (edits : List PropertyEdit) (name : String) :
    (empty.after edits).get? name = PropertyEdit.lastValue? edits name := by
  induction edits using List.reverseRecOn with
  | nil => rfl
  | append_singleton edits e ih =>
    rw [after_concat, get?_edit, PropertyEdit.lastValue?_concat, ih]

/-- A property that was cleared comes back at the end, whatever was edited in between. -/
theorem reenters {edits others : List PropertyEdit} {value : PropertyValue}
    (hcleared : e.value? = none) (hothers : ∀ x ∈ others, x.name ≠ e.name)
    (hname : f.name = e.name) (hvalue : f.value? = some value) :
    (empty.after (edits ++ [e] ++ others ++ [f])).values.entries =
      (empty.after (edits ++ [e] ++ others)).values.entries ++ [(e.name, value)] := by
  have hnone : (empty.after (edits ++ [e] ++ others)).get? f.name = none := by
    rw [hname, get?_after, PropertyEdit.lastValue?_append_of_ne hothers,
      PropertyEdit.lastValue?_concat, if_pos rfl, hcleared]
  rw [after_concat, ← hname]
  exact (edited_edit _ f).appends value hvalue hnone

/-- A store that was edited from nothing knows its references. They are those of its values, in
property order and each once. Every next edit keeps them so, leaves each value in its place and
reports what it did to them; all reports taken together make up the references. A property that was
cleared comes back at the end, and a blank reference clears it. -/
theorem references_tracked (edits : List PropertyEdit) :
    ((empty.after edits).values.entries.map Prod.fst).Nodup ∧
    (empty.after edits).Exact ∧
    (∀ e, Edited (empty.after edits) e ((empty.after edits).edit e).1
      ((empty.after edits).edit e).2) ∧
    (∀ e others f value, e.value? = none → (∀ x ∈ others, x.name ≠ e.name) → f.name = e.name →
      f.value? = some value →
      (empty.after (edits ++ [e] ++ others ++ [f])).values.entries =
        (empty.after (edits ++ [e] ++ others)).values.entries ++ [(e.name, value)]) ∧
    (empty.changes edits).foldl (fun ids c => c.apply ids) ∅ =
      (empty.after edits).references.toList.toFinset ∧
    ∀ (descriptor : Descriptor) (name value : String), descriptor.identifiesService = true →
      (∀ c ∈ value.toList, Text.isWhiteSpace c = true) →
      (empty.after edits).edit (.set (some descriptor) name value) =
        (empty.after edits).edit (.remove name) := by
  refine ⟨(empty.after edits).values.keys_nodup, exact_after edits, edited_edit _, ?_,
    replay_changes edits empty, ?_⟩
  · intro e others f value hcleared hothers hname hvalue
    exact reenters hcleared hothers hname hvalue
  · intro descriptor name value hreference hblank
    exact set_blank hreference hblank _ name

/-- Two properties refer to one service. The first is cleared by a blank value and set again, to
another service: it now stands behind the second, and behind one that was set meanwhile. -/
theorem references_tracked_shared :
    let link : Descriptor := { name := "link", identifiesService := true }
    let edits : List PropertyEdit := [.set (some link) "a" "x", .set (some link) "b" "x"]
    let clear : PropertyEdit := .set (some link) "a" "\u2003 "
    let others : List PropertyEdit := [.set none "c" "x"]
    let back : PropertyEdit := .set (some link) "a" "y"
    link.identifiesService = true ∧ (∀ c ∈ "\u2003 ".toList, Text.isWhiteSpace c = true) ∧
    clear.value? = none ∧ (∀ x ∈ others, x.name ≠ clear.name) ∧ back.name = clear.name ∧
    back.value? = some (.reference ⟨"y"⟩) ∧
    (empty.after edits).edit clear = (empty.after edits).edit (.remove "a") ∧
    (empty.after (edits ++ [clear] ++ others ++ [back])).values.entries =
      [("b", .reference ⟨"x"⟩), ("c", .literal "x"), ("a", .reference ⟨"y"⟩)] ∧
    (empty.changes (edits ++ [clear] ++ others ++ [back])).foldl (fun ids c => c.apply ids) ∅ =
      {⟨"x"⟩, ⟨"y"⟩} := by
  intro link edits clear others back
  obtain ⟨-, -, -, hback, -, hblank⟩ := references_tracked edits
  obtain ⟨-, -, -, -, hreplay, -⟩ := references_tracked (edits ++ [clear] ++ others ++ [back])
  have hspace : ∀ c ∈ "\u2003 ".toList, Text.isWhiteSpace c = true :=
    List.all_eq_true.mp (show Text.isBlank "\u2003 " = true by decide)
  have hclear : clear.value? = none := by decide
  have hothers : ∀ x ∈ others, x.name ≠ clear.name := by decide
  have hvalue : back.value? = some (.reference ⟨"y"⟩) := by decide
  refine ⟨rfl, hspace, hclear, hothers, rfl, hvalue, hblank link "a" _ rfl hspace, ?_, ?_⟩
  · exact (hback clear others back _ hclear hothers rfl hvalue).trans (by decide)
  · exact hreplay.trans (by decide)

/-! ## The last edit -/

/-- Two stores that are equal but for the order of their entries, with the same references. -/
def Alike (s t : PropertyStore) : Prop :=
  s.sameAs t = true ∧ ∀ id, id ∈ s.references.toList ↔ id ∈ t.references.toList

theorem Exact.mem_iff (h : s.Exact) (id : ServiceId) :
    id ∈ s.references.toList ↔ ∃ name, s.get? name = some (.reference id) := by
  have hvalue : ∀ value : PropertyValue, value.reference? = some id ↔ value = .reference id := by
    intro value
    cases value <;> simp [PropertyValue.reference?]
  have hget : (∃ name, s.get? name = some (.reference id)) ↔ .reference id ∈ s.values.values :=
    Table.mem_values_iff.symm
  rw [h, List.mem_eraseDups, List.mem_filterMap, hget]
  simp [hvalue]

theorem alike_of_get?_eq (hs : s.Exact) (ht : t.Exact) (h : ∀ name, s.get? name = t.get? name) :
    s.Alike t := by
  have hmem : ∀ id, id ∈ s.references.toList ↔ id ∈ t.references.toList := by
    intro id
    rw [hs.mem_iff, ht.mem_iff]
    simp only [h]
  refine ⟨?_, hmem⟩
  rw [sameAs, Bool.and_eq_true, Bool.and_eq_true, List.all_eq_true, List.all_eq_true]
  refine ⟨⟨Table.sameAs_of_get?_eq h, fun id hid => ?_⟩, fun id hid => ?_⟩
  · exact OrderedSet.contains_iff.mpr ((hmem id).mp hid)
  · exact OrderedSet.contains_iff.mpr ((hmem id).mpr hid)

theorem lastValue?_swap {pre post : List PropertyEdit} (hne : e.name ≠ f.name) (name : String) :
    PropertyEdit.lastValue? (pre ++ [e, f] ++ post) name =
      PropertyEdit.lastValue? (pre ++ [f, e] ++ post) name := by
  induction post using List.reverseRecOn with
  | nil =>
    have hsplit : ∀ x y : PropertyEdit, pre ++ [x, y] = pre ++ [x] ++ [y] := by simp
    rw [List.append_nil, List.append_nil, hsplit, hsplit]
    simp only [PropertyEdit.lastValue?_concat]
    by_cases he : name = e.name
    · have hf : name ≠ f.name := he ▸ hne
      rw [if_neg hf, if_pos he, if_pos he]
    · rw [if_neg he, if_neg he]
  | append_singleton post x ih =>
    rw [← List.append_assoc, ← List.append_assoc, PropertyEdit.lastValue?_concat,
      PropertyEdit.lastValue?_concat, ih]

/-- Only the last edit of each name matters. Two lists of edits whose last edits leave the same
under every name lead to stores that are equal but for the order. So two neighbouring edits of
different names may be swapped, and an edit that is repeated changes nothing, not even the order. -/
theorem only_last_edits_matter :
    (∀ xs ys : List PropertyEdit,
      (∀ name, PropertyEdit.lastValue? xs name = PropertyEdit.lastValue? ys name) →
      (empty.after xs).Alike (empty.after ys)) ∧
    (∀ (pre post : List PropertyEdit) (e f : PropertyEdit), e.name ≠ f.name →
      (empty.after (pre ++ [e, f] ++ post)).Alike (empty.after (pre ++ [f, e] ++ post))) ∧
    ∀ (edits : List PropertyEdit) (e : PropertyEdit),
      (empty.after (edits ++ [e])).edit e = (empty.after (edits ++ [e]), ⟨[], []⟩) := by
  have halike : ∀ xs ys : List PropertyEdit,
      (∀ name, PropertyEdit.lastValue? xs name = PropertyEdit.lastValue? ys name) →
      (empty.after xs).Alike (empty.after ys) := by
    intro xs ys h
    refine alike_of_get?_eq (exact_after xs) (exact_after ys) fun name => ?_
    rw [get?_after, get?_after, h]
  refine ⟨halike, fun pre post e f hne => halike _ _ (lastValue?_swap hne), ?_⟩
  intro edits e
  refine edit_of_get? (exact_after _) ?_
  rw [get?_after, PropertyEdit.lastValue?_concat, if_pos rfl]

/-- Different beginnings, the same last edits: a value that was overwritten and one that was never
set, the names in another order. -/
theorem only_last_edits_matter_reordered :
    let link : Descriptor := { name := "link", identifiesService := true }
    let xs : List PropertyEdit := [.set none "a" "x", .set (some link) "b" "y", .set none "c" "z",
      .set (some link) "a" "y", .remove "c"]
    let ys : List PropertyEdit := [.set (some link) "b" "y", .set (some link) "a" "y"]
    (∀ name, PropertyEdit.lastValue? xs name = PropertyEdit.lastValue? ys name) ∧
    (empty.after xs).values.entries ≠ (empty.after ys).values.entries ∧
    (empty.after xs).Alike (empty.after ys) ∧
    "a" ≠ "b" ∧
    (empty.after ([] ++ [.set none "a" "x", .remove "b"] ++ ys)).Alike
      (empty.after ([] ++ [.remove "b", .set none "a" "x"] ++ ys)) := by
  intro link xs ys
  have hlast : ∀ name, PropertyEdit.lastValue? xs name = PropertyEdit.lastValue? ys name := by
    intro name
    by_cases ha : name = "a"
    · subst ha
      decide
    · by_cases hb : name = "b"
      · subst hb
        decide
      · by_cases hc : name = "c"
        · subst hc
          decide
        · have hne : ∀ y, name ≠ y → ¬ y = name := fun _ h => Ne.symm h
          simp [xs, ys, PropertyEdit.lastValue?, PropertyEdit.name, hne _ ha, hne _ hb, hne _ hc]
  obtain ⟨halike, hswap, -⟩ := only_last_edits_matter
  have hne : "a" ≠ "b" := by decide
  exact ⟨hlast, by decide, halike xs ys hlast, hne, hswap [] ys (.set none "a" "x") (.remove "b") hne⟩

end PropertyStore

end ServiceLifecycle

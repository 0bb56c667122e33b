/-
Ordered maps, seen through their entries.

A map is its list of entries, so statements about maps come down to lists:

* `get?_eq_some_iff` — looking a key up finds the entry with that key;
* `mem_of_mem_entries_ofList` — a map that a list builds holds nothing that is not in it;
* `entries_ofList` — a list without repeated keys builds the map with just these entries;
* `get?_ofList` — in a map that a list builds, the last value that is written counts;
* `pairwise_keys_ofList` — and its keys are in the order in which they came first.
-/
import Mathlib.Data.List.Basic
import Mathlib.Data.List.Induction
import ModuleWiring.OrderedMap

namespace ModuleWiring.OrderedMap

variable {α β κ : Type} [BEq κ] [LawfulBEq κ]

theorem ext {m n : OrderedMap α} (h : m.entries = n.entries) : m = n := by
  cases m
  cases n
  cases h
  rfl

/-- Looking up in a list without repeated keys finds any entry. -/
theorem lookup_eq_some_iff {es : List (κ × α)} (h : (es.map Prod.fst).Nodup) {key : κ}
    {value : α} : es.lookup key = some value ↔ (key, value) ∈ es := by
  induction es with
  | nil => simp
  | cons e es ih =>
    obtain ⟨k, v⟩ := e
    rw [List.map_cons, List.nodup_cons] at h
    rw [List.lookup_cons]
    by_cases hk : key = k
    · subst hk
      have hnot : (key, value) ∉ es := fun hm =>
        h.1 (List.mem_map.mpr ⟨(key, value), hm, rfl⟩)
      simp only [beq_self_eq_true, List.mem_cons, Prod.mk.injEq, true_and, hnot, or_false,
        Option.some.injEq]
      exact eq_comm
    · simp [beq_false_of_ne hk, ih h.2, hk]

theorem get?_eq_some_iff {m : OrderedMap α} {key : Text} {value : α} :
    m.get? key = some value ↔ (key, value) ∈ m.entries :=
  lookup_eq_some_iff m.nodup_keys

theorem contains_iff {m : OrderedMap α} {key : Text} :
    m.contains key = true ↔ key ∈ m.keys := by
  rw [contains, Option.isSome_iff_exists, keys, List.mem_map]
  constructor
  · rintro ⟨value, h⟩
    exact ⟨(key, value), get?_eq_some_iff.mp h, rfl⟩
  · rintro ⟨⟨k, value⟩, h, rfl⟩
    exact ⟨value, get?_eq_some_iff.mpr h⟩

theorem contains_eq_false_iff {m : OrderedMap α} {key : Text} :
    m.contains key = false ↔ m.get? key = none := by
  rw [contains, Option.isSome_eq_false_iff, Option.isNone_iff_eq_none]

theorem entries_mapValues (m : OrderedMap α) (f : α → β) :
    (m.mapValues f).entries = m.entries.map fun e => (e.1, f e.2) := rfl

@[simp] theorem get?_mapValues (m : OrderedMap α) (f : α → β) (key : Text) :
    (m.mapValues f).get? key = (m.get? key).map f := by
  obtain ⟨es, h⟩ := m
  simp only [mapValues, get?]
  clear h
  induction es with
  | nil => rfl
  | cons e es ih =>
    rw [List.map_cons, List.lookup_cons, List.lookup_cons, ih]
    split <;> rfl

@[simp] theorem keys_mapValues (m : OrderedMap α) (f : α → β) :
    (m.mapValues f).keys = m.keys := by
  simp [mapValues, keys]

@[simp] theorem values_mapValues (m : OrderedMap α) (f : α → β) :
    (m.mapValues f).values = m.values.map f := by
  simp [mapValues, values]

@[simp] theorem isEmpty_mapValues (m : OrderedMap α) (f : α → β) :
    (m.mapValues f).isEmpty = m.isEmpty := by
  simp [mapValues, isEmpty]

theorem mem_values_of_get? {m : OrderedMap α} {key : Text} {value : α}
    (h : m.get? key = some value) : value ∈ m.values :=
  List.mem_map.mpr ⟨(key, value), get?_eq_some_iff.mp h, rfl⟩

/-! ### Maps built from lists -/

theorem put_of_not_mem {es : List (κ × α)} {key : κ} (value : α)
    (h : key ∉ es.map Prod.fst) : put key value es = es ++ [(key, value)] := by
  induction es with
  | nil => rfl
  | cons e es ih =>
    rw [List.map_cons, List.mem_cons, not_or] at h
    rw [put, if_neg (by simpa using Ne.symm h.1), ih h.2, List.cons_append]

theorem entries_insert_of_get?_eq_none {m : OrderedMap α} {key : Text} (value : α)
    (h : m.get? key = none) : (m.insert key value).entries = m.entries ++ [(key, value)] := by
  refine put_of_not_mem value fun hm => ?_
  have hc : m.contains key = true := contains_iff.mpr hm
  rw [contains_eq_false_iff.mpr h] at hc
  exact Bool.false_ne_true hc

theorem entries_insertAll {es : List (Text × α)} {m : OrderedMap α}
    (h : (m.keys ++ es.map Prod.fst).Nodup) : (m.insertAll es).entries = m.entries ++ es := by
  induction es generalizing m with
  | nil => simp [insertAll]
  | cons e es ih =>
    obtain ⟨key, value⟩ := e
    have hkey : key ∉ m.keys := fun hm =>
      (List.nodup_append.mp h).2.2 key hm key (by simp) rfl
    have hentries : (m.insert key value).entries = m.entries ++ [(key, value)] :=
      put_of_not_mem value hkey
    have hkeys : (m.insert key value).keys = m.keys ++ [key] := by
      rw [keys, hentries, List.map_append]
      rfl
    -- the keys to come are still new once this one is in
    show ((m.insert key value).insertAll es).entries = _
    rw [ih (by rw [hkeys]; simpa using h), hentries, List.append_assoc, List.singleton_append]

/-- A list without repeated keys is the list of entries of the map that it builds. -/
theorem entries_ofList {es : List (Text × α)} (h : (es.map Prod.fst).Nodup) :
    (ofList es).entries = es := by
  rw [ofList, entries_insertAll (by simpa [empty, keys] using h)]
  rfl

omit [LawfulBEq κ] in
theorem mem_put {es : List (κ × α)} {key : κ} {value : α} {e : κ × α}
    (h : e ∈ put key value es) : e = (key, value) ∨ e ∈ es := by
  induction es with
  | nil => exact .inl (List.mem_singleton.mp h)
  | cons d es ih =>
    rw [put] at h
    split at h
    · rcases List.mem_cons.mp h with h | h
      · exact .inl h
      · exact .inr (List.mem_cons_of_mem d h)
    · rcases List.mem_cons.mp h with rfl | h
      · exact .inr List.mem_cons_self
      · exact (ih h).imp id (List.mem_cons_of_mem d)

theorem nodup_put {es : List (κ × α)} (h : (es.map Prod.fst).Nodup) (key : κ) (value : α) :
    ((put key value es).map Prod.fst).Nodup := by
  rw [map_fst_put]
  split
  · exact h
  · next hnew =>
    refine List.nodup_append.mpr ⟨h, List.pairwise_singleton _ _, ?_⟩
    rintro a ha b hb rfl
    exact hnew (List.mem_singleton.mp hb ▸ ha)

theorem mem_entries_insertAll {es : List (Text × α)} {m : OrderedMap α} {e : Text × α}
    (h : e ∈ (m.insertAll es).entries) : e ∈ m.entries ∨ e ∈ es := by
  induction es generalizing m with
  | nil => exact .inl h
  | cons d es ih =>
    rcases ih (m := m.insert d.1 d.2) h with h | h
    · rcases mem_put h with rfl | h
      · exact .inr List.mem_cons_self
      · exact .inl h
    · exact .inr (List.mem_cons_of_mem d h)

/-- A map that a list builds holds nothing that is not in the list. -/
theorem mem_of_mem_entries_ofList {es : List (Text × α)} {e : Text × α}
    (h : e ∈ (ofList es).entries) : e ∈ es := by
  rcases mem_entries_insertAll h with h | h
  · simp [empty] at h
  · exact h

/-- Of the values that are written under a key the last one counts. -/
theorem get?_insertAll (m : OrderedMap α) (es : List (Text × α)) (key : Text) :
    (m.insertAll es).get? key = (es.reverse.lookup key).or (m.get? key) := by
  induction es generalizing m with
  | nil => rfl
  | cons e es ih =>
    obtain ⟨k, value⟩ := e
    show ((m.insert k value).insertAll es).get? key = _
    rw [ih, get?_insert, List.reverse_cons, List.lookup_append, List.lookup_cons]
    by_cases hk : key = k
    · simp [hk]
    · simp [hk, beq_false_of_ne hk]

theorem get?_ofList (es : List (Text × α)) (key : Text) :
    (ofList es).get? key = es.reverse.lookup key := by
  rw [ofList, get?_insertAll]
  exact Option.or_none

omit [LawfulBEq κ] in
theorem put_map (f : α → β) (key : κ) (value : α) (es : List (κ × α)) :
    put key (f value) (es.map fun e => (e.1, f e.2)) =
      (put key value es).map fun e => (e.1, f e.2) := by
  induction es with
  | nil => rfl
  | cons e es ih =>
    rw [List.map_cons, put, put]
    split
    · rfl
    · rw [List.map_cons, ih]

theorem mapValues_insertAll (m : OrderedMap α) (f : α → β) (es : List (Text × α)) :
    (m.insertAll es).mapValues f = (m.mapValues f).insertAll (es.map fun e => (e.1, f e.2)) := by
  induction es generalizing m with
  | nil => rfl
  | cons e es ih =>
    have hinsert : (m.insert e.1 e.2).mapValues f = (m.mapValues f).insert e.1 (f e.2) :=
      ext (put_map f e.1 e.2 m.entries).symm
    show ((m.insert e.1 e.2).insertAll es).mapValues f = _
    rw [ih, hinsert]
    rfl

theorem mapValues_ofList (f : α → β) (es : List (Text × α)) :
    (ofList es).mapValues f = ofList (es.map fun e => (e.1, f e.2)) :=
  mapValues_insertAll empty f es

theorem get?_ofList_append (xs ys : List (Text × α)) (key : Text) :
    (ofList (xs ++ ys)).get? key = ((ofList ys).get? key).or ((ofList xs).get? key) := by
  rw [get?_ofList, get?_ofList, get?_ofList, List.reverse_append, List.lookup_append]

theorem lookup_reverse_eq_none_iff {es : List (Text × α)} {key : Text} :
    es.reverse.lookup key = none ↔ key ∉ es.map Prod.fst := by
  rw [List.lookup_eq_none_iff, List.mem_map]
  constructor
  · rintro h ⟨e, he, rfl⟩
    simpa using h e (List.mem_reverse.mpr he)
  · rintro h e he
    rw [bne_iff_ne]
    rintro rfl
    exact h ⟨e, List.mem_reverse.mp he, rfl⟩

/-- What is written under other keys does not count. -/
theorem get?_insertAll_of_not_mem {m : OrderedMap α} {es : List (Text × α)} {key : Text}
    (h : key ∉ es.map Prod.fst) : (m.insertAll es).get? key = m.get? key := by
  rw [get?_insertAll, lookup_reverse_eq_none_iff.mpr h, Option.none_or]

theorem get?_ofList_eq_none_iff {es : List (Text × α)} {key : Text} :
    (ofList es).get? key = none ↔ key ∉ es.map Prod.fst := by
  rw [get?_ofList, lookup_reverse_eq_none_iff]

theorem mem_keys_ofList {es : List (Text × α)} {key : Text} :
    key ∈ (ofList es).keys ↔ key ∈ es.map Prod.fst := by
  rw [← contains_iff, ← Bool.not_eq_false, contains_eq_false_iff,
    get?_ofList_eq_none_iff, not_not]

theorem ofList_concat (es : List (Text × α)) (e : Text × α) :
    ofList (es ++ [e]) = (ofList es).insert e.1 e.2 := by
  rw [ofList, insertAll, List.foldl_append]
  rfl

/-- Keys are listed in the order in which they came first. -/
theorem pairwise_keys_ofList (es : List (Text × α)) :
    (ofList es).keys.Pairwise fun a b => (es.map Prod.fst).idxOf a < (es.map Prod.fst).idxOf b := by
  induction es using List.reverseRecOn with
  | nil => exact .nil
  | append_singleton es e ih =>
    have hmem : ∀ a ∈ (ofList es).keys, a ∈ es.map Prod.fst := fun a => mem_keys_ofList.mp
    -- an entry behind the others does not change where their keys came first
    have hold : (ofList es).keys.Pairwise fun a b =>
        ((es ++ [e]).map Prod.fst).idxOf a < ((es ++ [e]).map Prod.fst).idxOf b := by
      refine ih.imp_of_mem fun ha hb hab => ?_
      rw [List.map_append, List.idxOf_append_of_mem (hmem _ ha),
        List.idxOf_append_of_mem (hmem _ hb)]
      exact hab
    rw [ofList_concat, keys_insert]
    split
    · exact hold
    · next hnew =>
      have hfresh : e.1 ∉ es.map Prod.fst := fun h => hnew (mem_keys_ofList.mpr h)
      refine List.pairwise_append.mpr ⟨hold, List.pairwise_singleton _ _, ?_⟩
      intro a ha b hb
      obtain rfl := List.mem_singleton.mp hb
      have hlt := List.idxOf_lt_length_of_mem (hmem a ha)
      rw [List.map_append, List.idxOf_append_of_mem (hmem a ha),
        List.idxOf_append_of_notMem hfresh]
      omega

/-- A value is found when it is written last under its key. -/
theorem get?_ofList_eq_some_iff {es : List (Text × α)} {key : Text} {value : α} :
    (ofList es).get? key = some value ↔
      ∃ xs ys, es = xs ++ (key, value) :: ys ∧ key ∉ ys.map Prod.fst := by
  rw [get?_ofList, List.lookup_eq_some_iff]
  constructor
  · rintro ⟨ys, xs, hes, hys⟩
    refine ⟨xs.reverse, ys.reverse, by simpa using congrArg List.reverse hes, ?_⟩
    rw [← lookup_reverse_eq_none_iff, List.reverse_reverse, List.lookup_eq_none_iff]
    exact hys
  · rintro ⟨xs, ys, rfl, hys⟩
    refine ⟨ys.reverse, xs.reverse, by simp, ?_⟩
    rw [← List.lookup_eq_none_iff]
    exact lookup_reverse_eq_none_iff.mpr hys

end ModuleWiring.OrderedMap

/-
Maps that remember the order in which keys came.

A map is the list of its entries.  A new key goes to the end; writing a key that
is already there keeps its place and replaces its value.  Keys are distinct.

* `get?_insert` — what an insertion does to look-ups;
* `keys_insert` — what it does to the order of keys.
-/
import ModuleWiring.Text.Basic

namespace ModuleWiring

/-- A map from texts that keeps the order of first insertion. -/
structure OrderedMap (α : Type) where
  /-- The entries, oldest key first. -/
  entries : List (Text × α)
  nodup_keys : (entries.map Prod.fst).Nodup

namespace OrderedMap

variable {α β κ : Type} [BEq κ] [LawfulBEq κ]

/-- The entries after a key is written: in place if it is there, else at the end. -/
def put (key : κ) (value : α) : List (κ × α) → List (κ × α)
  | [] => [(key, value)]
  | e :: es => if e.1 == key then (key, value) :: es else e :: put key value es

theorem map_fst_put (key : κ) (value : α) (es : List (κ × α)) :
    (put key value es).map Prod.fst =
      if key ∈ es.map Prod.fst then es.map Prod.fst else es.map Prod.fst ++ [key] := by
  induction es with
  | nil => simp [put]
  | cons e es ih =>
    by_cases h : e.1 = key
    · simp [put, h]
    · simp only [put, beq_false_of_ne h, List.map_cons, Bool.false_eq_true, if_false, ih,
        List.mem_cons, Ne.symm h, false_or]
      split <;> simp

theorem lookup_put (key other : κ) (value : α) (es : List (κ × α)) :
    (put key value es).lookup other = if other == key then some value else es.lookup other := by
  induction es with
  | nil =>
    by_cases h : other = key
    · simp [put, h]
    · simp [put, List.lookup_cons, beq_false_of_ne h]
  | cons e es ih =>
    obtain ⟨k, v⟩ := e
    by_cases hk : k = key <;> by_cases ho : other = k
    · simp [put, hk, ho]
    · subst hk
      simp [put, List.lookup_cons, beq_false_of_ne ho]
    · subst ho
      simp [put, beq_false_of_ne hk]
    · simp [put, List.lookup_cons, beq_false_of_ne ho, beq_false_of_ne hk, ih]

/-- The map without entries. -/
def empty : OrderedMap α where
  entries := []
  nodup_keys := by simp

instance : Inhabited (OrderedMap α) := ⟨empty⟩

/-- Write a key. -/
def insert (m : OrderedMap α) (key : Text) (value : α) : OrderedMap α where
  entries := put key value m.entries
  nodup_keys := by
    have h := m.nodup_keys
    rw [map_fst_put]
    split
    · exact h
    · next hk =>
      refine List.nodup_append.2 ⟨h, by simp, ?_⟩
      rintro a ha b hb rfl
      exact hk (List.mem_singleton.1 hb ▸ ha)

/-- The value of a key. -/
def get? (m : OrderedMap α) (key : Text) : Option α :=
  m.entries.lookup key

/-- Whether a key is there. -/
def contains (m : OrderedMap α) (key : Text) : Bool :=
  (m.get? key).isSome

/-- The keys, oldest first. -/
def keys (m : OrderedMap α) : List Text :=
  m.entries.map Prod.fst

/-- The values, in the order of their keys. -/
def values (m : OrderedMap α) : List α :=
  m.entries.map Prod.snd

/-- The number of keys. -/
def size (m : OrderedMap α) : Nat :=
  m.entries.length

/-- Whether there are no keys. -/
def isEmpty (m : OrderedMap α) : Bool :=
  m.entries.isEmpty

/-- Write the entries of a list, one after the other. -/
def insertAll (m : OrderedMap α) (es : List (Text × α)) : OrderedMap α :=
  es.foldl (fun m (key, value) => m.insert key value) m

/-- The map that the entries of a list build. -/
def ofList (es : List (Text × α)) : OrderedMap α :=
  empty.insertAll es

/-- The same keys with other values. -/
def mapValues (m : OrderedMap α) (f : α → β) : OrderedMap β where
  entries := m.entries.map fun (key, value) => (key, f value)
  nodup_keys := by
    have h : (m.entries.map fun x => (x.1, f x.2)).map Prod.fst = m.entries.map Prod.fst := by
      simp
    exact h ▸ m.nodup_keys

/-- The entries in alphabetical order of their keys. -/
def alphabetical (m : OrderedMap α) : List (Text × α) :=
  m.entries.mergeSort fun a b => !decide (b.1 < a.1)

theorem get?_insert (m : OrderedMap α) (key other : Text) (value : α) :
    (m.insert key value).get? other = if other = key then some value else m.get? other := by
  have h := lookup_put key other value m.entries
  simp only [beq_iff_eq] at h
  exact h

theorem keys_insert (m : OrderedMap α) (key : Text) (value : α) :
    (m.insert key value).keys = if key ∈ m.keys then m.keys else m.keys ++ [key] :=
  map_fst_put key value m.entries

end OrderedMap

end ModuleWiring

/-
Sets of names in alphabetical order.

A set is the strictly increasing list of its members, ordered by code points.
Because the list is determined by its members, two sets with the same members
are equal.

* `mem_insert` — the members after an insertion;
* `ext` — a set is determined by its members.
-/
import ModuleWiring.Text.Basic

namespace ModuleWiring

/-- A finite set of names, listed in alphabetical order. -/
structure NameSet where
  /-- The members, in alphabetical order. -/
  toList : List Text
  sorted : toList.Pairwise (· < ·)

namespace NameSet

/-- The list after a name is added at its place. -/
def place (name : Text) : List Text → List Text
  | [] => [name]
  | n :: ns =>
    if name < n then name :: n :: ns
    else if name = n then n :: ns else n :: place name ns

theorem mem_place {name other : Text} {ns : List Text} :
    other ∈ place name ns ↔ other = name ∨ other ∈ ns := by
  induction ns with
  | nil => simp [place]
  | cons n ns ih =>
    simp only [place]
    split
    · simp
    · split
      · next h => simp [h]
      · simp only [List.mem_cons, ih]
        constructor
        · rintro (h | h | h) <;> simp [h]
        · rintro (h | h | h) <;> simp [h]

theorem pairwise_place {name : Text} {ns : List Text} (h : ns.Pairwise (· < ·)) :
    (place name ns).Pairwise (· < ·) := by
  induction ns with
  | nil => simp [place]
  | cons n ns ih =>
    obtain ⟨hn, hns⟩ := List.pairwise_cons.1 h
    simp only [place]
    split
    · next hlt =>
      refine List.pairwise_cons.2 ⟨fun m hm => ?_, h⟩
      rcases List.mem_cons.1 hm with rfl | hm
      · exact hlt
      · exact List.lt_trans hlt (hn m hm)
    · split
      · exact h
      · next hnlt hne =>
        refine List.pairwise_cons.2 ⟨fun m hm => ?_, ih hns⟩
        rcases mem_place.1 hm with rfl | hm
        · exact Std.lt_of_le_of_ne (Std.not_lt.1 hnlt) (Ne.symm hne)
        · exact hn m hm

/-- The set without members. -/
def empty : NameSet where
  toList := []
  sorted := by simp

instance : Inhabited NameSet := ⟨empty⟩

/-- Add a name. -/
def insert (s : NameSet) (name : Text) : NameSet where
  toList := place name s.toList
  sorted := pairwise_place s.sorted

/-- Add all names of a list. -/
def insertAll (s : NameSet) (names : List Text) : NameSet :=
  names.foldl insert s

/-- The set of the names of a list. -/
def ofList (names : List Text) : NameSet :=
  empty.insertAll names

/-- Whether a name is a member. -/
def contains (s : NameSet) (name : Text) : Bool :=
  s.toList.contains name

instance : Membership Text NameSet := ⟨fun s name => name ∈ s.toList⟩

instance (name : Text) (s : NameSet) : Decidable (name ∈ s) :=
  inferInstanceAs (Decidable (name ∈ s.toList))

theorem mem_insert {s : NameSet} {name other : Text} :
    other ∈ s.insert name ↔ other = name ∨ other ∈ s :=
  mem_place

theorem mem_insertAll {s : NameSet} {names : List Text} {other : Text} :
    other ∈ s.insertAll names ↔ other ∈ names ∨ other ∈ s := by
  induction names generalizing s with
  | nil => simp [insertAll]
  | cons n ns ih =>
    have h := ih (s := s.insert n)
    simp only [insertAll, List.foldl_cons, List.mem_cons] at h ⊢
    rw [h, mem_insert]
    constructor
    · rintro (h | h | h) <;> simp [h]
    · rintro ((h | h) | h) <;> simp [h]

theorem contains_iff {s : NameSet} {name : Text} : s.contains name = true ↔ name ∈ s :=
  List.contains_iff_mem

theorem ext {s t : NameSet} (h : ∀ name, name ∈ s ↔ name ∈ t) : s = t := by
  obtain ⟨xs, hx⟩ := s
  obtain ⟨ys, hy⟩ := t
  have hxy : ∀ name, name ∈ xs ↔ name ∈ ys := h
  suffices xs = ys by subst this; rfl
  clear h
  induction xs generalizing ys with
  | nil =>
    cases ys with
    | nil => rfl
    | cons y ys => exact absurd ((hxy y).2 (by simp)) (by simp)
  | cons x xs ih =>
    cases ys with
    | nil => exact absurd ((hxy x).1 (by simp)) (by simp)
    | cons y ys =>
      obtain ⟨hx1, hx2⟩ := List.pairwise_cons.1 hx
      obtain ⟨hy1, hy2⟩ := List.pairwise_cons.1 hy
      have hxy' : x = y := by
        rcases List.mem_cons.1 ((hxy x).1 (by simp)) with h | h
        · exact h
        · rcases List.mem_cons.1 ((hxy y).2 (by simp)) with h' | h'
          · exact h'.symm
          · exact absurd (List.lt_trans (hx1 y h') (hy1 x h)) (List.lt_irrefl x)
      subst hxy'
      congr 1
      refine ih hx2 ys hy2 fun name => ⟨fun hm => ?_, fun hm => ?_⟩
      · rcases List.mem_cons.1 ((hxy name).1 (List.mem_cons_of_mem _ hm)) with rfl | h
        · exact absurd (hx1 name hm) (List.lt_irrefl name)
        · exact h
      · rcases List.mem_cons.1 ((hxy name).2 (List.mem_cons_of_mem _ hm)) with rfl | h
        · exact absurd (hy1 name hm) (List.lt_irrefl name)
        · exact h

end NameSet

end ModuleWiring

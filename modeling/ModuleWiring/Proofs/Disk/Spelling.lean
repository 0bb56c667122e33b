/-
What a path spells.

Without links the location that a path leads to stands in its text: a step by name adds a name
to it, and a step up takes one away.  So two paths that begin alike and go on by names alone
lead to the same entry only if they have the same steps.

* `spelled` — the location that steps spell;
* `eq_spelled_of_locate` — what a path leads to is what it spells.
-/
import ModuleWiring.Proofs.Disk.Walk

namespace ModuleWiring

namespace FileTree

open ModuleWiring.Path

variable {t : FileTree} {place l : Location} {steps : List PathStep} {node : Option FileNode}
  {path : Path}

/-- The location that steps spell, whatever there is. -/
def spelled : Location → List PathStep → Location
  | place, [] => place
  | _, .root :: steps => spelled [] steps
  | place, .here :: steps => spelled place steps
  | place, .up :: steps => spelled place.dropLast steps
  | place, .entry name :: steps => spelled (place ++ [name]) steps

theorem spelled_append (place : Location) (steps rest : List PathStep) :
    spelled place (steps ++ rest) = spelled (spelled place steps) rest := by
  induction steps generalizing place with
  | nil => rfl
  | cons step steps ih => cases step <;> exact ih _

theorem spelled_names (place : Location) (names : List Text) :
    spelled place (names.map .entry) = place ++ names := by
  induction names generalizing place with
  | nil => simp [spelled]
  | cons name names ih => simp [spelled, ih]

/-- A part that means no step adds nothing to the location. -/
theorem spelled_parts (place : Location) (ss : List Text) :
    spelled place (ss.map fun s => (step? s).getD .here) =
      spelled place (ss.filterMap step?) := by
  induction ss generalizing place with
  | nil => rfl
  | cons s ss ih =>
    rcases hs : step? s with _ | step
    · rw [List.map_cons, List.filterMap_cons_none hs, hs]
      exact ih place
    · rw [List.map_cons, List.filterMap_cons_some hs, hs]
      cases step <;> exact ih _

/-- Following a path and reading its steps come to the same location. -/
theorem spelled_stepsOf (t : FileTree) (path : Path) :
    spelled (t.start path.text) (stepsOf path.text) = spelled t.workingFolder path.steps := by
  rw [Path.steps, stepsOf, start]
  rcases path.text with _ | ⟨c, u⟩
  · rfl
  · by_cases hc : c = '/'
    · obtain ⟨s, ss, hs⟩ := List.exists_cons_of_ne_nil (segments_ne_nil u)
      rw [segments, if_pos hc, List.head?_cons, if_pos (congrArg some hc)]
      simp only [hs, firstStep?]
      exact spelled_parts [] (s :: ss)
    · have hslash : some c ≠ some '/' := fun h => hc (Option.some.inj h)
      obtain ⟨s, ss, hs⟩ : ∃ s ss, segments (c :: u) = (c :: s) :: ss := by
        rw [segments, if_neg hc]
        split <;> exact ⟨_, _, rfl⟩
      rw [hs, List.head?_cons, if_neg hslash, spelled_parts]
      simp only [firstStep?, List.isEmpty_cons, Bool.false_eq_true, if_false]
      split
      · next hdot =>
        rw [hdot]
        rfl
      · rw [List.filterMap_cons]
        cases step? (c :: s) <;> rfl

theorem eq_spelled_of_along {followLast : Bool} (h : t.LinkFree)
    (hw : t.along followLast place steps = .arrived l node) : l = spelled place steps := by
  induction steps generalizing place with
  | nil => exact (Walk.arrived.inj hw).1.symm
  | cons step steps ih =>
    cases step with
    | root => exact ih hw
    | here => exact ih hw
    | up => exact ih hw
    | entry name =>
      by_cases hname : name.byteLength > maxNameBytes
      · rw [along_entry_of_long hname] at hw
        exact absurd hw (by simp)
      by_cases hn : t.node? (place ++ [name]) = some .folder
      · rw [along_entry_of_folder h hname hn] at hw
        exact ih hw
      · rw [along_entry_of_not_folder h hname hn] at hw
        split at hw
        · next hrest =>
          rw [List.isEmpty_iff.mp hrest]
          exact (Walk.arrived.inj hw).1.symm
        · exact absurd hw (by simp)

theorem eq_spelled_of_locate {followLast : Bool} (h : t.LinkFree)
    (hl : t.locate path followLast = .ok (l, node)) :
    l = spelled t.workingFolder path.steps := by
  rw [← spelled_stepsOf]
  exact eq_spelled_of_along h ((locate_eq_ok_iff h).mp hl).2

end FileTree

end ModuleWiring

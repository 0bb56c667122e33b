/-
Physical lines.

Sequences that end in a separator, as the lines of a text end in a line feed.
The same function serves characters and bytes.  A last piece needs no separator,
and a separator at the very end opens no further piece.  A carriage return in
front of a line feed stays with its line; it is a blank, which readers trim.

* `pieces_append` — cutting behind a separator cuts the sequence of pieces.
-/
import ModuleWiring.Text.Basic

namespace ModuleWiring

/-- The pieces of `xs`, each ended by `sep` or by the end of `xs`. -/
def pieces {α : Type} [DecidableEq α] (sep : α) : List α → List (List α)
  | [] => []
  | x :: xs =>
    if x = sep then [] :: pieces sep xs
    else match pieces sep xs with
      | [] => [[x]]
      | p :: ps => (x :: p) :: ps

theorem pieces_append {α : Type} [DecidableEq α] (sep : α) (xs ys : List α) :
    pieces sep (xs ++ sep :: ys) = pieces sep (xs ++ [sep]) ++ pieces sep ys := by
  induction xs with
  | nil => simp [pieces]
  | cons x xs ih =>
    by_cases h : x = sep
    · simp [pieces, h, ih]
    · have hne : pieces sep (xs ++ [sep]) ≠ [] := by
        cases xs with
        | nil => simp [pieces]
        | cons y zs =>
          simp only [List.cons_append, pieces]
          split
          · simp
          · split <;> simp
      obtain ⟨p, ps, hp⟩ := List.exists_cons_of_ne_nil hne
      simp [pieces, h, ih, hp]

namespace Text

/-- The physical lines of a text, without their line feeds. -/
def lines (t : Text) : List Text :=
  pieces '\n' t

/-- The text whose physical lines are given, each ended by a line feed. -/
def ofLines (ls : List Text) : Text :=
  ls.flatMap (· ++ ['\n'])

end Text

end ModuleWiring

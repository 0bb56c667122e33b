/-
Line diffs.

A diff turns one row of lines into another by keeping as many lines as possible
and deleting and inserting the others.  Where lines are deleted and inserted at
the same place, the deletions come first.

* `Diff.ofRows` — a shortest diff of two rows, by the table of all their ends;
* `Diff.between` — of two texts, whose lines keep their line ends.
-/
import ModuleWiring.Text.Basic

namespace ModuleWiring

/-- One line of a diff. -/
inductive LineChange where
  | keep (line : Text)
  | delete (line : Text)
  | insert (line : Text)
deriving DecidableEq

namespace Diff

/-- A diff of an end of one row and an end of the other, and how many lines it keeps. -/
structure Cell where
  kept : Nat
  changes : List LineChange

/-- The diffs of no line and each end of a row, the longest end first. -/
def lastRow : List Text → List Cell
  | [] => [⟨0, []⟩]
  | y :: ys =>
    match lastRow ys with
    | [] => []
    | c :: cs => ⟨c.kept, .insert y :: c.changes⟩ :: c :: cs

/-- The diffs of an end that begins with `x` and each end of a row, given those of
the end behind `x`. -/
def rowAbove (x : Text) : List Text → List Cell → List Cell
  | [], c :: _ => [⟨c.kept, .delete x :: c.changes⟩]
  | y :: ys, below :: c :: cs =>
    match rowAbove x ys (c :: cs) with
    | [] => []
    | right :: rest =>
      let cell : Cell :=
        if x = y then ⟨c.kept + 1, .keep x :: c.changes⟩
        else if right.kept ≤ below.kept then ⟨below.kept, .delete x :: below.changes⟩
        else ⟨right.kept, .insert y :: right.changes⟩
      cell :: right :: rest
  | _, _ => []

/-- A shortest diff of two rows of lines. -/
def ofRows (xs ys : List Text) : List LineChange :=
  match xs.foldr (fun x row => rowAbove x ys row) (lastRow ys) with
  | [] => []
  | c :: _ => c.changes

/-- The lines of a text with their ends: a line feed, a carriage return, or both. -/
def linesWithEnds : Text → List Text
  | [] => []
  | '\r' :: '\n' :: t => ['\r', '\n'] :: linesWithEnds t
  | c :: t =>
    if c = '\n' || c = '\r' then [c] :: linesWithEnds t
    else match linesWithEnds t with
      | [] => [[c]]
      | l :: ls => (c :: l) :: ls

/-- A shortest line diff of two texts. -/
def between (before after : Text) : List LineChange :=
  ofRows (linesWithEnds before) (linesWithEnds after)

end Diff

end ModuleWiring

/-
Lines and texts.

A text written line by line is read back line by line, as long as no line holds a
line feed:

* `lines_ofLines` — the lines of a written text are the ones written;
* `not_mem_of_mem_lines` — no line of a text holds a line feed;
* `lines_append` — a text that ends with its last line has the lines of what follows behind
  its own.
-/
import ModuleWiring.Text.Lines

namespace ModuleWiring

theorem pieces_of_not_mem {α : Type} [DecidableEq α] {sep : α} {xs : List α} (h : sep ∉ xs) :
    pieces sep (xs ++ [sep]) = [xs] := by
  induction xs with
  | nil => simp [pieces]
  | cons x xs ih =>
    rw [List.mem_cons, not_or] at h
    rw [List.cons_append, pieces, if_neg (Ne.symm h.1), ih h.2]

theorem not_mem_of_mem_pieces {α : Type} [DecidableEq α] {sep : α} {xs p : List α}
    (h : p ∈ pieces sep xs) : sep ∉ p := by
  induction xs generalizing p with
  | nil => simp [pieces] at h
  | cons x xs ih =>
    rw [pieces] at h
    by_cases hx : x = sep
    · rw [if_pos hx] at h
      rcases List.mem_cons.mp h with rfl | h
      · simp
      · exact ih h
    · rw [if_neg hx] at h
      rcases hps : pieces sep xs with _ | ⟨q, qs⟩
      · rw [hps] at h
        simpa [List.mem_singleton.mp h] using Ne.symm hx
      · rw [hps] at h ih
        rcases List.mem_cons.mp h with rfl | h
        · rw [List.mem_cons, not_or]
          exact ⟨Ne.symm hx, ih List.mem_cons_self⟩
        · exact ih (List.mem_cons_of_mem q h)

namespace Text

theorem lines_ofLines {ls : List Text} (h : ∀ l ∈ ls, '\n' ∉ l) :
    lines (ofLines ls) = ls := by
  induction ls with
  | nil => rfl
  | cons l ls ih =>
    have hl := h l List.mem_cons_self
    have hls := ih fun m hm => h m (List.mem_cons_of_mem l hm)
    rw [lines, ofLines, List.flatMap_cons, List.append_assoc, List.singleton_append,
      pieces_append, pieces_of_not_mem hl]
    exact congrArg (l :: ·) hls

theorem not_mem_of_mem_lines {t l : Text} (h : l ∈ lines t) : '\n' ∉ l :=
  not_mem_of_mem_pieces h

theorem lines_append {t u : Text} (h : t = [] ∨ ∃ v, t = v ++ ['\n']) :
    lines (t ++ u) = lines t ++ lines u := by
  rcases h with rfl | ⟨v, rfl⟩
  · rfl
  · rw [lines, List.append_assoc, List.singleton_append, pieces_append, lines, lines]

theorem ofLines_append (xs ys : List Text) : ofLines (xs ++ ys) = ofLines xs ++ ofLines ys :=
  List.flatMap_append

end Text

end ModuleWiring

/-
Trimmed texts.

Blanks at the ends of a text go away when it is read, so what is written survives
only if it has none there.  This module says what trimming does to texts that are
put together:

* `trimEnd_append` — a trimmed text behind another one protects it;
* `trim_padded` — trimming takes off just the padding of a trimmed text;
* `isBlank_iff_trimEnd` — a blank text is one that trimming leaves empty.
-/
import Mathlib.Data.List.DropRight
import Mathlib.Data.List.TakeWhile
import ModuleWiring.Text.Blank

namespace ModuleWiring.Text

theorem trimEnd_eq_rdropWhile (t : Text) : trimEnd t = t.rdropWhile isBlankChar := rfl

theorem trimEnd_trimEnd (t : Text) : trimEnd (trimEnd t) = trimEnd t :=
  List.rdropWhile_idempotent isBlankChar t

@[simp] theorem trimEnd_nil : trimEnd [] = [] := rfl

/-- Lines that are trimmed stay as they are. -/
theorem map_trimEnd_eq_self {ls : List Text} (h : ∀ l ∈ ls, trimEnd l = l) :
    ls.map trimEnd = ls := by
  conv_rhs => rw [← List.map_id ls]
  exact List.map_congr_left h

theorem isPrefix_trimEnd (t : Text) : trimEnd t <+: t :=
  List.rdropWhile_prefix isBlankChar t

theorem isSuffix_trimStart (t : Text) : trimStart t <:+ t :=
  List.dropWhile_suffix isBlankChar

theorem mem_of_mem_trimEnd {c : Char} {t : Text} (h : c ∈ trimEnd t) : c ∈ t :=
  (isPrefix_trimEnd t).subset h

theorem mem_of_mem_trim {c : Char} {t : Text} (h : c ∈ trim t) : c ∈ t :=
  (isSuffix_trimStart t).subset (mem_of_mem_trimEnd h)

theorem trimEnd_eq_self_iff {t : Text} :
    trimEnd t = t ↔ ∀ h : t ≠ [], isBlankChar (t.getLast h) = false := by
  rw [trimEnd_eq_rdropWhile, List.rdropWhile_eq_self_iff]
  simp

theorem trimEnd_concat_of_not_blank {t : Text} {c : Char} (h : isBlankChar c = false) :
    trimEnd (t ++ [c]) = t ++ [c] := by
  rw [trimEnd_eq_self_iff]
  simpa using h

/-- A trimmed text that is not empty protects what stands in front of it. -/
theorem trimEnd_append {t u : Text} (hu : trimEnd u = u) (hne : u ≠ []) :
    trimEnd (t ++ u) = t ++ u := by
  rw [trimEnd_eq_self_iff] at hu ⊢
  intro h
  rw [List.getLast_append_of_ne_nil h hne]
  exact hu hne

theorem trimEnd_append_blank {t b : Text} (hb : isBlank b = true) :
    trimEnd (t ++ b) = trimEnd t := by
  have hall : ∀ c ∈ b.reverse, isBlankChar c = true := by
    intro c hc
    exact List.all_eq_true.mp hb c (List.mem_reverse.mp hc)
  rw [trimEnd, List.reverse_append, List.dropWhile_append_of_pos hall]
  rfl

theorem trimStart_blank_append {b t : Text} (hb : isBlank b = true) :
    trimStart (b ++ t) = trimStart t :=
  List.dropWhile_append_of_pos (List.all_eq_true.mp hb)

theorem trimStart_cons_of_not_blank {c : Char} {t : Text} (h : isBlankChar c = false) :
    trimStart (c :: t) = c :: t := by
  simp [trimStart, h]

theorem isBlank_iff_trimEnd {t : Text} : isBlank t = true ↔ trimEnd t = [] := by
  rw [trimEnd_eq_rdropWhile, List.rdropWhile_eq_nil_iff, isBlank, List.all_eq_true]

@[simp] theorem isEmpty_trimEnd (t : Text) : (trimEnd t).isEmpty = isBlank t := by
  rw [Bool.eq_iff_iff, List.isEmpty_iff, isBlank_iff_trimEnd]

theorem eq_nil_of_isBlank {t : Text} (hb : isBlank t = true) (ht : trimEnd t = t) : t = [] := by
  rw [← ht]
  exact isBlank_iff_trimEnd.mp hb

/-- A text that trimming at the front leaves as it is begins with no blank. -/
theorem not_blank_of_trimStart {c : Char} {t : Text} (h : trimStart (c :: t) = c :: t) :
    isBlankChar c = false := by
  have hhead := List.dropWhile_eq_self_iff.mp h (by simp)
  simpa using hhead

theorem isBlank_of_trim {t : Text} (h : trim t = []) : isBlank t = true := by
  have hrest : isBlank (trimStart t) = true := isBlank_iff_trimEnd.mpr h
  rw [isBlank, ← List.takeWhile_append_dropWhile (p := isBlankChar) (l := t), List.all_append,
    Bool.and_eq_true]
  exact ⟨List.all_takeWhile, hrest⟩

theorem trim_trim (t : Text) : trim (trim t) = trim t := by
  have hstart : trimStart (trim t) = trim t := by
    rcases hu : trim t with _ | ⟨c, u⟩
    · rfl
    · obtain ⟨v, hv⟩ : c :: u <+: trimStart t := hu ▸ isPrefix_trimEnd (trimStart t)
      have hidem : trimStart (trimStart t) = trimStart t :=
        List.dropWhile_idempotent isBlankChar t
      rw [← hv] at hidem
      exact trimStart_cons_of_not_blank (not_blank_of_trimStart hidem)
  rw [trim, hstart]
  exact trimEnd_trimEnd (trimStart t)

theorem trimEnd_trim (t : Text) : trimEnd (trim t) = trim t :=
  trimEnd_trimEnd (trimStart t)

/-- The length argument: trimming at one end cannot put back what trimming at the
other end takes away. -/
theorem trimStart_eq_self_of_trim {t : Text} (h : trim t = t) : trimStart t = t := by
  refine (isSuffix_trimStart t).eq_of_length_le ?_
  calc t.length = (trim t).length := by rw [h]
    _ ≤ (trimStart t).length := (isPrefix_trimEnd (trimStart t)).length_le

theorem trimEnd_eq_self_of_trim {t : Text} (h : trim t = t) : trimEnd t = t := by
  rw [← h]
  exact trimEnd_trim t

/-- Trimming takes off just the padding of a trimmed text. -/
theorem trim_padded {b t d : Text} (hb : isBlank b = true) (ht : trim t = t)
    (hd : isBlank d = true) : trim (b ++ t ++ d) = t := by
  have hstart := trimStart_eq_self_of_trim ht
  have hend := trimEnd_eq_self_of_trim ht
  rw [trim, List.append_assoc, trimStart_blank_append hb]
  rcases t with _ | ⟨c, t⟩
  · have hnil : trimStart d = [] := List.dropWhile_eq_nil_iff.mpr (List.all_eq_true.mp hd)
    rw [List.nil_append, hnil, trimEnd_nil]
  · have hc := not_blank_of_trimStart hstart
    rw [List.cons_append, trimStart_cons_of_not_blank hc, ← List.cons_append,
      trimEnd_append_blank hd, hend]

/-- A text is what trimming leaves of it, with blanks behind. -/
theorem exists_eq_trimEnd_append (t : Text) : ∃ b, isBlank b = true ∧ t = trimEnd t ++ b :=
  ⟨t.rtakeWhile isBlankChar, List.all_eq_true.mpr fun _ hc => List.mem_rtakeWhile_imp hc,
    List.rdropWhile_append_rtakeWhile.symm⟩

/-- Trimming does not reach across a character that is no blank. -/
theorem trimEnd_append_cons {t u : Text} {c : Char} (hc : isBlankChar c = false) :
    trimEnd (t ++ c :: u) = t ++ c :: trimEnd u := by
  -- the blanks behind `u` go; what is left of it protects the text, or `c` does
  obtain ⟨b, hb, hu⟩ := exists_eq_trimEnd_append u
  have hsplit : t ++ c :: u = (t ++ c :: trimEnd u) ++ b := by
    rw [List.append_assoc, List.cons_append, ← hu]
  have hassoc : t ++ c :: trimEnd u = (t ++ [c]) ++ trimEnd u := by simp
  rw [hsplit, trimEnd_append_blank hb, hassoc]
  by_cases hnil : trimEnd u = []
  · rw [hnil, List.append_nil]
    exact trimEnd_concat_of_not_blank hc
  · exact trimEnd_append (trimEnd_trimEnd u) hnil

theorem isBlank_replicate (n : Nat) : isBlank (List.replicate n ' ') = true := by
  rw [isBlank, List.all_eq_true]
  intro c hc
  rw [List.eq_of_mem_replicate hc]
  decide

end ModuleWiring.Text

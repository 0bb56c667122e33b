/-
What the conventions of the language say of characters.

* `isBlankChar_of_isNameChar` — identifiers hold no blanks, so that they are trimmed as
  they are (`trim_identifier`);
* `isLabelLine_written` — a label that is written is known as one.
-/
import ModuleWiring.Convention
import ModuleWiring.Proofs.Text.Blank

namespace ModuleWiring

/-! ### Identifiers -/

theorem toNat_of_isAlpha {c : Char} (h : c.isAlpha = true) :
    65 ≤ c.toNat ∧ c.toNat ≤ 122 := by
  rcases (Bool.or_eq_true _ _).mp h with h | h
  · obtain ⟨h1, h2⟩ := of_decide_eq_true h
    have hlow : 65 ≤ c.toNat := h1
    have hhigh : c.toNat ≤ 90 := h2
    omega
  · obtain ⟨h1, h2⟩ := (Bool.and_eq_true _ _).mp h
    have hlow : 97 ≤ c.toNat := of_decide_eq_true h1
    have hhigh : c.toNat ≤ 122 := of_decide_eq_true h2
    omega

theorem toNat_of_isNameChar {c : Char} (h : isNameChar c = true) :
    45 ≤ c.toNat ∧ c.toNat ≤ 122 ∧ c.toNat ≠ 61 := by
  rw [isNameChar, Bool.or_eq_true, Bool.or_eq_true, beq_iff_eq, beq_iff_eq] at h
  obtain (h | rfl) | rfl := h
  · rcases (Bool.or_eq_true _ _).mp h with h | h
    · have hletter := toNat_of_isAlpha h
      omega
    · obtain ⟨hlow, hhigh⟩ := Char.isDigit_iff_toNat.mp h
      have hlow : 48 ≤ c.toNat := hlow
      have hhigh : c.toNat ≤ 57 := hhigh
      omega
  · decide
  · decide

theorem toNat_of_isBlankChar {c : Char} (h : isBlankChar c = true) :
    c.toNat ≤ 32 ∨ 133 ≤ c.toNat := by
  simp only [isBlankChar, Bool.or_eq_true, Bool.and_eq_true, decide_eq_true_eq, Char.le_def,
    UInt32.le_iff_toNat_le, or_assoc, beq_iff_eq] at h
  rcases h with rfl | h | rfl | rfl | rfl | h | rfl | rfl | rfl | rfl | rfl
  · decide
  · have h2 : c.toNat ≤ 13 := h.2
    omega
  · decide
  · decide
  · decide
  · have h1 : 8192 ≤ c.toNat := h.1
    omega
  all_goals decide

theorem isBlankChar_of_isNameChar {c : Char} (h : isNameChar c = true) : isBlankChar c = false := by
  have hname := toNat_of_isNameChar h
  by_contra hb
  have hblank := toNat_of_isBlankChar (Bool.not_eq_false _ ▸ hb)
  omega

theorem isNameChar_of_isNameStart {c : Char} (h : isNameStart c = true) : isNameChar c = true := by
  rw [isNameStart, Bool.or_eq_true] at h
  rw [isNameChar, Bool.or_eq_true, Bool.or_eq_true]
  rcases h with h | h
  · exact .inl (.inl (by rw [Char.isAlphanum, h, Bool.true_or]))
  · exact .inl (.inr h)

theorem ne_nil_of_isIdentifier {name : Text} (h : isIdentifier name = true) : name ≠ [] := by
  rintro rfl
  exact absurd h (by decide)

theorem isNameChar_of_mem {name : Text} (h : isIdentifier name = true)
    {c : Char} (hc : c ∈ name) : isNameChar c = true := by
  rcases name with _ | ⟨a, cs⟩
  · simp at hc
  · rw [isIdentifier, Bool.and_eq_true] at h
    rcases List.mem_cons.mp hc with rfl | hc
    · exact isNameChar_of_isNameStart h.1
    · exact List.all_eq_true.mp h.2 c hc

theorem ne_of_mem_identifier {name : Text} (h : isIdentifier name = true) {c d : Char}
    (hc : c ∈ name) (hd : isNameChar d = false) : c ≠ d := by
  rintro rfl
  rw [isNameChar_of_mem h hc] at hd
  exact absurd hd (by decide)

/-- An identifier is trimmed as it is. -/
theorem trim_identifier {name : Text} (h : isIdentifier name = true) : Text.trim name = name := by
  have hblank : ∀ c ∈ name, isBlankChar c = false := fun c hc =>
    isBlankChar_of_isNameChar (isNameChar_of_mem h hc)
  have hstart : Text.trimStart name = name := by
    rcases name with _ | ⟨c, cs⟩
    · rfl
    · exact Text.trimStart_cons_of_not_blank (hblank c List.mem_cons_self)
  rw [Text.trim, hstart, Text.trimEnd_eq_self_iff]
  intro hne
  exact hblank _ (List.getLast_mem hne)

/-! ### Labels -/

/-- A label is known as one, whatever stands behind its mark. -/
theorem isLabelLine_written {b rest : Text} (hb : Text.isBlank b = true) :
    isLabelLine (Text.trimEnd (b ++ labelMark ++ rest)) = true := by
  have hline : b ++ labelMark ++ rest = (b ++ ['#']) ++ '~' :: rest := by
    simp [labelMark]
  rw [hline, Text.trimEnd_append_cons (by decide), isLabelLine, List.append_assoc,
    Text.trimStart_blank_append hb]
  rfl

end ModuleWiring

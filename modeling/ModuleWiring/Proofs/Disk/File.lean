/-
Reading stored texts.

A line feed is one byte, and no other character is stored with that byte.  So the lines of a
stored text are the stored lines of the text, and a visitor makes the same of both.

* `pieces_encode` — the lines of a stored text;
* `scanBytes_encode` — what a visitor makes of a stored text;
* `content?_visitBytes_encode` — the content that is read from it.
-/
import ModuleWiring.Disk.File

namespace ModuleWiring

theorem pieces_append_of_not_mem {α : Type} [DecidableEq α] {sep : α} {xs : List α}
    (hne : xs ≠ []) (h : sep ∉ xs) (ys : List α) : pieces sep (xs ++ ys) =
      match pieces sep ys with
      | [] => [xs]
      | p :: ps => (xs ++ p) :: ps := by
  induction xs with
  | nil => exact absurd rfl hne
  | cons x xs ih =>
    rw [List.mem_cons, not_or] at h
    rw [List.cons_append, pieces, if_neg (Ne.symm h.1)]
    rcases xs with _ | ⟨x', xs⟩
    · rfl
    · rw [ih (by simp) h.2]
      cases pieces sep ys <;> rfl

namespace Text

/-- The bytes of a character outside of ASCII are outside of ASCII. -/
theorem mem_utf8EncodeChar {c : Char} {b : UInt8} (h : b ∈ String.utf8EncodeChar c) :
    c.val.toNat ≤ 127 ∧ b = UInt8.ofNat c.val.toNat ∨ 128 ≤ b.toNat := by
  have large : ∀ n k : Nat, 128 ≤ k → n + k < 256 →
      128 ≤ (UInt8.ofNat (n + k)).toNat := by
    intro n k hk hlt
    rw [UInt8.toNat_ofNat']
    omega
  rw [String.utf8EncodeChar] at h
  split at h
  · next hc => exact .inl ⟨hc, List.mem_singleton.mp h⟩
  · refine .inr ?_
    split at h
    · simp only [List.mem_cons, List.not_mem_nil, or_false] at h
      rcases h with rfl | rfl <;> exact large _ _ (by omega) (by omega)
    · split at h
      · simp only [List.mem_cons, List.not_mem_nil, or_false] at h
        rcases h with rfl | rfl | rfl <;> exact large _ _ (by omega) (by omega)
      · simp only [List.mem_cons, List.not_mem_nil, or_false] at h
        rcases h with rfl | rfl | rfl | rfl <;> exact large _ _ (by omega) (by omega)

/-- Only a line feed is stored with the byte of a line feed. -/
theorem feed_not_mem_utf8EncodeChar {c : Char} (hc : c ≠ '\n') :
    0x0a ∉ String.utf8EncodeChar c := by
  intro h
  rcases mem_utf8EncodeChar h with ⟨hle, heq⟩ | hle
  · have hn := congrArg UInt8.toNat heq
    rw [UInt8.toNat_ofNat', Nat.mod_eq_of_lt (by omega)] at hn
    exact hc (Char.ext (UInt32.toNat_inj.mp hn.symm))
  · exact absurd hle (by decide)

theorem pieces_encode (t : Text) : pieces 0x0a (encode t) = t.lines.map encode := by
  induction t with
  | nil => rfl
  | cons c t ih =>
    rw [lines, pieces]
    by_cases hc : c = '\n'
    · rw [if_pos hc, List.map_cons]
      subst hc
      show [] :: pieces 0x0a (encode t) = _
      rw [ih]
      rfl
    · rw [if_neg hc]
      have hne : String.utf8EncodeChar c ≠ [] := by
        intro h
        have hlength := String.length_utf8EncodeChar c
        rw [h] at hlength
        exact absurd hlength.symm (Nat.ne_of_gt c.utf8Size_pos)
      show pieces 0x0a (String.utf8EncodeChar c ++ encode t) = _
      rw [pieces_append_of_not_mem hne (feed_not_mem_utf8EncodeChar hc), ih, lines]
      cases pieces '\n' t with
      | nil => simp [encode]
      | cons p ps => simp [encode]

end Text

namespace Visitor

variable {σ : Type}

theorem acceptAll_encode (visit : Visitor σ) (s : σ × List Line) (ls : List Text) :
    visit.acceptAll s (ls.map Text.encode) = .ok (ls.foldl visit.accept s) := by
  induction ls generalizing s with
  | nil => rfl
  | cons l ls ih => rw [List.map_cons, acceptAll, Text.decode_encode, List.foldl_cons, ← ih]

/-- A visitor makes the same of a stored text as of the text. -/
theorem scanBytes_encode (visit : Visitor σ) (s : σ × List Line) (t : Text) :
    visit.scanBytes s (Text.encode t) = .ok (visit.scanText s t) := by
  rw [scanBytes, Text.pieces_encode, acceptAll_encode, scanText]

end Visitor

namespace File

/-- The content of a stored text is the content of the text. -/
theorem content?_visitBytes_encode (t : Text) :
    (visitBytes Reading.visit {} (Text.encode t)).content? = .ok (Content.ofText t) := by
  rw [visitBytes, Visitor.scanBytes_encode]
  rfl

theorem textOf_encode (t : Text) : textOf (Text.encode t) = .ok t := by
  rw [textOf, Text.decode_encode]

end File

end ModuleWiring

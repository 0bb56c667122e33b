/-
Cutting texts.

* `cut?_eq_some_iff` — the two sides of the first character of a kind, said by what
  they are put together to;
* `cut?_append` — a cut behind a part without such a character.
-/
import ModuleWiring.Text.Basic

namespace ModuleWiring.Text

theorem cut?_eq_some_iff {p : Char → Bool} {t l r : Text} :
    cut? p t = some (l, r) ↔
      ∃ c, t = l ++ c :: r ∧ p c = true ∧ ∀ x ∈ l, p x = false := by
  induction t generalizing l with
  | nil => simp [cut?]
  | cons a t ih =>
    rw [cut?]
    -- the part in front is empty exactly when the text begins with such a character
    by_cases ha : p a = true
    · rw [if_pos ha, Option.some.injEq, Prod.mk.injEq]
      constructor
      · rintro ⟨rfl, rfl⟩
        exact ⟨a, rfl, ha, by simp⟩
      · rintro ⟨c, hc, -, hl⟩
        rcases l with _ | ⟨x, l⟩
        · rw [List.nil_append, List.cons.injEq] at hc
          exact ⟨rfl, hc.2⟩
        · rw [List.cons_append, List.cons.injEq] at hc
          rw [hc.1, hl x List.mem_cons_self] at ha
          exact absurd ha Bool.false_ne_true
    · rw [if_neg ha, Option.map_eq_some_iff]
      constructor
      · rintro ⟨⟨u, v⟩, hu, huv⟩
        obtain ⟨rfl, rfl⟩ := Prod.mk.inj huv
        obtain ⟨c, rfl, hc, hl⟩ := ih.mp hu
        refine ⟨c, rfl, hc, fun x hx => ?_⟩
        rcases List.mem_cons.mp hx with rfl | hx
        · exact Bool.not_eq_true _ ▸ ha
        · exact hl x hx
      · rintro ⟨c, hc, hp, hl⟩
        rcases l with _ | ⟨x, l⟩
        · rw [List.nil_append, List.cons.injEq] at hc
          exact absurd (hc.1 ▸ hp) ha
        · rw [List.cons_append, List.cons.injEq] at hc
          obtain ⟨rfl, rfl⟩ := hc
          exact ⟨(l, r),
            ih.mpr ⟨c, rfl, hp, fun y hy => hl y (List.mem_cons_of_mem a hy)⟩, rfl⟩

theorem cut?_append {p : Char → Bool} {l r : Text} {c : Char} (hl : ∀ x ∈ l, p x = false)
    (hc : p c = true) : cut? p (l ++ c :: r) = some (l, r) :=
  cut?_eq_some_iff.mpr ⟨c, rfl, hc, hl⟩

end ModuleWiring.Text

/-
Counting brackets.

A count of brackets goes through a text character by character, and all it knows of the
characters behind it is whether it stands in a string literal.  So a text in which no comment
begins is counted on its own, and what follows it from the place where it ends.

* `LiteralState.step?`, `LiteralState.behind?` — what a character and a text do to a count;
* `nestingDeltaFrom_append` — the count of two texts, one behind the other;
* `nestingDeltaFrom_append_of_comment` — behind the mark of a comment nothing counts;
* `nestingDelta_passes_over` — a count passes over string literals and comments, whatever
  they hold.
-/
import ModuleWiring.OpenValue

namespace ModuleWiring

namespace LiteralState

/-- What a character counts, and where a count stands behind it, unless a comment begins with
it; `next` is the character that follows. -/
def step? (next : Option Char) (c : Char) : LiteralState → Option (Int × LiteralState)
  | .escaped => some (0, .inside)
  | .inside => some (0, if c = '\\' then .escaped else if c = '"' then .outside else .inside)
  | .outside =>
    if c = '"' then some (0, .inside)
    else if c = '(' ∨ c = '[' ∨ c = '\x7b' then some (1, .outside)
    else if c = ')' ∨ c = ']' ∨ c = '\x7d' then some (-1, .outside)
    else if c = '#' ∨ c = '/' ∧ next = some '/' then none
    else some (0, .outside)

/-- Where a count stands behind a text, unless a comment begins in the text. -/
def behind? : LiteralState → Text → Option LiteralState
  | st, [] => some st
  | st, c :: t => (st.step? t.head? c).bind fun (_, st') => st'.behind? t

end LiteralState

/-- What stands between the quotation marks of a string literal: a text with a backslash in
front of each backslash and each quotation mark. -/
def Text.escaped (t : Text) : Text :=
  t.flatMap fun c => if c = '\\' ∨ c = '"' then ['\\', c] else [c]

/-- A text as a string literal. -/
def Text.literal (t : Text) : Text :=
  '"' :: t.escaped ++ ['"']

variable {st st' : LiteralState} {c : Char} {p q : Text} {n : Int}

/-! ### One character -/

/-- A count goes on behind a character from where that leaves it. -/
theorem nestingDeltaFrom_cons_of_step (h : st.step? p.head? c = some (n, st')) :
    nestingDeltaFrom st (c :: p) = n + nestingDeltaFrom st' p := by
  cases st with
  | escaped =>
    obtain ⟨rfl, rfl⟩ := h
    rw [nestingDeltaFrom, Int.zero_add]
  | inside =>
    obtain ⟨rfl, rfl⟩ := h
    rw [nestingDeltaFrom, Int.zero_add, apply_ite (nestingDeltaFrom · p),
      apply_ite (nestingDeltaFrom · p)]
  | outside =>
    rw [LiteralState.step?] at h
    rw [nestingDeltaFrom]
    grind

/-- Behind a character with which a comment begins nothing counts. -/
theorem nestingDeltaFrom_cons_of_comment (h : st.step? p.head? c = none) :
    nestingDeltaFrom st (c :: p) = 0 := by
  cases st with
  | escaped => exact absurd h (by simp [LiteralState.step?])
  | inside => exact absurd h (by simp [LiteralState.step?])
  | outside =>
    rw [LiteralState.step?] at h
    rw [nestingDeltaFrom]
    grind

namespace LiteralState

/-- A comment begins outside of string literals, with a number sign or with two slashes. -/
theorem step?_eq_none_iff {next : Option Char} :
    st.step? next c = none ↔ st = .outside ∧ (c = '#' ∨ c = '/' ∧ next = some '/') := by
  cases st with
  | outside =>
    rw [step?]
    grind
  | _ => simp [step?]

/-- A character does the same in front of a longer text, unless it is a slash and the longer
text begins with the other one of a comment. -/
theorem step?_append (hslash : (c :: p).getLast? = some '/' → q.head? ≠ some '/') :
    st.step? (p ++ q).head? c = st.step? p.head? c := by
  cases p with
  | cons d p => rfl
  | nil =>
    have hmark : ¬(c = '/' ∧ q.head? = some '/') := by
      rintro ⟨rfl, hq⟩
      exact hslash rfl hq
    cases st with
    | outside => simp [step?, hmark]
    | _ => rfl

theorem slash_of_cons (hslash : (c :: p).getLast? = some '/' → q.head? ≠ some '/')
    (hp : p.getLast? = some '/') : q.head? ≠ some '/' :=
  hslash (by rw [List.getLast?_cons, hp, Option.getD_some])

end LiteralState

/-! ### Texts behind one another -/

/-- Texts behind one another are counted one after the other, unless a comment begins in the
first one or with its last character. -/
theorem nestingDeltaFrom_append (h : st.behind? p = some st')
    (hslash : p.getLast? = some '/' → q.head? ≠ some '/') :
    nestingDeltaFrom st (p ++ q) = nestingDeltaFrom st p + nestingDeltaFrom st' q := by
  induction p generalizing st with
  | nil =>
    obtain rfl := Option.some.inj h
    simp [nestingDeltaFrom]
  | cons c p ih =>
    obtain ⟨⟨n, st₁⟩, hstep, hrest⟩ := Option.bind_eq_some_iff.mp h
    have hstep' : st.step? (p ++ q).head? c = some (n, st₁) := by
      rw [LiteralState.step?_append hslash, hstep]
    rw [List.cons_append, nestingDeltaFrom_cons_of_step hstep, nestingDeltaFrom_cons_of_step hstep',
      ih hrest (LiteralState.slash_of_cons hslash), Int.add_assoc]

/-- Behind a text in which a comment begins nothing counts. -/
theorem nestingDeltaFrom_append_of_comment (h : st.behind? p = none) :
    nestingDeltaFrom st (p ++ q) = nestingDeltaFrom st p := by
  induction p generalizing st with
  | nil => exact absurd h (by simp [LiteralState.behind?])
  | cons c p ih =>
    rw [List.cons_append]
    rcases hstep : st.step? p.head? c with _ | ⟨n, st'⟩
    · have hstep' : st.step? (p ++ q).head? c = none := by
        rw [LiteralState.step?_eq_none_iff] at hstep ⊢
        refine hstep.imp id fun hmark => hmark.imp id fun ⟨hc, hnext⟩ => ⟨hc, ?_⟩
        rw [List.head?_append, hnext, Option.some_or]
      rw [nestingDeltaFrom_cons_of_comment hstep, nestingDeltaFrom_cons_of_comment hstep']
    · have hrest : st'.behind? p = none := by
        rwa [LiteralState.behind?, hstep] at h
      -- some character follows, so the longer text goes on with the same one
      have hhead : (p ++ q).head? = p.head? := by
        cases p with
        | nil => exact absurd hrest (by simp [LiteralState.behind?])
        | cons d p => rfl
      have hstep' : st.step? (p ++ q).head? c = some (n, st') := by rw [hhead, hstep]
      rw [nestingDeltaFrom_cons_of_step hstep, nestingDeltaFrom_cons_of_step hstep', ih hrest]

/-! ### Literals and comments -/

theorem Text.escaped_cons (c : Char) (t : Text) : Text.escaped (c :: t) =
    (if c = '\\' ∨ c = '"' then ['\\', c] else [c]) ++ t.escaped :=
  List.flatMap_cons

/-- The inside of a literal never ends it. -/
theorem behind?_escaped (s : Text) :
    LiteralState.behind? .inside (s.escaped ++ q) = LiteralState.behind? .inside q := by
  induction s with
  | nil => rfl
  | cons c s ih =>
    rw [Text.escaped_cons]
    split
    · exact ih
    · next hc =>
      rw [not_or] at hc
      rw [List.append_assoc, List.singleton_append, LiteralState.behind?, LiteralState.step?,
        if_neg hc.1, if_neg hc.2]
      exact ih

theorem nestingDeltaFrom_escaped (s : Text) :
    nestingDeltaFrom .inside (s.escaped ++ q) = nestingDeltaFrom .inside q := by
  induction s with
  | nil => rfl
  | cons c s ih =>
    rw [Text.escaped_cons]
    split
    · exact ih
    · next hc =>
      rw [not_or] at hc
      rw [List.append_assoc, List.singleton_append, nestingDeltaFrom, if_neg hc.1, if_neg hc.2]
      exact ih

theorem behind?_literal (s : Text) : LiteralState.behind? .outside s.literal = some .outside :=
  behind?_escaped s

theorem nestingDelta_literal (s : Text) : nestingDelta s.literal = 0 :=
  nestingDeltaFrom_escaped s

/-- **A count passes over literals and comments.**  A string literal behind a text that ends
outside of literals and comments counts nothing and leaves the count of what follows as it
is; behind the mark of a comment nothing counts.  A slash at the end of the text would make a
mark with a slash that follows, and the literal would keep the two apart. -/
theorem nestingDelta_passes_over {p : Text} (hp : LiteralState.behind? .outside p = some .outside)
    (hslash : p.getLast? ≠ some '/') (s q : Text) :
    nestingDelta (p ++ s.literal ++ q) = nestingDelta (p ++ q) ∧
      nestingDelta (p ++ "#".toList ++ q) = nestingDelta p ∧
      nestingDelta (p ++ "//".toList ++ q) = nestingDelta p := by
  have hbehind : ∀ r : Text, nestingDelta (p ++ r) = nestingDelta p + nestingDelta r :=
    fun r => nestingDeltaFrom_append hp fun h => absurd h hslash
  have hcomment : ∀ mark : Text, LiteralState.behind? .outside mark = none →
      nestingDelta (p ++ mark ++ q) = nestingDelta p + nestingDelta mark := by
    intro mark hmark
    rw [List.append_assoc, hbehind]
    exact congrArg _ (nestingDeltaFrom_append_of_comment hmark)
  refine ⟨?_, ?_, ?_⟩
  · have hlast : s.literal.getLast? = some '"' := List.getLast?_concat
    have hliteral : nestingDelta (s.literal ++ q) = nestingDelta s.literal + nestingDelta q :=
      nestingDeltaFrom_append (behind?_literal s) (by simp [hlast])
    rw [List.append_assoc, hbehind, hliteral, nestingDelta_literal, Int.zero_add, hbehind]
  · rw [hcomment _ rfl]
    exact Int.add_zero _
  · rw [hcomment _ rfl]
    exact Int.add_zero _

/-- A bracket left open in front of a literal that holds brackets, marks and a quotation mark. -/
theorem nestingDelta_passes_over_call :
    let p : Text := "[f(\"a)\"), 1 / 2, ".toList
    let s : Text := "\\]\" # \x7b //".toList
    let q : Text := ", ([".toList
    LiteralState.behind? .outside p = some .outside ∧ p.getLast? ≠ some '/' ∧
      nestingDelta (p ++ s.literal ++ q) = 3 ∧ nestingDelta (p ++ "#".toList ++ q) = 1 ∧
      nestingDelta (p ++ "//".toList ++ q) = 1 := by
  intro p s q
  have hp : LiteralState.behind? .outside p = some .outside := by decide
  have hslash : p.getLast? ≠ some '/' := by decide
  obtain ⟨hliteral, hnumber, hslashes⟩ := nestingDelta_passes_over hp hslash s q
  exact ⟨hp, hslash, hliteral.trans (by decide), hnumber.trans (by decide),
    hslashes.trans (by decide)⟩

-- without the literal a slash in front of it and one behind it are the mark of a comment
example : nestingDelta ("/".toList ++ Text.literal [] ++ "/(".toList) ≠
    nestingDelta ("/".toList ++ "/(".toList) := by
  decide

end ModuleWiring

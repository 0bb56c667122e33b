/-
The blank lines among the lines that a reading keeps.

A blank line is kept only behind a line of more than blanks, and the end of a call site takes
the blank line off that stands in front of it.  In a declaration no blank line is kept at all.
So kept lines have their blank ones set apart, and the line at which a block ends is none of
them:

* `Text.SetOff` — no end of a block stands right behind a blank line;
* `Nested` — kept lines one by one, and whether a block is open behind them;
* `nested_step` — what one line does to them;
* `nested_ofText` — such are the lines that a reading keeps.
-/
import ModuleWiring.Proofs.Reading.Blocks

namespace ModuleWiring

open Reading

namespace Text

variable {ls ls' : List Text} {line : Text}

@[simp] theorem crosses_nil (inside : Bool) : crosses inside [] = inside := by
  cases inside <;> rfl

theorem crosses_of_ne_blockEnd (he : line ≠ blockEnd) : crosses true line = true := by
  rw [crosses, if_pos rfl, bne_iff_ne]
  exact he

theorem endsInside_append (h : endsInside ls = true) (hend : blockEnd ∉ ls') :
    endsInside (ls ++ ls') = true := by
  induction ls' generalizing ls with
  | nil => rwa [List.append_nil]
  | cons l ls' ih =>
    rw [List.mem_cons, not_or] at hend
    have hl : endsInside (ls ++ [l]) = true := by
      rw [endsInside_concat, h, crosses_of_ne_blockEnd (Ne.symm hend.1)]
    rw [List.append_cons]
    exact ih hl hend.2

/-- Whether no brace right behind a blank line ends a block. -/
def SetOff (ls : List Text) : Prop :=
  ∀ before after, ls = before ++ [] :: blockEnd :: after → endsInside before = false

theorem setOff_nil : SetOff [] := by simp [SetOff]

theorem SetOff.concat (h : SetOff ls)
    (hline : line = blockEnd → endsInside ls = true → [] ∉ ls.getLast?) :
    SetOff (ls ++ [line]) := by
  intro before after hls
  rcases List.eq_nil_or_concat after with rfl | ⟨after, l, rfl⟩
  · -- the brace is the line at the end
    have hsplit : ls ++ [line] = (before ++ [[]]) ++ [blockEnd] := by rw [hls]; simp
    obtain ⟨rfl, hend⟩ := List.append_inj' hsplit rfl
    rw [← Bool.not_eq_true]
    intro hinside
    refine hline (List.singleton_inj.mp hend) ?_ (by simp)
    rw [endsInside_concat, crosses_nil, hinside]
  · have hsplit : ls ++ [line] = (before ++ [] :: blockEnd :: after) ++ [l] := by rw [hls]; simp
    exact h before after (List.append_inj' hsplit rfl).1

theorem SetOff.append (h : SetOff ls) (hend : blockEnd ∉ ls') : SetOff (ls ++ ls') := by
  induction ls' generalizing ls with
  | nil => rwa [List.append_nil]
  | cons l ls' ih =>
    rw [List.mem_cons, not_or] at hend
    rw [List.append_cons]
    exact ih (h.concat fun hl => absurd hl.symm hend.1) hend.2

end Text

namespace Reading

/-- Kept lines, the newest first, whose blank ones are set apart; `inside` tells whether a block
is open behind them. -/
inductive Nested : (inside : Bool) → List Line → Prop
  | nil : Nested false []
  | line {inside kept line} (h : Nested inside kept) (hline : IsLine line)
    (he : inside = true → line ≠ blockEnd)
    (ha : (Text.isBlank line && kept.head?.any Line.isBlank) = false) :
    Nested (Text.crosses inside line) ({ text := line } :: kept)
  | ends {kept line} (h : Nested true ({ text := line } :: kept)) (hb : Text.isBlank line = false)
    (b : BlockEnd) :
    Nested false ({ text := blockEnd } :: { text := line, closes := some b } :: kept)

variable {inside : Bool} {kept : List Line} {line : Text} {s s' : Reading × List Line}

theorem Nested.keep (h : Nested inside kept) (hline : IsLine line)
    (he : inside = true → line ≠ blockEnd) :
    Nested (Text.crosses inside line) (keep line kept) := by
  rw [Reading.keep]
  split
  · next hrepeats =>
    rw [hline.eq_nil (Bool.and_eq_true_iff.mp hrepeats).1, Text.crosses_nil]
    exact h
  · next hapart => exact h.line hline he (Bool.eq_false_iff.mpr hapart)

/-- Blank lines open no block and end none. -/
theorem Nested.dropWhile (h : Nested inside kept) :
    Nested inside (kept.dropWhile Line.isBlank) := by
  induction h with
  | nil => exact .nil
  | @line inside kept line h hline he ha ih =>
    cases hb : Text.isBlank line with
    | true =>
      have hdrop : ({ text := line } :: kept : List Line).dropWhile Line.isBlank =
          kept.dropWhile Line.isBlank := List.dropWhile_cons_of_pos hb
      rw [hdrop, hline.eq_nil hb, Text.crosses_nil]
      exact ih
    | false =>
      rw [dropWhile_of_not_blank (l := { text := line }) hb]
      exact h.line hline he ha
  | ends h hb b =>
    rw [dropWhile_of_not_blank (l := { text := blockEnd }) isBlank_blockEnd]
    exact h.ends hb b

theorem Nested.markEnd {l : Line} (h : Nested true (l :: kept)) (hb : l.isBlank = false)
    (hm : l.closes = none) (kind : BlockKind) (name : Text) :
    Nested false ({ text := blockEnd } :: markEnd kind name (l :: kept)) := by
  obtain ⟨text, closes⟩ := l
  obtain rfl : closes = none := hm
  exact h.ends hb { kind := kind, name := name }

/-- A line crosses into a block or out of one just when the reading does. -/
theorem nested_step (ht : Topped s.1.region s.2)
    (hs : Nested s.1.region.block?.isSome s.2) (hline : IsLine line) (h : Step s line s') :
    Nested s'.1.region.block?.isSome s'.2 := by
  cases h with
  | label | valueGoesOn | valueEnd | passThrough | setting | openSetting | declarationBlank =>
    exact hs
  | overrideMark hl hh | emptyDeclaration hl hh | outsideBlank hl hh | outsideLine hl hh =>
    have hkeep := hs.keep hline (by simp [Region.block?])
    have hopens := Heading.opens?_eq_none hh (by simp)
    simpa [Text.crosses, Region.block?, hopens] using hkeep
  | callSiteHeading hl hh | declarationHeading hl hh =>
    have hkeep := hs.keep hline (by simp [Region.block?])
    simpa [Text.crosses, Region.block?, Heading.opens?, hh] using hkeep
  | reserved hl he | callSiteLine hl he =>
    have hkeep := hs.keep hline fun _ => he
    simpa [Region.block?, Text.crosses_of_ne_blockEnd he] using hkeep
  | declarationLine hl he hb =>
    have hkeep := hs.keep hline fun _ => he
    rw [keep_of_not_blank hb] at hkeep
    simpa [Region.block?, Text.crosses_of_ne_blockEnd he] using hkeep
  | callSiteEnd =>
    -- the end takes a blank line off and falls on the line in front of it
    have hdrop := hs.dropWhile
    cases ht with
    | callSite hb hm =>
      rw [dropWhile_of_not_blank hb] at hdrop ⊢
      exact hdrop.markEnd hb hm _ _
    | @callSiteBlank _ _ _ l ls hb hm =>
      have hnext : ({ text := [] } :: l :: ls : List Line).dropWhile Line.isBlank = l :: ls :=
        (List.dropWhile_cons_of_pos rfl).trans (dropWhile_of_not_blank hb)
      rw [hnext] at hdrop ⊢
      exact hdrop.markEnd hb hm _ _
  | declarationEnd =>
    cases ht with
    | declaration hb hm => exact hs.markEnd hb hm _ _

theorem nested_ofText (t : Text) : Nested (ofText t).1.region.block?.isSome (ofText t).2 :=
  (ofText_induction (P := fun s => Topped s.1.region s.2 ∧ Nested s.1.region.block?.isSome s.2)
    ⟨.outside, .nil⟩
    (fun _ _ _ hs hline h => ⟨topped_step hs.1 hline h, nested_step hs.1 hs.2 hline h⟩) t).2

end Reading

end ModuleWiring

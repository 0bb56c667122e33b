/-
Declarations on one line and on several.

A declaration whose heading ends with its brace is known, and so is one with nothing in it on a
single line.  With anything between the braces a single line is none of the forms that open or
declare something, and is kept like any other line.

* `Text.endsMarked` — whether the override mark still counts behind a text;
* `declarations_spread`, `declarations_inline` — what the two ways to write a declaration behind
  a text make known;
* `inline_agrees_iff` — when they make known the same.
-/
import ModuleWiring.Proofs.Convention
import ModuleWiring.Proofs.Reading.Kept

namespace ModuleWiring

open Reading

namespace Text

/-- Whether the override mark is the last of some lines that are neither blank nor labels. -/
def endMarked (ls : List Text) : Bool :=
  (ls.filter fun l => !isLabelLine l && !isBlank l).getLast?.any Heading.isOverrideMark

/-- Whether the override mark is the last line of a text that is neither blank nor a label. -/
def endsMarked (t : Text) : Bool :=
  endMarked (t.lines.map trimEnd)

theorem endMarked_concat_of_label {line : Text} (hl : isLabelLine line = true) (ls : List Text) :
    endMarked (ls ++ [line]) = endMarked ls := by
  simp [endMarked, hl]

theorem endMarked_concat_of_blank {line : Text} (hb : isBlank line = true) (ls : List Text) :
    endMarked (ls ++ [line]) = endMarked ls := by
  simp [endMarked, hb]

theorem endMarked_concat {line : Text} (hl : isLabelLine line = false)
    (hb : isBlank line = false) (ls : List Text) :
    endMarked (ls ++ [line]) = Heading.isOverrideMark line := by
  simp [endMarked, hl, hb]

end Text

theorem Heading.ofLine?_eq_overrideMark_iff {line : Text} :
    ofLine? line = some .overrideMark ↔ isOverrideMark line = true := by
  rw [ofLine?]
  split
  · next hm => simp [hm]
  · next hm =>
    refine ⟨fun h => ?_, fun h => absurd h hm⟩
    split at h
    · split at h <;> simp at h
    · split at h
      · split at h
        · simp at h
        · split at h <;> simp at h
      · simp at h

/-- What is not the override mark reads as something else or as nothing. -/
theorem Heading.not_isOverrideMark {line : Text} (hne : ofLine? line ≠ some .overrideMark) :
    isOverrideMark line = false := by
  rw [← Bool.not_eq_true, ← ofLine?_eq_overrideMark_iff]
  exact hne

namespace Reading

variable {s s' : Reading × List Line} {line : Text} {ls : List Text}

/-- Outside of blocks a reading knows whether the override mark came last. -/
theorem override_step (hs : ∀ o, s.1.region = .outside o → o = Text.endMarked ls)
    (hline : IsLine line) (h : Step s line s') :
    ∀ o, s'.1.region = .outside o → o = Text.endMarked (ls ++ [line]) := by
  cases h with
  | label hl =>
    rw [Text.endMarked_concat_of_label hl]
    exact hs
  | overrideMark hl hh =>
    rintro o ⟨⟩
    rw [Text.endMarked_concat hl (not_blank_of_heading hline hh),
      Heading.ofLine?_eq_overrideMark_iff.mp hh]
  | emptyDeclaration hl hh =>
    rintro o ⟨⟩
    rw [Text.endMarked_concat hl (not_blank_of_heading hline hh),
      Heading.not_isOverrideMark (by simp [hh])]
  | outsideBlank hl hh hb =>
    rw [Text.endMarked_concat_of_blank hb]
    exact hs
  | outsideLine hl hh hb =>
    rintro o ⟨⟩
    rw [Text.endMarked_concat hl hb, Heading.not_isOverrideMark (by simp [hh])]
  | callSiteEnd | declarationEnd =>
    rintro o ⟨⟩
    rw [Text.endMarked_concat isLabelLine_blockEnd isBlank_blockEnd]
    rfl
  | _ => exact fun o ho => absurd ho (by simp)

theorem override_ofText {t : Text} {o : Bool} (h : (ofText t).1.region = .outside o) :
    o = t.endsMarked := by
  rw [ofText_eq_run] at h
  refine prefix_induction (P := fun ls s =>
    ∀ o, s.1.region = .outside o → o = Text.endMarked ls)
    ?_ (fun ls s line s' hs hline hstep => override_step hs hline hstep)
    (fun line hl => isLine_of_mem_lines hl) o h
  rintro o ⟨⟩
  rfl

/-- In a declaration any line but its end leaves the declaration open, and what it is called and
whether it is marked. -/
theorem declaration_step {d : Declaration} {m : Nat} (hregion : s.1.region = .declaration d m)
    (he : line ≠ blockEnd) (h : Step s line s') :
    ∃ d', s'.1.region = .declaration d' m ∧ d'.name = d.name ∧
      d'.isOverride = d.isOverride ∧ s'.1.declarations = s.1.declarations := by
  cases h with
  | label => exact ⟨d, hregion, rfl, rfl, rfl⟩
  | declarationEnd => exact absurd rfl he
  | declarationBlank | declarationLine =>
    obtain ⟨rfl, rfl⟩ := Region.declaration.inj hregion
    exact ⟨_, rfl, rfl, rfl, rfl⟩
  | _ => exact absurd hregion (by simp)

theorem declarations_blockEnd {d : Declaration} {m : Nat}
    (hregion : s.1.region = .declaration d m) :
    (visit.step s blockEnd).1.declarations = d :: s.1.declarations := by
  obtain ⟨⟨g, n, cs, ds, rs⟩, kept⟩ := s
  obtain rfl : g = .declaration d m := hregion
  rw [Step.declarationEnd.eq]

/-- A declaration that ends is written under its name. -/
theorem declarations_content {d : Declaration} (h : s'.1.declarations = d :: s.1.declarations) :
    (s'.1.content s'.2).declarations = (s.1.content s.2).declarations.insert d.name d := by
  rw [content, h, List.reverse_cons, List.map_append, List.map_singleton, OrderedMap.ofList_concat]
  rfl

end Reading

/-! ### Two ways to write a declaration -/

/-- A declaration with its body between the braces of a single line. -/
def inlineDeclaration (name body : Text) : Text :=
  Heading.opening name ++ ' ' :: (body ++ [' ', '\x7d'])

/-- A declaration with its body on a line of its own. -/
def spreadDeclaration (name body : Text) : List Text :=
  [Heading.opening name, ' ' :: ' ' :: body, blockEnd]

variable {t name body : Text}

theorem isBlockName_of_isIdentifier (h : isIdentifier name = true) : IsBlockName name where
  ne_nil := ne_nil_of_isIdentifier h
  noQuote hm := ne_of_mem_identifier (d := '"') h hm (by decide) rfl

theorem not_feed_of_isIdentifier (h : isIdentifier name = true) : '\n' ∉ name :=
  fun hm => ne_of_mem_identifier (d := '\n') h hm (by decide) rfl

/-- What is left of the body and the brace behind it is the brace alone just when the body is
blank. -/
theorem trimStart_inline_iff :
    Text.trimStart (' ' :: (body ++ [' ', '\x7d'])) = ['\x7d'] ↔ Text.isBlank body = true := by
  have hdrop : Text.trimStart (' ' :: (body ++ [' ', '\x7d'])) =
      if (Text.trimStart body).isEmpty then ['\x7d'] else Text.trimStart body ++ [' ', '\x7d'] := by
    show (body ++ [' ', '\x7d']).dropWhile isBlankChar = _
    rw [List.dropWhile_append]
    rfl
  have hblank : Text.isBlank body = true ↔ Text.trimStart body = [] := by
    rw [Text.isBlank, List.all_eq_true, Text.trimStart, List.dropWhile_eq_nil_iff]
  rw [hdrop, hblank]
  rcases hu : Text.trimStart body with _ | ⟨c, u⟩ <;> simp

/-- With nothing but blanks in it a declaration on a single line reads as an empty one, and with
anything else as none. -/
theorem ofLine?_inline (h : isIdentifier name = true) :
    Heading.ofLine? (inlineDeclaration name body) =
      if Text.isBlank body then some (.emptyDeclaration name) else none := by
  rw [inlineDeclaration, Heading.ofLine?, Heading.isOverrideMark_opening,
    Heading.opening?_callSite_opening, Heading.opening?_opening (isBlockName_of_isIdentifier h)]
  simp [trimStart_inline_iff]

theorem isLine_inline (hname : isIdentifier name = true) (hbody : '\n' ∉ body) :
    IsLine (inlineDeclaration name body) := by
  constructor
  · simp [inlineDeclaration, Heading.not_feed_opening (not_feed_of_isIdentifier hname), hbody]
  · have hconcat : inlineDeclaration name body =
        (Heading.opening name ++ ' ' :: (body ++ [' '])) ++ ['\x7d'] := by
      simp [inlineDeclaration]
    rw [hconcat]
    exact Text.trimEnd_concat_of_not_blank (by decide)

theorem not_feed_spread (hname : isIdentifier name = true) (hbody : '\n' ∉ body) :
    ∀ l ∈ spreadDeclaration name body, '\n' ∉ l := by
  have hopening := Heading.not_feed_opening (not_feed_of_isIdentifier hname)
  simp [spreadDeclaration, hopening, hbody, blockEnd]

namespace Reading

variable {o : Bool}

/-- Outside of blocks the three lines come to the declaration, whatever its body is. -/
theorem declarations_spread (hregion : s.1.region = .outside o) (hname : isIdentifier name = true)
    (body : Text) :
    ∃ d : Declaration, d.name = name ∧ d.isOverride = o ∧
      (run s ((spreadDeclaration name body).map Text.trimEnd)).1.declarations =
        d :: s.1.declarations := by
  obtain ⟨⟨g, n, cs, ds, rs⟩, kept⟩ := s
  obtain rfl : g = .outside o := hregion
  have hheading := Heading.ofLine?_opening (isBlockName_of_isIdentifier hname)
  have hlabel : isLabelLine (Heading.opening name) = false := by
    simpa using Heading.isLabelLine_opening name []
  obtain ⟨d, hd, hdname, hmark, hdeclarations⟩ := declaration_step rfl
    (trimEnd_ne_blockEnd (' ' :: body))
    (step_spec (⟨.declaration { name := name, isOverride := o } (n + 1), n + 1, cs, ds, rs⟩,
      keep (Heading.opening name) kept) _)
  refine ⟨d, hdname, hmark, ?_⟩
  rw [spreadDeclaration, List.map_cons, Heading.trimEnd_opening, run_cons,
    (Step.declarationHeading hlabel hheading).eq, List.map_cons, run_cons]
  rw [List.map_singleton, run_singleton]
  exact (declarations_blockEnd hd).trans (congrArg (d :: ·) hdeclarations)

/-- Outside of blocks the single line comes to the declaration if nothing is in it. -/
theorem declarations_inline_of_blank (hregion : s.1.region = .outside o)
    (hname : isIdentifier name = true) (hb : Text.isBlank body = true) :
    (visit.step s (inlineDeclaration name body)).1.declarations =
      { name := name, isOverride := o } :: s.1.declarations := by
  obtain ⟨⟨g, n, cs, ds, rs⟩, kept⟩ := s
  obtain rfl : g = .outside o := hregion
  have hheading : Heading.ofLine? (inlineDeclaration name body) = _ := ofLine?_inline hname
  rw [if_pos hb] at hheading
  have hlabel : isLabelLine (inlineDeclaration name body) = false :=
    Heading.isLabelLine_opening name _
  rw [(Step.emptyDeclaration hlabel hheading).eq]

/-- With more than blanks in it the single line is a line like any other. -/
theorem step_inline_of_not_blank (hregion : s.1.region = .outside o)
    (hname : isIdentifier name = true) (hb : Text.isBlank body = false) :
    (visit.step s (inlineDeclaration name body)).1.declarations = s.1.declarations ∧
      (visit.step s (inlineDeclaration name body)).2 =
        { text := inlineDeclaration name body } :: s.2 := by
  obtain ⟨⟨g, n, cs, ds, rs⟩, kept⟩ := s
  obtain rfl : g = .outside o := hregion
  have hheading : Heading.ofLine? (inlineDeclaration name body) = _ := ofLine?_inline hname
  rw [if_neg (Bool.eq_false_iff.mp hb)] at hheading
  have hlabel : isLabelLine (inlineDeclaration name body) = false :=
    Heading.isLabelLine_opening name _
  have hline : Text.isBlank (inlineDeclaration name body) = false := rfl
  rw [(Step.outsideLine hlabel hheading hline).eq]
  exact ⟨rfl, keep_of_not_blank hline⟩

end Reading

namespace Content

/-- Where a text without an open block stands, whether the override mark still counts. -/
theorem region_of_unclosed (h : (ofText t).unclosed = none) :
    (Reading.ofText t).1.region = .outside t.endsMarked := by
  obtain ⟨o, ho⟩ := exists_outside (r := (Reading.ofText t).1) h
  rw [ho, override_ofText ho]

/-- The reading of a text with the single line behind it. -/
theorem ofText_inline (hlines : t = [] ∨ ∃ u, t = u ++ ['\n'])
    (hname : isIdentifier name = true) (hbody : '\n' ∉ body) :
    Reading.ofText (t ++ Text.ofLines [inlineDeclaration name body]) =
      visit.step (Reading.ofText t) (inlineDeclaration name body) := by
  have hline := isLine_inline hname hbody
  rw [Reading.ofText_append_ofLines hlines (by simpa using hline.noFeed), List.map_singleton,
    hline.trimmed, run_singleton]

section Behind

variable (hlines : t = [] ∨ ∃ u, t = u ++ ['\n']) (hclosed : (ofText t).unclosed = none)
  (hname : isIdentifier name = true) (hbody : '\n' ∉ body)
include hlines hclosed hname hbody

theorem declarations_spread :
    ∃ d : Declaration, d.name = name ∧ d.isOverride = t.endsMarked ∧
      (ofText (t ++ Text.ofLines (spreadDeclaration name body))).declarations =
        (ofText t).declarations.insert name d := by
  obtain ⟨d, rfl, hmark, h⟩ :=
    Reading.declarations_spread (region_of_unclosed hclosed) hname body
  rw [← Reading.ofText_append_ofLines hlines (not_feed_spread hname hbody)] at h
  exact ⟨d, rfl, hmark, declarations_content h⟩

theorem declarations_inline_of_blank (hb : Text.isBlank body = true) :
    (ofText (t ++ Text.ofLines [inlineDeclaration name body])).declarations =
      (ofText t).declarations.insert name { name := name, isOverride := t.endsMarked } := by
  have h := Reading.declarations_inline_of_blank (region_of_unclosed hclosed) hname hb
  rw [← ofText_inline hlines hname hbody] at h
  exact declarations_content h

theorem inline_of_not_blank (hb : Text.isBlank body = false) :
    (ofText (t ++ Text.ofLines [inlineDeclaration name body])).declarations =
        (ofText t).declarations ∧
      (ofText (t ++ Text.ofLines [inlineDeclaration name body])).lines =
        (ofText t).lines ++ [{ text := inlineDeclaration name body }] := by
  obtain ⟨hdeclarations, hkept⟩ :=
    step_inline_of_not_blank (region_of_unclosed hclosed) hname hb
  rw [← ofText_inline hlines hname hbody] at hdeclarations hkept
  constructor
  · rw [ofText_eq, Reading.content, hdeclarations]
    rfl
  · rw [ofText_eq, Reading.content, hkept, List.reverse_cons]
    rfl

end Behind

/-- **A declaration on one line and on several.**  Behind a text that leaves no block open the
three lines declare the variable, with the mark that the text ends with.  The single line does
the same if nothing stands between its braces; otherwise it declares nothing and is kept as it
is.  So the two make known the same variables and the same mark just when nothing stands there
or the variable is declared with that mark before. -/
theorem inline_agrees_iff {t name body : Text} (hlines : t = [] ∨ ∃ u, t = u ++ ['\n'])
    (hclosed : (ofText t).unclosed = none) (hname : isIdentifier name = true)
    (hbody : '\n' ∉ body) :
    (∃ d : Declaration, d.name = name ∧ d.isOverride = t.endsMarked ∧
      (ofText (t ++ Text.ofLines (spreadDeclaration name body))).declarations =
        (ofText t).declarations.insert name d) ∧
    (Text.isBlank body = false →
      (ofText (t ++ Text.ofLines [inlineDeclaration name body])).declarations =
          (ofText t).declarations ∧
        (ofText (t ++ Text.ofLines [inlineDeclaration name body])).lines =
          (ofText t).lines ++ [{ text := inlineDeclaration name body }]) ∧
    ((ofText (t ++ Text.ofLines [inlineDeclaration name body])).declarations.keys =
        (ofText (t ++ Text.ofLines (spreadDeclaration name body))).declarations.keys ∧
      ((ofText (t ++ Text.ofLines [inlineDeclaration name body])).declarations.get? name).map
          Declaration.isOverride =
        ((ofText (t ++ Text.ofLines (spreadDeclaration name body))).declarations.get? name).map
          Declaration.isOverride ↔
      Text.isBlank body = true ∨
        ((ofText t).declarations.get? name).map Declaration.isOverride = some t.endsMarked) := by
  have hspread := declarations_spread hlines hclosed hname hbody
  have hinline := inline_of_not_blank hlines hclosed hname hbody
  refine ⟨hspread, hinline, ?_⟩
  obtain ⟨d, hdname, hmark, hd⟩ := hspread
  rw [hd, OrderedMap.keys_insert, OrderedMap.get?_insert, if_pos rfl, Option.map_some, hmark]
  cases hb : Text.isBlank body with
  | true =>
    rw [declarations_inline_of_blank hlines hclosed hname hbody hb, OrderedMap.keys_insert,
      OrderedMap.get?_insert, if_pos rfl]
    simp
  | false =>
    rw [(hinline hb).1, or_iff_right Bool.false_ne_true]
    refine ⟨And.right, fun h => ⟨?_, h⟩⟩
    -- a variable whose mark is known is listed already
    obtain ⟨d', hget, -⟩ := Option.map_eq_some_iff.mp h
    rw [if_pos (OrderedMap.contains_iff.mp (Option.isSome_of_eq_some hget))]

/-- Behind an override mark, a type on the line of the heading. -/
theorem inline_agrees_iff_size :
    let t : Text := "# override\n".toList
    let inline := t ++ Text.ofLines [inlineDeclaration "size".toList "type = number".toList]
    let spread := t ++ Text.ofLines (spreadDeclaration "size".toList "type = number".toList)
    (ofText inline).declarations.keys = [] ∧
      (ofText spread).declarations.keys = ["size".toList] ∧
      ((ofText spread).declarations.get? "size".toList).map Declaration.isOverride = some true := by
  intro t inline spread
  have hlines : t = t.dropLast ++ ['\n'] := rfl
  have hname : isIdentifier "size".toList = true := by decide
  have hbody : '\n' ∉ "type = number".toList := by decide
  obtain ⟨⟨d, -, hmark, hspread⟩, hinline, -⟩ :=
    inline_agrees_iff (.inr ⟨_, hlines⟩) (by decide) hname hbody
  have hnone : (ofText t).declarations.keys = [] := by decide
  have hmarked : t.endsMarked = true := by decide
  refine ⟨(congrArg _ (hinline (by decide)).1).trans hnone, ?_, ?_⟩
  · rw [hspread, OrderedMap.keys_insert, hnone]
    rfl
  · rw [hspread, OrderedMap.get?_insert, if_pos rfl, Option.map_some, hmark, hmarked]

/-- A body on the line of the heading leaves the variable unknown that the same body on a line of
its own makes known. -/
theorem inline_body_undeclared :
    ∃ t name body : Text, t = [] ∧ (ofText t).unclosed = none ∧ isIdentifier name = true ∧
      body = "type = string".toList ∧
      (ofText (t ++ Text.ofLines [inlineDeclaration name body])).declarations.keys = [] ∧
      (ofText (t ++ Text.ofLines (spreadDeclaration name body))).declarations.keys = [name] := by
  refine ⟨[], "v".toList, "type = string".toList, rfl, ?_⟩
  decide

end Content

end ModuleWiring

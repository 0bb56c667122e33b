/-
The blocks that a text opens.

A block goes from the line that opens it to the next brace that stands alone; whatever
reads like a heading in between is a line of the block.  Whether a line stands in a block
can be told from the headings and braces in front of it, so the blocks of a text are
listed without reading what is in them:

* `Text.openings` — the blocks that lines outside of blocks open, in order;
* `Content.closings` — the blocks that the kept lines say have ended, in order;
* `openings_eq` — the blocks that are opened are those that have ended, and then the one
  that the end of the text leaves open.
-/
import ModuleWiring.Proofs.Heading
import ModuleWiring.Proofs.Reading.Kept

namespace ModuleWiring

/-- The block that a line opens, if it reads like the first line of one. -/
def Heading.opens? (line : Text) : Option BlockEnd :=
  match ofLine? line with
  | some (.callSite name) => some { kind := .callSite, name := name }
  | some (.declaration name) => some { kind := .declaration, name := name }
  | _ => none

namespace Text

/-- The blocks that lines open, in order; `inside` tells whether the lines begin in a
block. -/
def openingsFrom : (inside : Bool) → List Text → List BlockEnd
  | _, [] => []
  | true, line :: ls => openingsFrom (line != Reading.blockEnd) ls
  | false, line :: ls =>
    (Heading.opens? line).toList ++ openingsFrom (Heading.opens? line).isSome ls

/-- The blocks that a text opens, in order. -/
def openings (t : Text) : List BlockEnd :=
  openingsFrom false (t.lines.map trimEnd)

end Text

/-- The blocks that end behind the lines of a content, in order. -/
def Content.closings (c : Content) : List BlockEnd :=
  c.lines.filterMap Line.closes

/-- The block that is left open. -/
def Unclosed.block (u : Unclosed) : BlockEnd where
  kind := u.kind
  name := u.name

namespace Heading

theorem isLabelLine_opening? {keyword line : Text} {nr : Text × Text}
    (h : opening? keyword line = some nr)
    (hk : ∀ rest, isLabelLine (keyword ++ rest) = false) : isLabelLine line = false := by
  obtain ⟨behind, hbehind, -⟩ := Option.bind_eq_some_iff.mp h
  rw [Text.after?_eq_some_iff.mp hbehind]
  exact hk behind

/-- A label opens no block. -/
theorem opens?_of_label {line : Text} (h : isLabelLine line = true) : opens? line = none := by
  have hnot : ∀ kind : BlockKind, opening? kind.keyword line = none := by
    intro kind
    rcases hopen : opening? kind.keyword line with _ | nr
    · rfl
    · have hlabel := isLabelLine_opening? hopen fun rest => by cases kind <;> rfl
      exact absurd (hlabel.symm.trans h) Bool.false_ne_true
  rw [opens?, ofLine?, hnot, hnot]
  cases isOverrideMark line <;> rfl

theorem opens?_eq_none {line : Text} {h : Option Heading} (hh : ofLine? line = h)
    (hopens : ∀ name, h ≠ some (.callSite name) ∧ h ≠ some (.declaration name)) :
    opens? line = none := by
  rw [opens?, hh]
  rcases h with _ | ⟨_ | name | name | name⟩
  · rfl
  · rfl
  · exact absurd rfl (hopens name).1
  · exact absurd rfl (hopens name).2
  · rfl

end Heading

/-- The block that a reading stands in. -/
def Region.block? : Region → Option BlockEnd
  | .outside _ => none
  | .callSite site _ _ => some { kind := .callSite, name := site.name }
  | .declaration d _ => some { kind := .declaration, name := d.name }

namespace Reading

/-- The blocks that a reading has come to, in order: those that kept lines end, and the one
that it stands in. -/
def entered (s : Reading × List Line) : List BlockEnd :=
  (s.2.filterMap Line.closes).reverse ++ s.1.region.block?.toList

variable {s s' : Reading × List Line} {line : Text} {kept : List Line}

/-- A line that is kept ends no block. -/
theorem closes_keep (line : Text) (kept : List Line) :
    (keep line kept).filterMap Line.closes = kept.filterMap Line.closes := by
  rcases keep_eq_or line kept with h | h
  · rw [h]
  · rw [h, List.filterMap_cons_none rfl]

/-- The end of a block marks a line that had no mark. -/
theorem closes_markEnd {l : Line} {ls : List Line} (hm : l.closes = none) (kind : BlockKind)
    (name : Text) : ({ text := blockEnd } :: markEnd kind name (l :: ls)).filterMap Line.closes =
      { kind := kind, name := name } :: (l :: ls).filterMap Line.closes := by
  rw [List.filterMap_cons_none rfl, List.filterMap_cons_none hm, markEnd]
  exact List.filterMap_cons_some rfl

/-- The line that the end of a call site marks, without the blank one that may follow it. -/
theorem Topped.dropWhile_eq_cons {site : CallSite} {m : Nat} {cur : Option OpenSetting}
    (h : Topped (.callSite site m cur) kept) : ∃ l ls, kept.dropWhile Line.isBlank = l :: ls ∧
      l.closes = none ∧ kept.filterMap Line.closes = (l :: ls).filterMap Line.closes := by
  cases h with
  | callSite hb hm => exact ⟨_, _, dropWhile_of_not_blank hb, hm, rfl⟩
  | callSiteBlank hb hm =>
    exact ⟨_, _, (List.dropWhile_cons_of_pos rfl).trans (dropWhile_of_not_blank hb), hm,
      List.filterMap_cons_none rfl⟩

theorem ne_blockEnd_of_label (h : isLabelLine line = true) : line ≠ blockEnd := by
  rintro rfl
  exact absurd (isLabelLine_blockEnd.symm.trans h) Bool.false_ne_true

/-- How a line changes the blocks that a reading has come to. -/
structure Enters (s s' : Reading × List Line) (line : Text) : Prop where
  entered : entered s' = entered s ++
    (if s.1.region.block?.isSome then [] else (Heading.opens? line).toList)
  inside : s'.1.region.block?.isSome =
    if s.1.region.block?.isSome then line != blockEnd else (Heading.opens? line).isSome

/-- A line of a block that is not its end. -/
theorem Enters.of_inside {b : BlockEnd} (hs : s.1.region.block? = some b)
    (hs' : s'.1.region.block? = some b) (he : line ≠ blockEnd)
    (hc : s'.2.filterMap Line.closes = s.2.filterMap Line.closes) : Enters s s' line := by
  constructor
  · rw [Reading.entered, Reading.entered, hs, hs', hc]
    simp
  · rw [hs, hs']
    simp [he]

/-- The line that ends a block. -/
theorem Enters.of_end {b : BlockEnd} (hs : s.1.region.block? = some b)
    (hs' : s'.1.region.block? = none)
    (hc : s'.2.filterMap Line.closes = b :: s.2.filterMap Line.closes) :
    Enters s s' blockEnd := by
  constructor
  · rw [Reading.entered, Reading.entered, hs, hs', hc]
    simp
  · rw [hs, hs']
    simp

/-- A line outside of blocks. -/
theorem Enters.of_outside (hs : s.1.region.block? = none)
    (hs' : s'.1.region.block? = Heading.opens? line)
    (hc : s'.2.filterMap Line.closes = s.2.filterMap Line.closes) : Enters s s' line := by
  constructor
  · rw [Reading.entered, Reading.entered, hs, hs', hc]
    simp
  · rw [hs, hs']
    simp

/-- A line of a block adds nothing to the blocks that are entered; one outside of blocks
adds what it opens. -/
theorem enters_step (ht : Topped s.1.region s.2) (h : Step s line s') : Enters s s' line := by
  cases h with
  | @label g n cs ds rs kept line hl =>
    cases g with
    | outside => exact .of_outside rfl (Heading.opens?_of_label hl).symm rfl
    | callSite => exact .of_inside rfl rfl (ne_blockEnd_of_label hl) rfl
    | declaration => exact .of_inside rfl rfl (ne_blockEnd_of_label hl) rfl
  | overrideMark hl hh | emptyDeclaration hl hh | outsideBlank hl hh hb | outsideLine hl hh hb =>
    exact .of_outside rfl (Heading.opens?_eq_none hh (by simp)).symm (closes_keep _ _)
  | callSiteHeading hl hh | declarationHeading hl hh =>
    refine .of_outside rfl ?_ (closes_keep _ _)
    rw [Heading.opens?, hh]
    rfl
  | @callSiteEnd site m cur =>
    obtain ⟨l, ls, hdrop, hm, hc⟩ := ht.dropWhile_eq_cons
    refine .of_end rfl rfl ?_
    rw [hdrop, closes_markEnd hm, name_close, hc]
  | declarationEnd =>
    cases ht with
    | declaration hb hm => exact .of_end rfl rfl (closes_markEnd hm _ _)
  | declarationBlank hl hb =>
    refine .of_inside rfl rfl ?_ rfl
    rintro rfl
    exact absurd (isBlank_blockEnd.symm.trans hb) Bool.false_ne_true
  | declarationLine hl he hb => exact .of_inside rfl rfl he (List.filterMap_cons_none rfl)
  | reserved hl he | callSiteLine hl he => exact .of_inside rfl rfl he (closes_keep _ _)
  | passThrough hl he | setting hl he | openSetting hl he | valueGoesOn hl he =>
    exact .of_inside rfl rfl he rfl
  | valueEnd hl he =>
    refine .of_inside rfl ?_ he rfl
    rw [Region.block?, name_close]
    rfl

theorem entered_run (ht : Topped s.1.region s.2) {ls : List Text}
    (hls : ∀ line ∈ ls, IsLine line) :
    entered (run s ls) = entered s ++ Text.openingsFrom s.1.region.block?.isSome ls := by
  induction ls generalizing s with
  | nil => cases s.1.region.block?.isSome <;> simp [Text.openingsFrom]
  | cons line ls ih =>
    have hstep := step_spec s line
    have hline := hls line List.mem_cons_self
    have henters := enters_step ht hstep
    have hrest := ih (topped_step ht hline hstep) fun l hl => hls l (List.mem_cons_of_mem line hl)
    rw [run_cons, hrest, henters.entered, henters.inside, List.append_assoc]
    cases s.1.region.block?.isSome <;> simp [Text.openingsFrom]

end Reading

namespace Content

variable {t : Text}

theorem closings_ofText (t : Text) :
    (ofText t).closings = ((Reading.ofText t).2.filterMap Line.closes).reverse :=
  List.filterMap_reverse

theorem map_block_unclosed (t : Text) : (ofText t).unclosed.toList.map Unclosed.block =
    (Reading.ofText t).1.region.block?.toList := by
  rw [ofText_eq, Reading.content, Reading.unclosed]
  cases (Reading.ofText t).1.region <;> rfl

/-- The blocks that a text opens are those that have ended, and then the one that its end
leaves open. -/
theorem openings_eq (t : Text) :
    t.openings = (ofText t).closings ++ (ofText t).unclosed.toList.map Unclosed.block := by
  have hrun := Reading.entered_run (s := ({}, [])) .outside
    fun line (hl : line ∈ t.lines.map Text.trimEnd) => Reading.isLine_of_mem_lines hl
  rw [← Reading.ofText_eq_run] at hrun
  rw [closings_ofText, map_block_unclosed]
  exact hrun.symm

end Content

end ModuleWiring

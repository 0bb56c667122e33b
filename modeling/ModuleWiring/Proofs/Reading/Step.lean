/-
What one line makes of a reading.

`Step s line s'` lists, one constructor for each kind of line and place, all that a
line can do to a reading and to the lines it keeps.  It is the visitor of a reading
seen as a relation, so that facts about readings go by cases on it:

* `step_iff` — `Step` is exactly one step of the visitor;
* `ofText_induction` — what holds at the start and is kept by every step holds of the
  reading of every text;
* `ofText_render` — the reading of a written page is the run over its layout.
-/
import ModuleWiring.Content.Reading
import ModuleWiring.Proofs.Page

namespace ModuleWiring

/-- The variables that a line refers to, none if it is a comment. -/
def Text.liveReferences (line : Text) : List Text :=
  if isCommentLine line then [] else Text.references line

/-- The variables that the first line of a value refers to, as far as they are noted. -/
def firstReferences (isCommented isCustom : Bool) (value : Text) : List Text :=
  if isCustom && !isCommented then Text.references value else []

namespace Reading

/-- The kept lines and one more, unless that repeats a blank one. -/
def keep (line : Text) (kept : List Line) : List Line :=
  if Text.isBlank line && kept.head?.any Line.isBlank then kept else { text := line } :: kept

/-- The line that ends a block. -/
def blockEnd : Text := ['\x7d']

/-- What a line makes of a reading and the lines it keeps, the newest first. -/
inductive Step : Reading × List Line → Text → Reading × List Line → Prop
  | label {g n cs ds rs kept line} (hl : isLabelLine line = true) :
    Step (⟨g, n, cs, ds, rs⟩, kept) line (⟨g, n + 1, cs, ds, rs⟩, kept)
  | overrideMark {o n cs ds rs kept line} (hl : isLabelLine line = false)
    (hh : Heading.ofLine? line = some .overrideMark) :
    Step (⟨.outside o, n, cs, ds, rs⟩, kept) line
      (⟨.outside true, n + 1, cs, ds, rs⟩, keep line kept)
  | callSiteHeading {o n cs ds rs kept line name} (hl : isLabelLine line = false)
    (hh : Heading.ofLine? line = some (.callSite name)) :
    Step (⟨.outside o, n, cs, ds, rs⟩, kept) line
      (⟨.callSite { name := name } (n + 1) none, n + 1, cs, ds, rs⟩, keep line kept)
  | declarationHeading {o n cs ds rs kept line name} (hl : isLabelLine line = false)
    (hh : Heading.ofLine? line = some (.declaration name)) :
    Step (⟨.outside o, n, cs, ds, rs⟩, kept) line
      (⟨.declaration { name := name, isOverride := o } (n + 1), n + 1, cs, ds, rs⟩,
        keep line kept)
  | emptyDeclaration {o n cs ds rs kept line name} (hl : isLabelLine line = false)
    (hh : Heading.ofLine? line = some (.emptyDeclaration name)) :
    Step (⟨.outside o, n, cs, ds, rs⟩, kept) line
      (⟨.outside false, n + 1, cs, { name := name, isOverride := o } :: ds, rs⟩, keep line kept)
  | outsideBlank {o n cs ds rs kept line} (hl : isLabelLine line = false)
    (hh : Heading.ofLine? line = none) (hb : Text.isBlank line = true) :
    Step (⟨.outside o, n, cs, ds, rs⟩, kept) line
      (⟨.outside o, n + 1, cs, ds, rs⟩, keep line kept)
  | outsideLine {o n cs ds rs kept line} (hl : isLabelLine line = false)
    (hh : Heading.ofLine? line = none) (hb : Text.isBlank line = false) :
    Step (⟨.outside o, n, cs, ds, rs⟩, kept) line
      (⟨.outside false, n + 1, cs, ds, rs.insertAll (Text.liveReferences line)⟩, keep line kept)
  | callSiteEnd {site m cur n cs ds rs kept} :
    Step (⟨.callSite site m cur, n, cs, ds, rs⟩, kept) blockEnd
      (⟨.outside false, n + 1, site.close cur :: cs, ds, rs⟩,
        { text := blockEnd } ::
          markEnd .callSite (site.close cur).name (kept.dropWhile Line.isBlank))
  | valueGoesOn {site m o n cs ds rs kept line v} (hl : isLabelLine line = false)
    (he : line ≠ blockEnd) (hv : o.value.afterLine? (o.code line) = some v) :
    Step (⟨.callSite site m (some o), n, cs, ds, rs⟩, kept) line
      (⟨.callSite (site.refer (some o.name) (Text.liveReferences line)) m
          (some { o.push line with value := v }), n + 1, cs, ds,
        rs.insertAll (Text.liveReferences line)⟩, kept)
  | valueEnd {site m o n cs ds rs kept line} (hl : isLabelLine line = false)
    (he : line ≠ blockEnd) (hv : o.value.afterLine? (o.code line) = none) :
    Step (⟨.callSite site m (some o), n, cs, ds, rs⟩, kept) line
      (⟨.callSite ((site.refer (some o.name) (Text.liveReferences line)).close (o.push line)) m
          none, n + 1, cs, ds, rs.insertAll (Text.liveReferences line)⟩, kept)
  | reserved {site m n cs ds rs kept line key value} (hl : isLabelLine line = false)
    (he : line ≠ blockEnd) (hr : Entry.ofLine? line = some (.reserved key value)) :
    Step (⟨.callSite site m none, n, cs, ds, rs⟩, kept) line
      (⟨.callSite ({ site with
          source := if key = sourceName then unquote value else site.source
          reserved := site.reserved.insert key }.refer none (Text.references value)) m none,
        n + 1, cs, ds, rs.insertAll (Text.references value)⟩, keep line kept)
  | passThrough {site m n cs ds rs kept line key value} (hl : isLabelLine line = false)
    (he : line ≠ blockEnd) (hr : Entry.ofLine? line = some (.setting key value false false)) :
    Step (⟨.callSite site m none, n, cs, ds, rs⟩, kept) line
      (⟨.callSite site m none, n + 1, cs, ds, rs⟩, kept)
  | setting {site m n cs ds rs kept line key value isCommented isCustom}
    (hl : isLabelLine line = false) (he : line ≠ blockEnd)
    (hr : Entry.ofLine? line = some (.setting key value isCommented isCustom))
    (hn : (isCommented || isCustom) = true) (hv : OpenValue.ofFirstLine? value = none) :
    Step (⟨.callSite site m none, n, cs, ds, rs⟩, kept) line
      (⟨.callSite ((site.refer (some key) (firstReferences isCommented isCustom value)).set key
          { isCommented := isCommented, isCustom := isCustom, lines := [value] }) m none,
        n + 1, cs, ds, rs.insertAll (firstReferences isCommented isCustom value)⟩, kept)
  | openSetting {site m n cs ds rs kept line key value isCommented isCustom v}
    (hl : isLabelLine line = false) (he : line ≠ blockEnd)
    (hr : Entry.ofLine? line = some (.setting key value isCommented isCustom))
    (hn : (isCommented || isCustom) = true) (hv : OpenValue.ofFirstLine? value = some v) :
    Step (⟨.callSite site m none, n, cs, ds, rs⟩, kept) line
      (⟨.callSite (site.refer (some key) (firstReferences isCommented isCustom value)) m
          (some { name := key, isCommented := isCommented, isCustom := isCustom, first := value,
                  value := v }),
        n + 1, cs, ds, rs.insertAll (firstReferences isCommented isCustom value)⟩, kept)
  | callSiteLine {site m n cs ds rs kept line} (hl : isLabelLine line = false)
    (he : line ≠ blockEnd) (hr : Entry.ofLine? line = none) :
    Step (⟨.callSite site m none, n, cs, ds, rs⟩, kept) line
      (⟨.callSite (site.refer none (Text.liveReferences line)) m none, n + 1, cs, ds,
        rs.insertAll (Text.liveReferences line)⟩, keep line kept)
  | declarationEnd {d m n cs ds rs kept} :
    Step (⟨.declaration d m, n, cs, ds, rs⟩, kept) blockEnd
      (⟨.outside false, n + 1, cs, d :: ds, rs⟩,
        { text := blockEnd } :: markEnd .declaration d.name kept)
  | declarationBlank {d m n cs ds rs kept line} (hl : isLabelLine line = false)
    (hb : Text.isBlank line = true) :
    Step (⟨.declaration d m, n, cs, ds, rs⟩, kept) line
      (⟨.declaration d m, n + 1, cs, ds, rs⟩, kept)
  | declarationLine {d m n cs ds rs kept line} (hl : isLabelLine line = false)
    (he : line ≠ blockEnd) (hb : Text.isBlank line = false) :
    Step (⟨.declaration d m, n, cs, ds, rs⟩, kept) line
      (⟨.declaration { d with body := d.body ++ [line] } m, n + 1, cs, ds, rs⟩,
        { text := line } :: kept)

theorem isBlank_blockEnd : Text.isBlank blockEnd = false := by decide

theorem isLabelLine_blockEnd : isLabelLine blockEnd = false := by decide

/-- A line that begins with a blank ends no block. -/
theorem trimEnd_ne_blockEnd (t : Text) : Text.trimEnd (' ' :: t) ≠ blockEnd := by
  intro h
  have hprefix := Text.isPrefix_trimEnd (' ' :: t)
  rw [h, blockEnd, List.cons_prefix_cons] at hprefix
  exact absurd hprefix.1 (by decide)

/-- What a line that is no label says at the place where a reading stands. -/
def verdict (r : Reading) (kept : List Line) (line : Text) : Verdict Reading :=
  match r.region with
  | .outside override => r.visitOutside override kept line
  | .callSite site opened current => r.visitCallSite site opened current kept line
  | .declaration declaration opened => r.visitDeclaration declaration opened kept line

variable {r r' : Reading} {kept kept' : List Line} {line : Text}

theorem step_of_label (hl : isLabelLine line = true) :
    visit.step (r, kept) line = ({ r with lineCount := r.lineCount + 1 }, kept) := by
  simp [Visitor.step, visit, hl]

theorem step_of_not_label (hl : isLabelLine line = false) :
    visit.step (r, kept) line =
      ((verdict { r with lineCount := r.lineCount + 1 } kept line).state,
        if (verdict { r with lineCount := r.lineCount + 1 } kept line).keeps &&
            !(Text.isBlank line && kept.head?.any Line.isBlank) then
          { text := line } :: (verdict { r with lineCount := r.lineCount + 1 } kept line).kept
        else (verdict { r with lineCount := r.lineCount + 1 } kept line).kept) := by
  simp only [Visitor.step, visit, hl, Bool.false_eq_true, if_false]
  rfl

theorem step_eq_drop (hl : isLabelLine line = false)
    (h : verdict { r with lineCount := r.lineCount + 1 } kept line = ⟨r', kept', false⟩) :
    visit.step (r, kept) line = (r', kept') := by
  rw [step_of_not_label hl, h]
  rfl

theorem step_eq_keep (hl : isLabelLine line = false)
    (h : verdict { r with lineCount := r.lineCount + 1 } kept line = ⟨r', kept, true⟩) :
    visit.step (r, kept) line = (r', keep line kept) := by
  rw [step_of_not_label hl, h, keep]
  cases Text.isBlank line && kept.head?.any Line.isBlank <;> rfl

theorem step_eq_cons (hl : isLabelLine line = false) (hb : Text.isBlank line = false)
    (h : verdict { r with lineCount := r.lineCount + 1 } kept line = ⟨r', kept', true⟩) :
    visit.step (r, kept) line = (r', { text := line } :: kept') := by
  rw [step_of_not_label hl, h, hb]
  rfl

theorem verdict_value {site : CallSite} {m : Nat} {o : OpenSetting}
    (hr : r.region = .callSite site m (some o)) (he : line ≠ blockEnd) :
    verdict r kept line = r.visitValue site m o kept line := by
  rw [verdict, hr]
  exact if_neg he

theorem verdict_entry {site : CallSite} {m : Nat} (hr : r.region = .callSite site m none)
    (he : line ≠ blockEnd) : verdict r kept line = r.visitEntry site m kept line := by
  rw [verdict, hr]
  exact if_neg he

theorem Step.eq {s s' : Reading × List Line} (h : Step s line s') : visit.step s line = s' := by
  cases h with
  | label hl => exact step_of_label hl
  | overrideMark hl hh => exact step_eq_keep hl (by simp [verdict, visitOutside, hh])
  | callSiteHeading hl hh => exact step_eq_keep hl (by simp [verdict, visitOutside, hh])
  | declarationHeading hl hh => exact step_eq_keep hl (by simp [verdict, visitOutside, hh])
  | emptyDeclaration hl hh => exact step_eq_keep hl (by simp [verdict, visitOutside, hh])
  | outsideBlank hl hh hb => exact step_eq_keep hl (by simp [verdict, visitOutside, hh, hb])
  | outsideLine hl hh hb =>
    refine step_eq_keep hl ?_
    -- a comment refers to nothing, so noting its references changes nothing
    by_cases hc : isCommentLine line = true
    · simp [verdict, visitOutside, hh, hb, hc, Text.liveReferences, NameSet.insertAll]
    · simp [verdict, visitOutside, hh, hb, hc, Text.liveReferences, refer]
  | callSiteEnd =>
    refine step_eq_cons isLabelLine_blockEnd isBlank_blockEnd ?_
    simp [verdict, visitCallSite, endCallSite, blockEnd]
  | valueGoesOn hl he hv =>
    refine step_eq_drop hl ?_
    rw [verdict_value rfl he]
    simp [visitValue, hv, Text.liveReferences, refer]
  | valueEnd hl he hv =>
    refine step_eq_drop hl ?_
    rw [verdict_value rfl he]
    simp [visitValue, hv, Text.liveReferences, refer]
  | reserved hl he hr =>
    refine step_eq_keep hl ?_
    rw [verdict_entry rfl he]
    simp [visitEntry, hr, refer]
  | passThrough hl he hr =>
    refine step_eq_drop hl ?_
    rw [verdict_entry rfl he]
    simp [visitEntry, hr, refer, CallSite.refer, NameSet.insertAll]
  | setting hl he hr hn hv =>
    refine step_eq_drop hl ?_
    rw [verdict_entry rfl he]
    simp [visitEntry, hr, hn, hv, refer, firstReferences]
  | openSetting hl he hr hn hv =>
    refine step_eq_drop hl ?_
    rw [verdict_entry rfl he]
    simp [visitEntry, hr, hn, hv, refer, firstReferences]
  | callSiteLine hl he hr =>
    refine step_eq_keep hl ?_
    rw [verdict_entry rfl he]
    simp [visitEntry, hr, Text.liveReferences, refer]
  | declarationEnd =>
    refine step_eq_cons isLabelLine_blockEnd isBlank_blockEnd ?_
    simp [verdict, visitDeclaration, blockEnd]
  | declarationBlank hl hb =>
    refine step_eq_drop hl ?_
    have he : line ≠ blockEnd := by
      rintro rfl
      rw [isBlank_blockEnd] at hb
      exact Bool.false_ne_true hb
    rw [verdict]
    exact (if_neg he).trans (if_pos hb)
  | declarationLine hl he hb =>
    refine step_eq_cons hl hb ?_
    rw [verdict]
    exact (if_neg he).trans (if_neg (by rw [hb]; exact Bool.false_ne_true))

/-- Every line does one of the things that `Step` lists. -/
theorem step_spec (s : Reading × List Line) (line : Text) : Step s line (visit.step s line) := by
  obtain ⟨⟨g, n, cs, ds, rs⟩, kept⟩ := s
  -- some step is enough, for every step is the one of the visitor
  suffices ∃ s', Step (⟨g, n, cs, ds, rs⟩, kept) line s' by
    obtain ⟨s', h⟩ := this
    rw [h.eq]
    exact h
  by_cases hl : isLabelLine line = true
  · exact ⟨_, .label hl⟩
  rw [Bool.not_eq_true] at hl
  cases g with
  | outside o =>
    rcases hh : Heading.ofLine? line with _ | ⟨_ | name | name | name⟩
    · cases hb : Text.isBlank line with
      | true => exact ⟨_, .outsideBlank hl hh hb⟩
      | false => exact ⟨_, .outsideLine hl hh hb⟩
    · exact ⟨_, .overrideMark hl hh⟩
    · exact ⟨_, .callSiteHeading hl hh⟩
    · exact ⟨_, .declarationHeading hl hh⟩
    · exact ⟨_, .emptyDeclaration hl hh⟩
  | callSite site m cur =>
    by_cases he : line = blockEnd
    · subst he
      exact ⟨_, .callSiteEnd⟩
    cases cur with
    | some o =>
      cases hv : o.value.afterLine? (o.code line) with
      | none => exact ⟨_, .valueEnd hl he hv⟩
      | some v => exact ⟨_, .valueGoesOn hl he hv⟩
    | none =>
      rcases hr : Entry.ofLine? line with
        _ | ⟨⟨key, value⟩ | ⟨key, value, isCommented, isCustom⟩⟩
      · exact ⟨_, .callSiteLine hl he hr⟩
      · exact ⟨_, .reserved hl he hr⟩
      · cases hn : isCommented || isCustom with
        | false =>
          obtain ⟨rfl, rfl⟩ := Bool.or_eq_false_iff.mp hn
          exact ⟨_, .passThrough hl he hr⟩
        | true =>
          cases hv : OpenValue.ofFirstLine? value with
          | none => exact ⟨_, .setting hl he hr hn hv⟩
          | some v => exact ⟨_, .openSetting hl he hr hn hv⟩
  | declaration d m =>
    by_cases he : line = blockEnd
    · subst he
      exact ⟨_, .declarationEnd⟩
    cases hb : Text.isBlank line with
    | true => exact ⟨_, .declarationBlank hl hb⟩
    | false => exact ⟨_, .declarationLine hl he hb⟩

theorem step_iff {s s' : Reading × List Line} : Step s line s' ↔ visit.step s line = s' :=
  ⟨Step.eq, fun h => h ▸ step_spec s line⟩

/-- Call sites that have ended stay what they are. -/
theorem suffix_callSites_step {s s' : Reading × List Line} (h : Step s line s') :
    s.1.callSites <:+ s'.1.callSites := by
  cases h with
  | callSiteEnd => exact List.suffix_cons _ _
  | _ => exact List.suffix_rfl

theorem callSites_step {s s' : Reading × List Line} (h : Step s line s') {site : CallSite}
    (hsite : site ∈ s.1.callSites) : site ∈ s'.1.callSites :=
  (suffix_callSites_step h).subset hsite

/-! ### Runs -/

/-- What lines without blanks at their ends make of a reading. -/
def run (s : Reading × List Line) (ls : List Text) : Reading × List Line :=
  ls.foldl visit.step s

@[simp] theorem run_nil (s : Reading × List Line) : run s [] = s := rfl

theorem run_cons (s : Reading × List Line) (line : Text) (ls : List Text) :
    run s (line :: ls) = run (visit.step s line) ls := rfl

theorem run_append (s : Reading × List Line) (xs ys : List Text) :
    run s (xs ++ ys) = run (run s xs) ys :=
  List.foldl_append

theorem run_singleton (s : Reading × List Line) (line : Text) :
    run s [line] = visit.step s line := rfl

theorem ofText_eq_run (t : Text) : ofText t = run ({}, []) (t.lines.map Text.trimEnd) := by
  rw [ofText, Visitor.scanText, run, List.foldl_map]
  rfl

/-- Behind a text that ends with its last line the reading goes on where that text left it. -/
theorem ofText_append_eq_run {t : Text} (h : t = [] ∨ ∃ u, t = u ++ ['\n']) (u : Text) :
    ofText (t ++ u) = run (ofText t) (u.lines.map Text.trimEnd) := by
  rw [ofText_eq_run, Text.lines_append h, List.map_append, run_append, ← ofText_eq_run]

theorem ofText_append_ofLines {t : Text} (h : t = [] ∨ ∃ u, t = u ++ ['\n']) {ls : List Text}
    (hls : ∀ l ∈ ls, '\n' ∉ l) :
    ofText (t ++ Text.ofLines ls) = run (ofText t) (ls.map Text.trimEnd) := by
  rw [ofText_append_eq_run h, Text.lines_ofLines hls]

/-- What leaves no block open ends outside of blocks. -/
theorem exists_outside (h : r.unclosed = none) : ∃ o, r.region = .outside o := by
  rw [unclosed] at h
  split at h
  · next o ho => exact ⟨o, ho⟩
  · exact absurd h (by simp)
  · exact absurd h (by simp)

/-- A line as a reading gets to see it. -/
structure IsLine (line : Text) : Prop where
  noFeed : '\n' ∉ line
  trimmed : Text.trimEnd line = line

theorem IsLine.eq_nil {line : Text} (h : IsLine line) (hb : Text.isBlank line = true) : line = [] :=
  Text.eq_nil_of_isBlank hb h.trimmed

theorem isLine_of_mem_lines {t line : Text}
    (h : line ∈ t.lines.map Text.trimEnd) : IsLine line := by
  obtain ⟨l, hl, rfl⟩ := List.mem_map.mp h
  exact ⟨fun hm => Text.not_mem_of_mem_lines hl (Text.mem_of_mem_trimEnd hm),
    Text.trimEnd_trimEnd l⟩

theorem isLine_blockEnd : IsLine blockEnd := ⟨by decide, rfl⟩

theorem ofText_render {p : Page} (h : p.OnLines) : ofText p.render = run ({}, []) p.layout := by
  have htrim : p.layout.map Text.trimEnd = p.layout :=
    Text.map_trimEnd_eq_self fun _ hl => Page.trimEnd_of_mem_layoutFrom hl
  rw [ofText_eq_run, Page.lines_render h, htrim]

/-- What every step keeps holds at the end of a run. -/
theorem run_induction {P : Reading × List Line → Prop}
    (hstep : ∀ s line s', P s → IsLine line → Step s line s' → P s')
    {s : Reading × List Line} (hs : P s) {ls : List Text} (hls : ∀ line ∈ ls, IsLine line) :
    P (run s ls) := by
  induction ls generalizing s with
  | nil => exact hs
  | cons line ls ih =>
    have hline := hls line List.mem_cons_self
    exact ih (hstep s line _ hs hline (step_spec s line))
      fun l hl => hls l (List.mem_cons_of_mem line hl)

/-- What every step keeps, said of the lines read so far as well. -/
theorem prefix_induction {P : List Text → Reading × List Line → Prop} (hinit : P [] ({}, []))
    (hstep : ∀ ls s line s', P ls s → IsLine line → Step s line s' → P (ls ++ [line]) s')
    {ls : List Text} (hls : ∀ line ∈ ls, IsLine line) : P ls (run ({}, []) ls) := by
  induction ls using List.reverseRecOn with
  | nil => exact hinit
  | append_singleton ls line ih =>
    have hs := ih fun l hl => hls l (List.mem_append_left _ hl)
    rw [run_append, run_singleton]
    exact hstep ls _ line _ hs (hls line (by simp)) (step_spec _ line)

/-- What holds at the start and is kept by every step holds of the reading of a text. -/
theorem ofText_induction {P : Reading × List Line → Prop} (hinit : P ({}, []))
    (hstep : ∀ s line s', P s → IsLine line → Step s line s' → P s') (t : Text) :
    P (ofText t) := by
  rw [ofText_eq_run]
  exact run_induction hstep hinit fun line hl => isLine_of_mem_lines hl

end Reading

theorem Content.ofText_eq (t : Text) :
    ofText t = (Reading.ofText t).1.content (Reading.ofText t).2 := rfl

end ModuleWiring

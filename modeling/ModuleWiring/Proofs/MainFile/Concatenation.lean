/-
Main files behind one another.

A reading carries much from line to line: the lines it keeps, whether the override mark came
last, the number of the line, the blocks that have ended.  Behind a text that leaves no block
open and keeps no blank line at its end, none of it matters for what the next text keeps and
for the call sites it has.  A reading from there goes in step with one from scratch:

* `Behind` — where a reading from scratch stands, and where the one behind another text does;
* `behind_step`, `behind_run` — a line, and then any lines, keep the two in step;
* `ofText_append` — the reading of two texts behind one another;
* `render_append` — so the main file for two texts is the one for the first and then the one
  for the second.
-/
import ModuleWiring.Proofs.Reading.Blocks
import ModuleWiring.Proofs.VariableFile

namespace ModuleWiring

open Reading

/-- The same place in a text, but for the number of the line that opens the block and for the
override mark. -/
inductive Region.Alike : Region → Region → Prop
  | outside {o o'} : Alike (.outside o) (.outside o')
  | callSite {site m m' cur} : Alike (.callSite site m cur) (.callSite site m' cur)
  | declaration {d d' m m'} (hname : d'.name = d.name) :
    Alike (.declaration d m) (.declaration d' m')

namespace Reading

/-- Where a reading from scratch stands, and where the reading of the same lines does behind a
text that has left `kept₁` and `callSites₁`. -/
structure Behind (kept₁ : List Line) (callSites₁ : List CallSite)
    (s t : Reading × List Line) : Prop where
  region : s.1.region.Alike t.1.region
  callSites : t.1.callSites = s.1.callSites ++ callSites₁
  kept : t.2 = s.2 ++ kept₁

variable {s s' t : Reading × List Line} {line : Text} {kept kept₁ : List Line}
  {callSites₁ : List CallSite}

/-- A blank line is kept behind lines that end in none, so only its own text decides. -/
theorem keep_append (hlast : ∀ l ∈ kept₁.head?, l.isBlank = false) (line : Text)
    (kept : List Line) : keep line (kept ++ kept₁) = keep line kept ++ kept₁ := by
  have hhead : (kept ++ kept₁).head?.any Line.isBlank = kept.head?.any Line.isBlank := by
    rcases kept with _ | ⟨l, kept⟩
    · rcases kept₁ with _ | ⟨l, kept₁⟩
      · rfl
      · exact hlast l rfl
    · rfl
  rw [keep, keep, hhead]
  split
  · rfl
  · rfl

theorem markEnd_append (hk : kept ≠ []) (kind : BlockKind) (name : Text) :
    markEnd kind name (kept ++ kept₁) = markEnd kind name kept ++ kept₁ := by
  rcases kept with _ | ⟨l, kept⟩
  · exact absurd rfl hk
  · rfl

theorem behind_step (hlast : ∀ l ∈ kept₁.head?, l.isBlank = false)
    (ht : Topped s.1.region s.2) (hs : Behind kept₁ callSites₁ s t) (h : Step s line s') :
    Behind kept₁ callSites₁ s' (visit.step t line) := by
  obtain ⟨⟨g', n', cs', ds', rs'⟩, kept'⟩ := t
  obtain ⟨hregion, hcallSites, hkept⟩ := hs
  -- the other reading does the same, with more behind what it keeps
  suffices ∃ t', Step (⟨g', n', cs', ds', rs'⟩, kept') line t' ∧
      Behind kept₁ callSites₁ s' t' by
    obtain ⟨t', hstep, hbehind⟩ := this
    rw [hstep.eq]
    exact hbehind
  obtain rfl : cs' = _ := hcallSites
  obtain rfl : kept' = _ := hkept
  cases h with
  | label hl => exact ⟨_, .label hl, hregion, rfl, rfl⟩
  | overrideMark hl hh =>
    cases hregion
    exact ⟨_, .overrideMark hl hh, .outside, rfl, keep_append hlast line _⟩
  | callSiteHeading hl hh =>
    cases hregion
    exact ⟨_, .callSiteHeading hl hh, .callSite, rfl, keep_append hlast line _⟩
  | declarationHeading hl hh =>
    cases hregion
    exact ⟨_, .declarationHeading hl hh, .declaration rfl, rfl, keep_append hlast line _⟩
  | emptyDeclaration hl hh =>
    cases hregion
    exact ⟨_, .emptyDeclaration hl hh, .outside, rfl, keep_append hlast line _⟩
  | outsideBlank hl hh hb =>
    cases hregion
    exact ⟨_, .outsideBlank hl hh hb, .outside, rfl, keep_append hlast line _⟩
  | outsideLine hl hh hb =>
    cases hregion
    exact ⟨_, .outsideLine hl hh hb, .outside, rfl, keep_append hlast line _⟩
  | @callSiteEnd site m cur n cs ds rs kept =>
    cases hregion
    refine ⟨_, .callSiteEnd, .outside, rfl, ?_⟩
    -- blank lines are dropped down to the heading of the block at most
    obtain ⟨l, ls, hdrop, -⟩ := ht.dropWhile_eq_cons
    have hne : kept.dropWhile Line.isBlank ≠ [] := by simp [hdrop]
    have hdrop₁ : (kept ++ kept₁).dropWhile Line.isBlank =
        kept.dropWhile Line.isBlank ++ kept₁ := by
      rw [List.dropWhile_append, if_neg (by simpa using hne)]
    rw [hdrop₁, markEnd_append hne]
    rfl
  | valueGoesOn hl he hv =>
    cases hregion
    exact ⟨_, .valueGoesOn hl he hv, .callSite, rfl, rfl⟩
  | valueEnd hl he hv =>
    cases hregion
    exact ⟨_, .valueEnd hl he hv, .callSite, rfl, rfl⟩
  | reserved hl he hr =>
    cases hregion
    exact ⟨_, .reserved hl he hr, .callSite, rfl, keep_append hlast line _⟩
  | passThrough hl he hr =>
    cases hregion
    exact ⟨_, .passThrough hl he hr, .callSite, rfl, rfl⟩
  | setting hl he hr hn hv =>
    cases hregion
    exact ⟨_, .setting hl he hr hn hv, .callSite, rfl, rfl⟩
  | openSetting hl he hr hn hv =>
    cases hregion
    exact ⟨_, .openSetting hl he hr hn hv, .callSite, rfl, rfl⟩
  | callSiteLine hl he hr =>
    cases hregion
    exact ⟨_, .callSiteLine hl he hr, .callSite, rfl, keep_append hlast line _⟩
  | @declarationEnd d m n cs ds rs kept =>
    cases hregion with
    | declaration hname =>
      refine ⟨_, .declarationEnd, .outside, rfl, ?_⟩
      have hne : kept ≠ [] := by
        cases ht
        simp
      rw [hname, markEnd_append hne]
      rfl
  | declarationBlank hl hb =>
    cases hregion with
    | declaration hname => exact ⟨_, .declarationBlank hl hb, .declaration hname, rfl, rfl⟩
  | declarationLine hl he hb =>
    cases hregion with
    | declaration hname => exact ⟨_, .declarationLine hl he hb, .declaration hname, rfl, rfl⟩

theorem behind_run (hlast : ∀ l ∈ kept₁.head?, l.isBlank = false)
    (ht : Topped s.1.region s.2) (hs : Behind kept₁ callSites₁ s t) {ls : List Text}
    (hls : ∀ line ∈ ls, IsLine line) : Behind kept₁ callSites₁ (run s ls) (run t ls) := by
  induction ls generalizing s t with
  | nil => exact hs
  | cons line ls ih =>
    have hstep := step_spec s line
    have hline := hls line List.mem_cons_self
    exact ih (topped_step ht hline hstep) (behind_step hlast ht hs hstep)
      fun l hl => hls l (List.mem_cons_of_mem line hl)

/-- The reading of two texts behind one another keeps what the readings of both keep, and it
comes to the call sites of both. -/
theorem ofText_append {t₁ : Text} (hlines : t₁ = [] ∨ ∃ u, t₁ = u ++ ['\n'])
    (hclosed : (ofText t₁).1.unclosed = none)
    (hlast : ∀ l ∈ (ofText t₁).2.head?, l.isBlank = false) (t₂ : Text) :
    (ofText (t₁ ++ t₂)).2 = (ofText t₂).2 ++ (ofText t₁).2 ∧
      (ofText (t₁ ++ t₂)).1.callSites =
        (ofText t₂).1.callSites ++ (ofText t₁).1.callSites := by
  have hregion : Region.Alike (.outside false) (ofText t₁).1.region := by
    obtain ⟨o, ho⟩ := exists_outside hclosed
    rw [ho]
    exact .outside
  have hstart : Behind (ofText t₁).2 (ofText t₁).1.callSites ({}, []) (ofText t₁) :=
    ⟨hregion, rfl, rfl⟩
  have hrun := behind_run hlast .outside hstart
    fun line (hl : line ∈ t₂.lines.map Text.trimEnd) => isLine_of_mem_lines hl
  rw [ofText_append_eq_run hlines, ofText_eq_run t₂]
  exact ⟨hrun.kept, hrun.callSites⟩

end Reading

namespace Content

variable {t : Text} {l : Line}

/-- No block ends behind the last line, for the brace of the block follows. -/
theorem closes_of_last (h : l ∈ (ofText t).lines.getLast?) : l.closes = none := by
  rw [ofText_eq, Reading.content, List.getLast?_reverse] at h
  obtain ⟨older, hkept⟩ := List.head?_eq_some_iff.mp h
  rcases hl : l.closes with _ | b
  · rfl
  · have hnewest : (Reading.ofText t).2 = [] ++ l :: older := hkept
    obtain ⟨⟨newer, hnewer⟩, -⟩ := (stood_ofText t).1.placed.framed.around hnewest hl
    simp at hnewer

/-- A call site that ends behind a line is listed. -/
theorem mem_keys_of_closes {name : Text} (h : l ∈ (ofText t).lines)
    (hl : l.closes = some { kind := .callSite, name := name }) :
    name ∈ (ofText t).callSites.keys := by
  rw [mem_keys_callSites, closed, List.mem_map]
  exact ⟨_, List.mem_filter.mpr ⟨List.mem_filterMap.mpr ⟨l, h, hl⟩, by simp⟩, rfl⟩

end Content

namespace MainFile

variable {main main' : Content} {files : ModuleFiles} {ls : List Line}

/-- What is written for lines depends only on the call sites that end behind them. -/
theorem flatMap_linePage_congr
    (h : ∀ l ∈ ls, ∀ name, l.closes = some { kind := .callSite, name := name } →
      main.callSites.get? name = main'.callSites.get? name) :
    ls.flatMap (linePage main files) = ls.flatMap (linePage main' files) := by
  refine List.flatMap_congr fun l hl => ?_
  have hending : endingCallSite? main l = endingCallSite? main' l := by
    rw [endingCallSite?, endingCallSite?]
    rcases hc : l.closes with _ | ⟨_ | _, name⟩
    · rfl
    · simp [Content.block?, h l hl name hc]
    · rcases main.declarations.get? name with _ | d <;>
        rcases main'.declarations.get? name with _ | d' <;> simp [Content.block?, *]
  rw [linePage, linePage, hending]

/-- Behind a text whose last kept line has more than blanks, no blank line has been written
last. -/
theorem endsBlank_page {t : Text}
    (hlast : ∀ l ∈ (Content.ofText t).lines.getLast?, l.isBlank = false) :
    Page.endsBlank false (page (Content.ofText t) files) = false := by
  rcases List.eq_nil_or_concat (Content.ofText t).lines with hnil | ⟨ls, l, hconcat⟩
  · rw [page, hnil]
    rfl
  · have hl : l ∈ (Content.ofText t).lines.getLast? := by simp [hconcat]
    have hpage : linePage (Content.ofText t) files l = [.line l.text] := by
      rw [linePage, endingCallSite?, Content.closes_of_last hl]
    have hblank : (Text.trimEnd l.text).isEmpty = false := by
      rw [← Bool.not_eq_true, List.isEmpty_iff, ← Text.isBlank_iff_trimEnd, Bool.not_eq_true]
      exact hlast l hl
    rw [page, hconcat, List.concat_eq_append, List.flatMap_append, Page.endsBlank_append,
      List.flatMap_singleton, hpage, Page.endsBlank, hblank]
    rfl

/-- **Main files behind one another.**  If a text ends with its last line, leaves no block
open, keeps no blank line at its end, and shares no name of a module with a second text, then
the main file for the two texts behind one another is the one for the first and behind it the
one for the second. -/
theorem render_append {t₁ t₂ : Text} {files : ModuleFiles}
    (hlines : t₁ = [] ∨ ∃ u, t₁ = u ++ ['\n'])
    (hclosed : (Content.ofText t₁).unclosed = none)
    (hlast : ∀ l ∈ (Content.ofText t₁).lines.getLast?, l.isBlank = false)
    (hnames : ∀ name ∈ (Content.ofText t₁).callSites.keys,
      name ∉ (Content.ofText t₂).callSites.keys) :
    render (Content.ofText (t₁ ++ t₂)) files =
      render (Content.ofText t₁) files ++ render (Content.ofText t₂) files := by
  have hhead : ∀ l ∈ (Reading.ofText t₁).2.head?, l.isBlank = false := by
    rw [Content.ofText_eq, Reading.content, List.getLast?_reverse] at hlast
    exact hlast
  obtain ⟨hkept, hcallSites⟩ := ofText_append hlines hclosed hhead t₂
  have happend : (Content.ofText (t₁ ++ t₂)).lines =
      (Content.ofText t₁).lines ++ (Content.ofText t₂).lines := by
    rw [Content.ofText_eq, Reading.content, hkept, List.reverse_append]
    rfl
  have hget : ∀ name, (Content.ofText (t₁ ++ t₂)).callSites.get? name =
      ((Content.ofText t₂).callSites.get? name).or
        ((Content.ofText t₁).callSites.get? name) := by
    intro name
    rw [Content.ofText_eq, Reading.content, hcallSites, List.reverse_append, List.map_append,
      OrderedMap.get?_ofList_append]
    rfl
  -- the name at an end is listed in the text of the line, so it is not in the other one
  have hpage : page (Content.ofText (t₁ ++ t₂)) files =
      page (Content.ofText t₁) files ++ page (Content.ofText t₂) files := by
    rw [page, happend, List.flatMap_append, page, page]
    congr 1
    · refine flatMap_linePage_congr fun l hl name hc => ?_
      have hnot := hnames name (Content.mem_keys_of_closes hl hc)
      have hnone := mt OrderedMap.contains_iff.mp hnot
      rw [hget, OrderedMap.contains_eq_false_iff.mp (by simpa using hnone), Option.none_or]
    · refine flatMap_linePage_congr fun l hl name hc => ?_
      have hkey := OrderedMap.contains_iff.mpr (Content.mem_keys_of_closes hl hc)
      obtain ⟨site, hsite⟩ := Option.isSome_iff_exists.mp hkey
      rw [hget, hsite, Option.some_or]
  rw [render, Page.render, Page.layout, hpage, Page.layoutFrom_append, endsBlank_page hlast,
    Text.ofLines_append]
  rfl

/-- Two call sites, the second behind a blank line that stays between them. -/
theorem render_append_network :
    let t₁ : Text := "module \"network\" \x7b\n  zone = 1\n\n\x7d\n".toList
    let t₂ : Text := "\nmodule \"disk\" \x7b\n\x7d\n".toList
    let files := ModuleFiles.ofTexts
      [("disk".toList, [("variables.tf".toList, "variable \"size\" \x7b\x7d\n".toList)])]
    render (Content.ofText (t₁ ++ t₂)) files =
      "module \"network\" \x7b\n\n  zone = 1\n\x7d\n".toList ++
        "\nmodule \"disk\" \x7b\n\n  size = var.size\n\x7d\n".toList := by
  intro t₁ t₂ files
  have hlines : t₁ = t₁.dropLast ++ ['\n'] := rfl
  have hnames : ∀ name ∈ (Content.ofText t₁).callSites.keys,
      name ∉ (Content.ofText t₂).callSites.keys := by decide
  rw [render_append (.inr ⟨_, hlines⟩) (by decide) (by decide) hnames]
  decide

end MainFile

end ModuleWiring

/-
Reading what a main file keeps.

The main file is written from the lines that a reading keeps, so another reading can go
through it in step with the first: it stands at the same place and keeps the same lines.
Only a call site knows less until it ends, since its assignments are written behind its
last line.

* `replayed` — the reading of a page that is written from kept lines;
* `Extends` — what a call site knows beyond one without its assignments;
* `Follows` — where a reading stands, and where the reading of what it keeps does;
* `follows_step` — a line of the text is followed by what is written for it.
-/
import ModuleWiring.MainFile
import ModuleWiring.Proofs.MainFile.Rewired
import ModuleWiring.Proofs.Reading.Kept

namespace ModuleWiring

open Reading

namespace MainFile

/-- What stands behind the lines of a main file at which blocks end. -/
def behind (main : Content) (files : ModuleFiles) (e : BlockEnd) : Page :=
  match main.block? e.kind e.name with
  | some (.callSite site) => site.page (files.of site.name)
  | _ => []

/-- The page that is written from kept lines, the newest first. -/
def replay (behind : BlockEnd → Page) (kept : List Line) : Page :=
  kept.reverse.flatMap fun l => .line l.text :: (l.closes.map behind).getD []

theorem page_eq_replay (main : Content) (files : ModuleFiles) :
    page main files = replay (behind main files) main.lines.reverse := by
  rw [page, replay, List.reverse_reverse]
  refine List.flatMap_congr fun l _ => ?_
  rw [linePage, endingCallSite?]
  cases l.closes with
  | none => rfl
  | some e =>
    rcases hblock : main.block? e.kind e.name with _ | ⟨site | d⟩ <;> simp [behind, hblock]

/-- The reading of a page that is written from kept lines. -/
def replayed (behind : BlockEnd → Page) (kept : List Line) : Reading × List Line :=
  run ({}, []) (replay behind kept).layout

variable {bh : BlockEnd → Page} {kept ls : List Line} {line : Text} {l : Line}

theorem replay_cons (l : Line) (kept : List Line) : replay bh (l :: kept) =
    replay bh kept ++ .line l.text :: (l.closes.map bh).getD [] := by
  simp [replay]

theorem replayed_cons (hline : IsLine line) (kept : List Line) :
    replayed bh ({ text := line } :: kept) = visit.step (replayed bh kept) line := by
  rw [replayed, replay_cons, Page.layout, Page.layoutFrom_append, run_append]
  show run _ (Page.layoutFrom _ [.line line]) = _
  rw [Page.layoutFrom_line, Page.layoutFrom_nil, hline.trimmed]
  rfl

/-- The line that ends a block, behind what is written where the block ends. -/
theorem replayed_markEnd (bh : BlockEnd → Page) (ls : List Line) (hm : l.closes = none)
    (kind : BlockKind) (name : Text) :
    ∃ b, replayed bh ({ text := blockEnd } :: markEnd kind name (l :: ls)) =
      visit.step (run (replayed bh (l :: ls))
        (Page.layoutFrom b (bh { kind := kind, name := name }))) blockEnd := by
  -- the mark adds a page behind the line and leaves the line itself alone
  refine ⟨(Text.trimEnd l.text).isEmpty, ?_⟩
  rw [replayed_cons isLine_blockEnd, markEnd]
  congr 1
  rw [replayed, replayed, replay_cons, replay_cons, hm, Page.layout, Page.layout,
    Page.layoutFrom_append, Page.layoutFrom_append, run_append, run_append]
  simp only [Option.map_some, Option.map_none, Option.getD_some, Option.getD_none]
  rw [Page.layoutFrom_line, Page.layoutFrom_line, Page.layoutFrom_nil, run_cons, run_singleton]

end MainFile

/-! ### What a call site knows beyond its bare lines -/

/-- What a call site and the references noted so far know beyond a call site that has not
read its assignments. -/
structure CallSite.Extends (site : CallSite) (rs : NameSet) (bare : CallSite) (rs' : NameSet)
    (cur : Option OpenSetting) : Prop where
  name : bare.name = site.name
  source : bare.source = site.source
  reserved : bare.reserved = site.reserved
  settings : bare.settings = .empty
  fresh : ∀ o ∈ cur, site.settings.get? o.name = none
  referenced : ∀ v, v ∈ site.referenced ↔ v ∈ bare.referenced ∨ site.MentionsOther v ∨
    ∃ o ∈ cur, v ∈ o.references ∧ o.name ≠ v
  references : ∀ v, v ∈ rs ↔ v ∈ rs' ∨ site.Mentions v ∨
    ∃ o ∈ cur, v ∈ o.references

namespace CallSite

variable {site bare : CallSite} {cur : Option OpenSetting} {o : OpenSetting} {rs rs' : NameSet}
  {name v : Text} {names : List Text} {s : Setting}

theorem entries_set (h : site.settings.get? name = none) :
    (site.set name s).settings.entries = site.settings.entries ++ [(name, s)] :=
  OrderedMap.entries_insert_of_get?_eq_none s h

theorem mentions_set (h : site.settings.get? name = none) :
    (site.set name s).Mentions v ↔ site.Mentions v ∨ v ∈ s.references := by
  simp [Mentions, entries_set h, or_and_right, exists_or]

theorem mentionsOther_set (h : site.settings.get? name = none) :
    (site.set name s).MentionsOther v ↔
      site.MentionsOther v ∨ v ∈ s.references ∧ name ≠ v := by
  simp [MentionsOther, entries_set h, or_and_right, exists_or]

namespace Extends

/-- A call site that has just been opened. -/
theorem refl (name : Text) (rs : NameSet) :
    ({ name := name } : CallSite).Extends rs { name := name } rs none := by
  refine ⟨rfl, rfl, rfl, rfl, by simp, fun v => ?_, fun v => ?_⟩
  · simp [MentionsOther, OrderedMap.empty]
  · simp [Mentions, OrderedMap.empty]

/-- The first line of a value. -/
theorem first (h : site.Extends rs bare rs' none) (o : OpenSetting) (names : List Text)
    (hfresh : site.settings.get? o.name = none)
    (hrefs : ∀ v, v ∈ o.references ↔ v ∈ names) :
    (site.refer (some o.name) names).Extends (rs.insertAll names) bare rs' (some o) := by
  refine ⟨h.name, h.source, h.reserved, h.settings, ?_, fun v => ?_, fun v => ?_⟩
  · intro o' ho'
    rw [← Option.some.inj ho']
    exact hfresh
  · have hold := h.referenced v
    simp only [Option.mem_def, reduceCtorEq, false_and, exists_false, or_false] at hold
    rw [mem_referenced_refer, hold, or_assoc]
    simp [MentionsOther, refer, hrefs]
  · have hold := h.references v
    simp only [Option.mem_def, reduceCtorEq, false_and, exists_false, or_false] at hold
    rw [NameSet.mem_insertAll, hold, or_comm, or_assoc]
    simp [Mentions, refer, hrefs]

/-- A further line of a value. -/
theorem further (h : site.Extends rs bare rs' (some o)) (o' : OpenSetting)
    (hname : o'.name = o.name)
    (hrefs : ∀ v, v ∈ o'.references ↔ v ∈ o.references ∨ v ∈ names) :
    (site.refer (some o.name) names).Extends (rs.insertAll names) bare rs' (some o') := by
  refine ⟨h.name, h.source, h.reserved, h.settings, ?_, fun v => ?_, fun v => ?_⟩
  · intro o'' ho''
    rw [← Option.some.inj ho'', hname]
    exact h.fresh o rfl
  · rw [mem_referenced_refer, h.referenced v]
    simp only [MentionsOther, refer, Option.mem_def, Option.some.injEq, exists_eq_left', hrefs,
      hname, ne_eq, or_and_right, or_assoc]
  · rw [NameSet.mem_insertAll, h.references v]
    simp only [Mentions, refer, Option.mem_def, Option.some.injEq, exists_eq_left', hrefs]
    rw [or_comm, or_assoc, or_assoc]

/-- The end of a value. -/
theorem close (h : site.Extends rs bare rs' (some o))
    (hrefs : ∀ v, v ∈ s.references ↔ v ∈ o.references) :
    (site.set o.name s).Extends rs bare rs' none := by
  have hfresh := h.fresh o rfl
  refine ⟨h.name, h.source, h.reserved, h.settings, by simp, fun v => ?_, fun v => ?_⟩
  · rw [mentionsOther_set hfresh, hrefs]
    simpa [set] using h.referenced v
  · rw [mentions_set hfresh, hrefs]
    simpa using h.references v

/-- A line of a call site that is kept. -/
theorem line (h : site.Extends rs bare rs' none) (names : List Text) :
    (site.refer none names).Extends (rs.insertAll names) (bare.refer none names)
      (rs'.insertAll names) none := by
  refine ⟨h.name, h.source, h.reserved, h.settings, by simp, fun v => ?_, fun v => ?_⟩
  · rw [mem_referenced_refer, mem_referenced_refer, h.referenced v, or_right_comm]
    rfl
  · rw [NameSet.mem_insertAll, NameSet.mem_insertAll, h.references v, or_assoc]
    rfl

/-- A reserved argument. -/
theorem reserve (h : site.Extends rs bare rs' none) (key : Text) (source : Text → Text) :
    CallSite.Extends { site with source := source site.source
                                 reserved := site.reserved.insert key }
      rs { bare with source := source bare.source, reserved := bare.reserved.insert key } rs'
      none := by
  refine ⟨h.name, ?_, ?_, h.settings, by simp, h.referenced, h.references⟩
  · show source bare.source = source site.source
    rw [h.source]
  · show bare.reserved.insert key = site.reserved.insert key
    rw [h.reserved]

end Extends

end CallSite

/-! ### References of open settings -/

theorem Text.liveReferences_nil : Text.liveReferences [] = [] := rfl

theorem OpenSetting.mem_references_push {o : OpenSetting} {line v : Text} (hline : IsLine line) :
    v ∈ (o.push line).references ↔ v ∈ o.references ∨ v ∈ Text.liveReferences line := by
  rw [push]
  split
  · next hb =>
    rw [hline.eq_nil (Bool.and_eq_true_iff.mp hb).1, Text.liveReferences_nil]
    simp
  · simp [references, or_assoc]

/-- The blank lines that an end takes off refer to nothing. -/
theorem OpenSetting.mem_references_close {o : OpenSetting} {v : Text}
    (h : ∀ l ∈ o.further, IsLine l) : v ∈ o.close.references ↔ v ∈ o.references := by
  -- the newest lines come first, so the blank ones at the end are at the front here
  have hdrop : ∀ ls : List Text, (∀ l ∈ ls, IsLine l) →
      ((ls.dropWhile Text.isBlank).reverse.flatMap Text.liveReferences) =
        ls.reverse.flatMap Text.liveReferences := by
    intro ls hls
    induction ls with
    | nil => rfl
    | cons l ls ih =>
      have hls' := ih fun l' hl' => hls l' (List.mem_cons_of_mem l hl')
      rw [List.dropWhile_cons]
      split
      · next hb =>
        rw [hls', (hls l List.mem_cons_self).eq_nil hb, List.reverse_cons, List.flatMap_append]
        simp [Text.liveReferences_nil]
      · rfl
  simp only [close, Setting.references, references, hdrop _ h]

end ModuleWiring

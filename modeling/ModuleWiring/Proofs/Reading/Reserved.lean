/-
Reserved arguments over several lines.

A reserved argument stays where it is, and so should the lines of its value.  But a reading
does not wait for the end of such a value: it reads each line of it like any line of the call
site.  Lines that do not read as assignments are kept in order, up to the one that completes
the value.  A line that does is taken for an assignment of the call site.

* `Text.assigns` — whether a line reads as an assignment;
* `kept_run` — lines that do not are kept, and record nothing;
* `begins_run` — kept lines stay, but for blank ones at the end of a block;
* `Text.ReservedAt` — the lines of a reserved argument in a text;
* `lines_stay` — so they stay exactly as long as none of them reads as an assignment.
-/
import ModuleWiring.Proofs.Reading.Values

namespace ModuleWiring

open Reading

/-- Whether a line of a call site reads as an assignment to a variable of the module. -/
def Text.assigns (line : Text) : Bool :=
  match Entry.ofLine? line with
  | some (.setting ..) => true
  | _ => false

theorem Text.collapse_cons_ne_nil (first : Text) (ls : List Text) :
    collapse (first :: ls) ≠ [] := by
  rw [collapse, List.destutter_cons']
  exact List.destutter'_ne_nil _ _

namespace Reading

/-- The texts of kept lines, in order. -/
def texts (kept : List Line) : List Text :=
  (kept.map Line.text).reverse

variable {kept : List Line} {line first : Text} {ls ms base : List Text}

theorem texts_cons (l : Line) (kept : List Line) : texts (l :: kept) = texts kept ++ [l.text] := by
  rw [texts, List.map_cons, List.reverse_cons, texts]

theorem texts_keep (line : Text) (kept : List Line) : texts (keep line kept) =
    if Text.isBlank line && (texts kept).getLast?.any Text.isBlank then texts kept
    else texts kept ++ [line] := by
  have hlast : (texts kept).getLast?.any Text.isBlank = kept.head?.any Line.isBlank := by
    rw [texts, List.getLast?_reverse, List.head?_map, Option.any_map]
    rfl
  rw [keep, hlast]
  split
  · rfl
  · exact texts_cons _ kept

/-- Lines that are kept behind others come without the blank ones that repeat. -/
theorem texts_foldl_keep (h : texts kept = base ++ Text.collapse (first :: ls)) :
    texts (ms.foldl (fun kept line => keep line kept) kept) =
      base ++ Text.collapse (first :: (ls ++ ms)) := by
  induction ms generalizing kept ls with
  | nil => rw [List.append_nil, List.foldl_nil, h]
  | cons line ms ih =>
    have hkeep : texts (keep line kept) = base ++ Text.collapse (first :: (ls ++ [line])) := by
      rw [texts_keep, h, ← List.cons_append, Text.collapse_concat (by simp),
        List.getLast?_append_of_ne_nil _ (Text.collapse_cons_ne_nil first ls)]
      split
      · rfl
      · exact List.append_assoc _ _ _
    rw [List.foldl_cons, ih hkeep, List.append_assoc]
    rfl

end Reading

/-! ### Lines of a call site -/

namespace Stands

variable {w : Place} {site : CallSite} {rs : NameSet} {kept : List Line}
  {s : Reading × List Line} {line : Text} {ls : List Text}

/-- A line that does not read as an assignment is kept, a label apart, and records nothing. -/
theorem keeps (h : Stands w site none rs kept s) (he : line ≠ blockEnd)
    (hline : line.assigns = false) : ∃ site' rs',
      Stands w site' none rs' (if isLabelLine line then kept else keep line kept)
        (visit.step s line) ∧ site'.settings = site.settings := by
  obtain ⟨n, rfl⟩ := h
  cases hl : isLabelLine line with
  | true => exact ⟨site, rs, ⟨n + 1, (Step.label hl).eq⟩, rfl⟩
  | false =>
    rcases hr : Entry.ofLine? line with
      _ | ⟨⟨key, value⟩ | ⟨key, value, isCommented, isCustom⟩⟩
    · exact ⟨_, _, ⟨n + 1, (Step.callSiteLine hl he hr).eq⟩, rfl⟩
    · exact ⟨_, _, ⟨n + 1, (Step.reserved hl he hr).eq⟩, rfl⟩
    · rw [Text.assigns, hr] at hline
      exact Bool.noConfusion hline

theorem kept_run (h : Stands w site none rs kept s) (he : blockEnd ∉ ls)
    (hls : ∀ line ∈ ls, line.assigns = false) : ∃ site' rs',
      Stands w site' none rs' ((Text.unlabelled ls).foldl (fun kept line => keep line kept) kept)
        (run s ls) ∧ site'.settings = site.settings := by
  induction ls generalizing site rs kept s with
  | nil => exact ⟨site, rs, h, rfl⟩
  | cons line ls ih =>
    rw [List.mem_cons, not_or] at he
    obtain ⟨site', rs', hstep, hsettings⟩ :=
      h.keeps (Ne.symm he.1) (hls line List.mem_cons_self)
    obtain ⟨site'', rs'', hrun, hsettings'⟩ :=
      ih hstep he.2 fun l hl => hls l (List.mem_cons_of_mem line hl)
    refine ⟨site'', rs'', ?_, hsettings'.trans hsettings⟩
    rw [run_cons]
    cases hl : isLabelLine line with
    | true =>
      rw [Text.unlabelled_label hl]
      simpa [hl] using hrun
    | false =>
      rw [Text.unlabelled_cons hl, List.foldl_cons]
      simpa [hl] using hrun

/-- A line that reads as an assignment is dropped, and what it says is recorded unless it
passes the variable through. -/
theorem assigned {key value : Text} {isCommented isCustom : Bool}
    (h : Stands w site none rs kept s)
    (hr : Entry.ofLine? line = some (.setting key value isCommented isCustom)) :
    ∃ site' cur rs', Stands w site' cur rs' kept (visit.step s line) ∧
      (site'.close cur).settings = if isCommented || isCustom then site.settings.insert key
        { isCommented := isCommented, isCustom := isCustom, lines := [value] }
        else site.settings := by
  have hl := Entry.isLabelLine_of_ofLine? hr
  cases hn : isCommented || isCustom with
  | false =>
    obtain ⟨rfl, rfl⟩ := Bool.or_eq_false_iff.mp hn
    obtain ⟨n, rfl⟩ := h
    exact ⟨_, none, _, ⟨n + 1, (Step.passThrough hl (Entry.ne_blockEnd hr) hr).eq⟩, rfl⟩
  | true =>
    rcases hv : OpenValue.ofFirstLine? value with _ | v
    · exact ⟨_, none, _, h.whole hl hr hn hv, rfl⟩
    · exact ⟨_, some _, _, h.first hl hr hn hv, rfl⟩

end Stands

/-! ### Kept lines stay -/

namespace Reading

variable {kept : List Line} {s s' : Reading × List Line} {line : Text} {ls base : List Text}

theorem texts_markEnd (kind : BlockKind) (name : Text) (kept : List Line) :
    texts (markEnd kind name kept) = texts kept := by
  cases kept <;> rfl

theorem texts_dropWhile (kept : List Line) :
    texts (kept.dropWhile Line.isBlank) = (texts kept).rdropWhile Text.isBlank := by
  rw [texts, texts, List.rdropWhile, List.reverse_reverse, List.dropWhile_map]
  rfl

/-- The brace that ends a call site is kept, in the place of blank lines in front of it. -/
theorem texts_end {w : Place} {site : CallSite} {cur : Option OpenSetting} {rs : NameSet}
    (h : Stands w site cur rs kept s) : texts (visit.step s blockEnd).2 =
      (texts kept).rdropWhile Text.isBlank ++ [blockEnd] := by
  obtain ⟨n, rfl⟩ := h
  rw [Step.callSiteEnd.eq, texts_cons, texts_markEnd, texts_dropWhile]

/-- Whether texts begin with some that end with a line that is not blank. -/
structure Begins (base texts : List Text) : Prop where
  front : base <+: texts
  last : ∀ line ∈ base.getLast?, Text.isBlank line = false

theorem Begins.append (h : Begins base ls) (ms : List Text) : Begins base (ls ++ ms) :=
  ⟨h.front.trans (List.prefix_append ls ms), h.last⟩

theorem Begins.rdropWhile (h : Begins base ls) : Begins base (ls.rdropWhile Text.isBlank) := by
  obtain ⟨⟨ms, rfl⟩, hlast⟩ := h
  have hbase : base.rdropWhile Text.isBlank = base :=
    List.rdropWhile_eq_self_iff.mpr fun hne => by
      simpa using hlast _ (List.getLast?_eq_some_getLast hne)
  have hcut : (base ++ ms).rdropWhile Text.isBlank = base ++ ms.rdropWhile Text.isBlank := by
    rw [List.rdropWhile, List.reverse_append, List.dropWhile_append]
    split
    · next hnil =>
      rw [← List.rdropWhile, hbase, List.rdropWhile, List.isEmpty_iff.mp hnil]
      simp
    · simp [List.rdropWhile]
  exact ⟨hcut ▸ List.prefix_append base _, hlast⟩

theorem Begins.keep (h : Begins base (texts kept)) (line : Text) :
    Begins base (texts (Reading.keep line kept)) := by
  rw [texts_keep]
  split
  · exact h
  · exact h.append [line]

theorem begins_step (hs : Begins base (texts s.2)) (h : Step s line s') :
    Begins base (texts s'.2) := by
  cases h with
  | callSiteEnd =>
    rw [texts_cons, texts_markEnd, texts_dropWhile]
    exact hs.rdropWhile.append _
  | declarationEnd =>
    rw [texts_cons, texts_markEnd]
    exact hs.append _
  | declarationLine =>
    rw [texts_cons]
    exact hs.append _
  | overrideMark | callSiteHeading | declarationHeading | emptyDeclaration | outsideBlank
    | outsideLine | reserved | callSiteLine => exact hs.keep _
  | _ => exact hs

theorem begins_run (hs : Begins base (texts s.2)) (hls : ∀ line ∈ ls, IsLine line) :
    Begins base (texts (run s ls).2) :=
  run_induction (P := fun s => Begins base (texts s.2))
    (fun _ _ _ hs _ h => begins_step hs h) hs hls

end Reading

/-! ### Values of reserved arguments -/

namespace Text

/-- A reserved argument in a call site of a text, whose value leaves brackets open on its line:
the lines behind it that come before the value is complete or with its last bracket, and what
is left of the text. -/
structure ReservedAt (t : Text) (w : Place) (site : CallSite) (before : List Text)
    (opening first : Text) (value rest : List Text) : Prop where
  lines : t.lines.map trimEnd = before ++ opening :: (value ++ rest)
  stands : ∃ rs, Stands w site none rs (run ({}, []) before).2 (run ({}, []) before)
  reserved : ∃ key, Entry.ofLine? opening = some (.reserved key first)
  opens : 0 < nestingDelta first
  whole : blockEnd ∉ value
  stays : ∀ p ∈ value.inits, p ≠ value →
    (OpenValue.brackets (nestingDelta first)).StaysOpen (unlabelled p)

namespace ReservedAt

variable {t : Text} {w : Place} {site : CallSite} {before : List Text} {opening first : Text}
  {value rest : List Text}

theorem isLine (h : t.ReservedAt w site before opening first value rest) :
    ∀ line ∈ opening :: (value ++ rest), IsLine line := fun _ hl =>
  isLine_of_mem_lines (t := t) (h.lines ▸ List.mem_append_right before hl)

theorem take {p q : List Text} (h : t.ReservedAt w site before opening first (p ++ q) rest) :
    t.ReservedAt w site before opening first p (q ++ rest) where
  lines := by rw [h.lines, List.append_assoc]
  stands := h.stands
  reserved := h.reserved
  opens := h.opens
  whole hp := h.whole (List.mem_append_left q hp)
  stays u hu hne := by
    rw [List.mem_inits] at hu
    refine h.stays u ((List.mem_inits _ _).mpr (hu.trans (List.prefix_append p q))) ?_
    rintro rfl
    exact hne (hu.eq_of_length_le (by simp))

/-- Behind the line of the argument the reading stands in the call site, and has kept it. -/
theorem run_opening (h : t.ReservedAt w site before opening first value rest) : ∃ site' rs,
    Stands w site' none rs ({ text := opening } :: (run ({}, []) before).2)
      (run ({}, []) (before ++ [opening])) ∧ site'.settings = site.settings := by
  obtain ⟨key, hr⟩ := h.reserved
  obtain ⟨rs, hstands⟩ := h.stands
  have hblank : isBlank opening = false := by
    rw [← Bool.not_eq_true]
    intro hb
    have hnone : Entry.ofLine? [] = none := rfl
    rw [(h.isLine opening List.mem_cons_self).eq_nil hb, hnone] at hr
    exact absurd hr (by simp)
  have hassigns : opening.assigns = false := by rw [assigns, hr]
  obtain ⟨site', rs', hstep, hsettings⟩ := hstands.keeps (Entry.ne_blockEnd hr) hassigns
  rw [Entry.isLabelLine_of_ofLine? hr, if_neg Bool.false_ne_true, keep_of_not_blank hblank] at hstep
  refine ⟨site', rs', ?_, hsettings⟩
  rw [run_append, run_singleton]
  exact hstep

/-- Lines of the value that do not read as assignments are kept, in order. -/
theorem run_value (h : t.ReservedAt w site before opening first value rest)
    (hvalue : ∀ line ∈ value, line.assigns = false) : ∃ site' rs,
      Stands w site' none rs (run ({}, []) (before ++ opening :: value)).2
        (run ({}, []) (before ++ opening :: value)) ∧ site'.settings = site.settings ∧
      texts (run ({}, []) (before ++ opening :: value)).2 =
        texts (run ({}, []) before).2 ++ collapse (opening :: unlabelled value) := by
  obtain ⟨site', rs, hopening, hsettings⟩ := h.run_opening
  obtain ⟨site'', rs', hrun, hsettings'⟩ := hopening.kept_run h.whole hvalue
  have hsplit : before ++ opening :: value = before ++ [opening] ++ value := by simp
  have htexts : texts ({ text := opening } :: (run ({}, []) before).2) =
      texts (run ({}, []) before).2 ++ collapse [opening] := by
    rw [texts_cons]
    simp [collapse]
  rw [hsplit, run_append]
  obtain ⟨n, hstate⟩ := hrun
  rw [hstate]
  exact ⟨site'', rs', ⟨n, rfl⟩, hsettings'.trans hsettings, texts_foldl_keep htexts⟩

/-- The line that completes the value is not blank. -/
theorem isBlank_last (h : t.ReservedAt w site before opening first value rest)
    (hclosed : ¬(OpenValue.brackets (nestingDelta first)).StaysOpen (unlabelled value)) :
    ∀ line ∈ (collapse (opening :: unlabelled value)).getLast?, isBlank line = false := by
  have hwaits : (OpenValue.brackets (nestingDelta first)).Waits := h.opens
  rcases List.eq_nil_or_concat' value with rfl | ⟨p, last, rfl⟩
  · exact absurd (OpenValue.staysOpen_nil hwaits) hclosed
  have hopen := h.stays p ((List.mem_inits _ _).mpr (List.prefix_append p [last])) (by simp)
  have hlabel : isLabelLine last = false := by
    rw [← Bool.not_eq_true]
    intro hl
    rw [unlabelled_concat_label hl] at hclosed
    exact hclosed hopen
  have hblank : isBlank last = false := by
    rw [← Bool.not_eq_true]
    intro hb
    obtain rfl := (h.isLine last (by simp)).eq_nil hb
    rw [unlabelled_concat hlabel] at hclosed
    exact hclosed (OpenValue.staysOpen_concat_nil hwaits hopen)
  intro line hline
  rw [unlabelled_concat hlabel, ← List.cons_append, collapse_concat (by simp), hblank,
    Bool.false_and, if_neg Bool.false_ne_true, List.getLast?_concat] at hline
  exact Option.some.inj hline ▸ hblank

/-- **Lines of a reserved argument.**  As long as no line of the value reads as an assignment,
nothing is recorded of them and they stay where they are, up to the one that completes the
value, or up to the brace that ends the call site.  But the first one that does is taken for an
assignment of the call site: it is not kept, and it is recorded unless it passes a variable
through. -/
theorem lines_stay (h : t.ReservedAt w site before opening first value rest) :
    ((∀ line ∈ value, line.assigns = false) →
      (∃ site' rs, Stands w site' none rs (run ({}, []) (before ++ opening :: value)).2
        (run ({}, []) (before ++ opening :: value)) ∧ site'.settings = site.settings) ∧
      (¬(OpenValue.brackets (nestingDelta first)).StaysOpen (unlabelled value) →
        texts (run ({}, []) before).2 ++ collapse (opening :: unlabelled value) <+:
          (Content.ofText t).lines.map Line.text) ∧
      ∀ after, rest = blockEnd :: after →
        (texts (run ({}, []) before).2 ++
          collapse (opening :: unlabelled value)).rdropWhile isBlank ++ [blockEnd] <+:
            (Content.ofText t).lines.map Line.text) ∧
    ∀ p line q key v isCommented isCustom, value = p ++ line :: q →
      (∀ l ∈ p, l.assigns = false) →
      Entry.ofLine? line = some (.setting key v isCommented isCustom) →
      ∃ site' cur rs, Stands w site' cur rs (run ({}, []) (before ++ opening :: p)).2
          (run ({}, []) (before ++ opening :: (p ++ [line]))) ∧
        (site'.close cur).settings = if isCommented || isCustom then site.settings.insert key
          { isCommented := isCommented, isCustom := isCustom, lines := [v] }
          else site.settings := by
  have hcontent : (Content.ofText t).lines.map Line.text = texts (Reading.ofText t).2 := by
    rw [Content.ofText_eq, Reading.content, List.map_reverse, texts]
  have hrest : ∀ line ∈ rest, IsLine line := fun line hl =>
    h.isLine line (List.mem_cons_of_mem opening (List.mem_append_right value hl))
  have hrun : Reading.ofText t = run (run ({}, []) (before ++ opening :: value)) rest := by
    rw [ofText_eq_run, h.lines, ← run_append, List.append_assoc, List.cons_append]
  constructor
  · intro hvalue
    obtain ⟨site', rs, hstands, hsettings, htexts⟩ := h.run_value hvalue
    refine ⟨⟨site', rs, hstands, hsettings⟩, fun hclosed => ?_, ?_⟩
    · have hbegins : Begins
          (texts (run ({}, []) before).2 ++ collapse (opening :: unlabelled value))
          (texts (run ({}, []) (before ++ opening :: value)).2) := by
        refine ⟨htexts ▸ List.prefix_rfl, fun line hline => h.isBlank_last hclosed line ?_⟩
        rwa [List.getLast?_append_of_ne_nil _ (collapse_cons_ne_nil _ _)] at hline
      rw [hcontent, hrun]
      exact (begins_run hbegins hrest).front
    · rintro after rfl
      have hbegins : Begins ((texts (run ({}, []) before).2 ++
          collapse (opening :: unlabelled value)).rdropWhile isBlank ++ [blockEnd])
          (texts (visit.step (run ({}, []) (before ++ opening :: value)) blockEnd).2) := by
        refine ⟨?_, fun line hline => ?_⟩
        · rw [texts_end hstands, htexts]
        · rw [List.getLast?_concat] at hline
          exact Option.some.inj hline ▸ isBlank_blockEnd
      rw [hcontent, hrun, run_cons]
      exact (begins_run hbegins fun line hl => hrest line (List.mem_cons_of_mem _ hl)).front
  · rintro p line q key v isCommented isCustom rfl hp hr
    obtain ⟨site', rs, hstands, hsettings, -⟩ := h.take.run_value hp
    obtain ⟨site'', cur, rs', hstep, hassigned⟩ := hstands.assigned hr
    refine ⟨site'', cur, rs', ?_, by rw [hassigned, hsettings]⟩
    have hsplit : before ++ opening :: (p ++ [line]) = before ++ opening :: p ++ [line] := by simp
    rw [hsplit, run_append _ (before ++ opening :: p), run_singleton]
    exact hstep

/-- An argument with a blank line in it that repeats, and one with a line that is indented like
those of the call site. -/
theorem lines_stay_lifecycle :
    let t : Text := ("module \"m\" \x7b\n  lifecycle = \x7b\n    a = 1\n\n\n#~ label\n" ++
      "  \x7d\n\x7d\n").toList
    let u : Text := "module \"m\" \x7b\n  lifecycle = \x7b\n  size = 1\n  \x7d\n\x7d\n".toList
    let before : List Text := ["module \"m\" \x7b".toList]
    let opening : Text := "  lifecycle = \x7b".toList
    (t.ReservedAt ⟨1, [], []⟩ { name := "m".toList } before opening "\x7b".toList
        (["    a = 1", "", "", "#~ label", "  \x7d"].map String.toList) [blockEnd] ∧
      ["module \"m\" \x7b", "  lifecycle = \x7b", "    a = 1", "", "  \x7d"].map String.toList <+:
        (Content.ofText t).lines.map Line.text) ∧
    u.ReservedAt ⟨1, [], []⟩ { name := "m".toList } before opening "\x7b".toList
        (["  size = 1", "  \x7d"].map String.toList) [blockEnd] ∧
      ∃ site' cur rs, Stands ⟨1, [], []⟩ site' cur rs (run ({}, []) (before ++ [opening])).2
          (run ({}, []) (before ++ [opening, "  size = 1".toList])) ∧
        (site'.close cur).settings = OrderedMap.empty.insert "size".toList
          { isCommented := false, isCustom := true, lines := ["1".toList] } := by
  intro t u before opening
  have ht : t.ReservedAt ⟨1, [], []⟩ { name := "m".toList } before opening "\x7b".toList
      (["    a = 1", "", "", "#~ label", "  \x7d"].map String.toList) [blockEnd] :=
    { lines := by decide, stands := ⟨.empty, 1, rfl⟩,
      reserved := ⟨"lifecycle".toList, by decide⟩
      opens := by decide, whole := by decide, stays := by decide }
  have hu : u.ReservedAt ⟨1, [], []⟩ { name := "m".toList } before opening "\x7b".toList
      (["  size = 1", "  \x7d"].map String.toList) [blockEnd] :=
    { lines := by decide, stands := ⟨.empty, 1, rfl⟩,
      reserved := ⟨"lifecycle".toList, by decide⟩
      opens := by decide, whole := by decide, stays := by decide }
  have hsize : Entry.ofLine? "  size = 1".toList =
    some (.setting "size".toList "1".toList false true) := by decide
  exact ⟨⟨ht, (ht.lines_stay.1 (by decide)).2.1 (by decide)⟩, hu,
    hu.lines_stay.2 [] _ _ _ _ _ _ rfl (by simp) hsize⟩

/-- A line of a value that reads as an assignment of the call site is taken for one, and the
content does not keep it. -/
theorem inner_line_lost :
    let t : Text := "module \"m\" \x7b\n  lifecycle = \x7b\n  size = 1\n  \x7d\n\x7d\n".toList
    let line : Text := "  size = 1".toList
    (OpenValue.brackets (nestingDelta "\x7b".toList)).StaysOpen [line] ∧
      ¬(OpenValue.brackets (nestingDelta "\x7b".toList)).StaysOpen [line, "  \x7d".toList] ∧
      line ∉ (Content.ofText t).lines.map Line.text ∧
      ∃ site ∈ (Content.ofText t).callSites.values,
        (site.settings.get? "size".toList).isSome = true := by
  decide

end ReservedAt

end Text

end ModuleWiring

/-
Settings, written and read again.

What a reading notes of an assignment is enough to bring another reading to the same
point: the line that opens the setting with any padding, then the further lines that are
noted.  Blank lines that repeat are not noted, and a value that waits does not change
with them.

* `Stands` — a reading that stands in a call site;
* `OpenSetting.Replays`, `Setting.Replays` — the lines of a setting are read as it is;
* `recording_replays` — every way to record a setting makes sure of that.
-/
import ModuleWiring.Proofs.Reading.Kept
import ModuleWiring.Proofs.Reading.Recorded

namespace ModuleWiring

open Reading

/-- The variables that a setting refers to, its own among them. -/
def Setting.references (s : Setting) : List Text :=
  match s.lines with
  | [] => []
  | first :: further =>
    firstReferences s.isCommented s.isCustom first ++ further.flatMap Text.liveReferences

/-- The variables that a setting refers to as far as it is read. -/
def OpenSetting.references (o : OpenSetting) : List Text :=
  firstReferences o.isCommented o.isCustom o.first ++
    o.further.reverse.flatMap Text.liveReferences

/-- Where a call site stands: the line that opened it and the blocks in front of it. -/
structure Place where
  opened : Nat
  callSites : List CallSite
  declarations : List Declaration

/-- A reading that stands in a call site, however many lines it has read. -/
def Stands (w : Place) (site : CallSite) (cur : Option OpenSetting) (rs : NameSet)
    (kept : List Line) (s : Reading × List Line) : Prop :=
  ∃ n, s = (⟨.callSite site w.opened cur, n, w.callSites, w.declarations, rs⟩, kept)

/-- Whether the lines noted of an open setting are read as that setting. -/
def OpenSetting.Replays (o : OpenSetting) : Prop :=
  ∀ (a : Assignment) (pad : Text), a.name = o.name → a.isCommented = o.isCommented →
    Text.isBlank pad = true → ∀ w site rs kept s, Stands w site none rs kept s →
      Stands w (site.refer (some o.name) o.references) (some o) (rs.insertAll o.references) kept
        (run s (Text.trimEnd (Entry.written a pad o.first) :: o.further.reverse))

/-- Whether the lines of a setting are read as that setting. -/
def Setting.Replays (name : Text) (setting : Setting) : Prop :=
  ∀ (first : Text) (further : List Text), setting.lines = first :: further →
    ∀ (a : Assignment) (pad : Text), a.name = name → a.isCommented = setting.isCommented →
      Text.isBlank pad = true → ∀ w site rs kept s, Stands w site none rs kept s →
        Stands w ((site.refer (some name) setting.references).set name setting) none
          (rs.insertAll setting.references) kept
          (run s (Text.trimEnd (Entry.written a pad first) :: further))

/-! ### Written lines -/

theorem Entry.isLabelLine_written {a : Assignment} {pad value : Text}
    (h : isIdentifier a.name = true) :
    isLabelLine (Text.trimEnd (Entry.written a pad value)) = false := by
  have hline : Entry.written a pad value =
      ("  ".toList ++ (a.displayName ++ pad ++ [' '])) ++ '=' :: ([' '] ++ value) := by
    simp [Entry.written]
  rw [hline, Text.trimEnd_append_cons (by decide), isLabelLine, List.append_assoc,
    Text.trimStart_blank_append rfl, Assignment.displayName]
  cases a.isCommented with
  | true => rfl
  | false =>
    rcases hname : a.name with _ | ⟨c, cs⟩
    · exact absurd hname (ne_nil_of_isIdentifier h)
    · have hc : c ∈ a.name := hname ▸ List.mem_cons_self
      have hmark : ('#' == c) = false :=
        beq_false_of_ne (ne_of_mem_identifier h hc (by decide)).symm
      have hblank : isBlankChar c = false := isBlankChar_of_isNameChar (isNameChar_of_mem h hc)
      simp [Text.trimStart_cons_of_not_blank hblank, labelMark, List.isPrefixOf, hmark]

theorem Entry.ne_blockEnd {line : Text} {e : Entry} (h : Entry.ofLine? line = some e) :
    line ≠ blockEnd := by
  rintro rfl
  have hnone : Entry.ofLine? blockEnd = none := rfl
  rw [hnone] at h
  exact absurd h (by simp)

theorem CallSite.refer_append (site : CallSite) (own : Option Text) (xs ys : List Text) :
    (site.refer own xs).refer own ys = site.refer own (xs ++ ys) := by
  simp [CallSite.refer, NameSet.insertAll]

theorem CallSite.mem_referenced_refer {site : CallSite} {own : Option Text} {names : List Text}
    {name : Text} : name ∈ (site.refer own names).referenced ↔
      name ∈ site.referenced ∨ name ∈ names ∧ own ≠ some name := by
  rw [refer, NameSet.mem_insertAll, List.mem_filter, decide_eq_true_iff]
  exact Or.comm

theorem NameSet.insertAll_append (s : NameSet) (xs ys : List Text) :
    (s.insertAll xs).insertAll ys = s.insertAll (xs ++ ys) := by
  simp [NameSet.insertAll]

/-! ### Open values -/

/-- Whether a value waits for something that a blank line is not. -/
def OpenValue.Waits : OpenValue → Prop
  | .brackets depth => 0 < depth
  | .heredoc marker => marker ≠ []

theorem OpenValue.waits_ofFirstLine? {value : Text} {v : OpenValue}
    (h : ofFirstLine? value = some v) : v.Waits := by
  rw [ofFirstLine?] at h
  split at h
  · simp only [Option.ite_none_left_eq_some, Option.some.injEq] at h
    obtain ⟨hne, rfl⟩ := h
    exact fun hnil => hne (by rw [hnil]; rfl)
  · simp only [Option.ite_none_right_eq_some, Option.some.injEq] at h
    obtain ⟨hpos, rfl⟩ := h
    exact hpos

theorem OpenValue.waits_afterLine? {line : Text} {v v' : OpenValue} (hv : v.Waits)
    (h : v.afterLine? line = some v') : v'.Waits := by
  cases v with
  | brackets depth =>
    simp only [afterLine?, Option.ite_none_right_eq_some, Option.some.injEq] at h
    obtain ⟨hpos, rfl⟩ := h
    exact hpos
  | heredoc marker =>
    simp only [afterLine?, Option.ite_none_left_eq_some, Option.some.injEq] at h
    obtain ⟨-, rfl⟩ := h
    exact hv

/-- A blank line changes nothing for a value that waits. -/
theorem OpenValue.afterLine?_nil {v : OpenValue} (hv : v.Waits) : v.afterLine? [] = some v := by
  cases v with
  | brackets depth =>
    have hpos : 0 < depth := hv
    simp [afterLine?, nestingDelta, nestingDeltaFrom, hpos]
  | heredoc marker =>
    have hne : marker ≠ [] := hv
    have htrim : Text.trim [] = [] := rfl
    simp [afterLine?, htrim, Ne.symm hne]

theorem OpenSetting.code_nil (o : OpenSetting) : o.code [] = [] := by
  rw [OpenSetting.code]
  split <;> rfl

/-! ### Replays -/

/-- What makes a setting that is open fit to be written again. -/
structure OpenSetting.Sound (o : OpenSetting) : Prop where
  waits : o.value.Waits
  replays : o.Replays

theorem Entry.ofLine?_replayed {line key value pad : Text} {isCommented isCustom : Bool}
    {a : Assignment} (hr : Entry.ofLine? line = some (.setting key value isCommented isCustom))
    (hname : a.name = key) (hcommented : a.isCommented = isCommented)
    (hpad : Text.isBlank pad = true) :
    Entry.ofLine? (Text.trimEnd (Entry.written a pad value)) =
      some (.setting key value isCommented isCustom) := by
  obtain ⟨hid, htrim, hcustom, hfree, -⟩ := Entry.of_setting hr
  subst hname hcommented hcustom
  exact Entry.ofLine?_written hid hpad htrim hfree

namespace Stands

variable {w : Place} {site : CallSite} {o : OpenSetting} {rs : NameSet}
  {kept : List Line} {s : Reading × List Line} {line : Text}

theorem whole {key value : Text} {isCommented isCustom : Bool} (h : Stands w site none rs kept s)
    (hl : isLabelLine line = false)
    (hr : Entry.ofLine? line = some (.setting key value isCommented isCustom))
    (hn : (isCommented || isCustom) = true) (hv : OpenValue.ofFirstLine? value = none) :
    Stands w ((site.refer (some key) (firstReferences isCommented isCustom value)).set key
        { isCommented := isCommented, isCustom := isCustom, lines := [value] }) none
      (rs.insertAll (firstReferences isCommented isCustom value)) kept (visit.step s line) := by
  obtain ⟨n, rfl⟩ := h
  exact ⟨n + 1, (Step.setting hl (Entry.ne_blockEnd hr) hr hn hv).eq⟩

theorem first {key value : Text} {isCommented isCustom : Bool} {v : OpenValue}
    (h : Stands w site none rs kept s) (hl : isLabelLine line = false)
    (hr : Entry.ofLine? line = some (.setting key value isCommented isCustom))
    (hn : (isCommented || isCustom) = true) (hv : OpenValue.ofFirstLine? value = some v) :
    Stands w (site.refer (some key) (firstReferences isCommented isCustom value))
      (some { name := key, isCommented := isCommented, isCustom := isCustom, first := value,
              value := v })
      (rs.insertAll (firstReferences isCommented isCustom value)) kept (visit.step s line) := by
  obtain ⟨n, rfl⟩ := h
  exact ⟨n + 1, (Step.openSetting hl (Entry.ne_blockEnd hr) hr hn hv).eq⟩

theorem further {v : OpenValue} (h : Stands w site (some o) rs kept s)
    (hl : isLabelLine line = false) (he : line ≠ blockEnd)
    (hv : o.value.afterLine? (o.code line) = some v) :
    Stands w (site.refer (some o.name) (Text.liveReferences line))
      (some { o.push line with value := v }) (rs.insertAll (Text.liveReferences line)) kept
      (visit.step s line) := by
  obtain ⟨n, rfl⟩ := h
  exact ⟨n + 1, (Step.valueGoesOn hl he hv).eq⟩

theorem last (h : Stands w site (some o) rs kept s) (hl : isLabelLine line = false)
    (he : line ≠ blockEnd) (hv : o.value.afterLine? (o.code line) = none) :
    Stands w ((site.refer (some o.name) (Text.liveReferences line)).close (some (o.push line)))
      none (rs.insertAll (Text.liveReferences line)) kept (visit.step s line) := by
  obtain ⟨n, rfl⟩ := h
  exact ⟨n + 1, (Step.valueEnd hl he hv).eq⟩

end Stands

theorem OpenSetting.push_of_not_blank {o : OpenSetting} {line : Text}
    (h : Text.isBlank line = false) : o.push line = { o with further := line :: o.further } := by
  rw [OpenSetting.push, h]
  rfl

/-- A further line that is noted, or a blank one that repeats. -/
theorem OpenSetting.Sound.further {o : OpenSetting} {line : Text} {v : OpenValue} (ho : o.Sound)
    (hline : IsLine line) (hl : isLabelLine line = false) (he : line ≠ blockEnd)
    (hv : o.value.afterLine? (o.code line) = some v) :
    OpenSetting.Sound { o.push line with value := v } := by
  refine ⟨OpenValue.waits_afterLine? ho.waits hv, ?_⟩
  by_cases hrepeats : (Text.isBlank line && (o.further ++ [o.first]).head?.any Text.isBlank) = true
  · -- a blank line that repeats leaves no trace, and the value waits as before
    have hnil := hline.eq_nil (Bool.and_eq_true_iff.mp hrepeats).1
    have hsame : ({ o.push line with value := v } : OpenSetting) = o := by
      rw [hnil, OpenSetting.code_nil, OpenValue.afterLine?_nil ho.waits] at hv
      rw [OpenSetting.push, if_pos hrepeats, ← Option.some.inj hv]
    rw [hsame]
    exact ho.replays
  · -- any other line is read behind those that are noted
    have hpush : o.push line = { o with further := line :: o.further } := by
      rw [OpenSetting.push, if_neg hrepeats]
    have hrefs : OpenSetting.references { o.push line with value := v } =
        o.references ++ Text.liveReferences line := by
      simp [hpush, OpenSetting.references]
    intro a pad hname hcommented hpad w site rs kept s hs
    have hstep := (ho.replays a pad (by simpa [hpush] using hname)
      (by simpa [hpush] using hcommented) hpad w site rs kept s hs).further hl he hv
    rw [CallSite.refer_append, NameSet.insertAll_append, ← run_singleton, ← run_append] at hstep
    rw [hrefs]
    simpa [hpush] using hstep

/-- The line that completes a value is no blank one, so nothing is cut off behind it. -/
theorem OpenSetting.Sound.last {o : OpenSetting} {line : Text} (ho : o.Sound)
    (hline : IsLine line) (hl : isLabelLine line = false) (he : line ≠ blockEnd)
    (hv : o.value.afterLine? (o.code line) = none) : (o.push line).close.Replays o.name := by
  have hb : Text.isBlank line = false := by
    rw [← Bool.not_eq_true]
    intro hb
    rw [hline.eq_nil hb, OpenSetting.code_nil, OpenValue.afterLine?_nil ho.waits] at hv
    exact absurd hv (by simp)
  have hpush := OpenSetting.push_of_not_blank (o := o) hb
  have hclose : (o.push line).close = { isCommented := o.isCommented, isCustom := o.isCustom,
                                        lines := o.first :: (o.further.reverse ++ [line]) } := by
    rw [hpush, OpenSetting.close, List.dropWhile_cons, hb]
    simp
  have hrefs : (o.push line).close.references = o.references ++ Text.liveReferences line := by
    simp [hclose, Setting.references, OpenSetting.references]
  intro first further hlines a pad hname hcommented hpad w site rs kept s hs
  have hcommented' : a.isCommented = o.isCommented := by simpa [hclose] using hcommented
  have hstep := (ho.replays a pad hname hcommented' hpad w site rs kept s hs).last hl he hv
  rw [CallSite.refer_append, NameSet.insertAll_append, ← run_singleton, ← run_append,
    CallSite.close, name_push] at hstep
  rw [hclose] at hlines
  obtain ⟨rfl, rfl⟩ := List.cons.inj hlines
  rw [hrefs]
  simpa using hstep

theorem recording_replays : Recording Setting.Replays OpenSetting.Sound where
  whole := by
    intro line key value isCommented isCustom hline hr hn hv first further hlines a pad hname
      hcommented hpad w site rs kept s hs
    obtain ⟨rfl, rfl⟩ := List.cons.inj hlines
    have hid : isIdentifier a.name = true := hname ▸ (Entry.of_setting hr).1
    have hstep := hs.whole (Entry.isLabelLine_written hid)
      (Entry.ofLine?_replayed hr hname hcommented hpad) hn hv
    simpa [Setting.references, run_singleton] using hstep
  first := by
    intro line key value isCommented isCustom v hline hr hn hv
    refine ⟨OpenValue.waits_ofFirstLine? hv, ?_⟩
    intro a pad hname hcommented hpad w site rs kept s hs
    have hid : isIdentifier a.name = true := hname ▸ (Entry.of_setting hr).1
    have hstep := hs.first (Entry.isLabelLine_written hid)
      (Entry.ofLine?_replayed hr hname hcommented hpad) hn hv
    simpa [OpenSetting.references, run_singleton] using hstep
  further ho hline hl he hv := ho.further hline hl he hv
  last ho hline hl he hv := ho.last hline hl he hv

end ModuleWiring

/-
The settings that a reading records.

A setting is put together over many lines, and every line that records something of one has
its part in what holds of them all: the line of the assignment says what it is called and
whether its value is given by hand, the lines of an open value are set apart by at most one
blank line, and the value goes on for as long as brackets are open or the marker of the
here-document has not come.

* `Setting.WellFormed` — what may stand in a setting, by the name it is recorded under;
* `Setting.Complete` — the lines of a setting are those of one value, and all of them;
* `OpenSetting.Pending` — what is known of the lines while the value is open;
* `Reading.CutsOff` — the end of a call site cuts a value off;
* `settings_sound` — every setting of a content is well-formed, and it is complete if the
  end of the call site has not cut it off.
-/
import ModuleWiring.Proofs.Reading.Values

namespace ModuleWiring

open Reading

/-- The marker of the here-document that a value begins. -/
def Text.marker? (value : Text) : Option Text :=
  (after? ['<', '<'] value).bind fun rest =>
    if (trim (rest.dropWhile (· == '-'))).isEmpty then none
    else some (trim (rest.dropWhile (· == '-')))

namespace Setting

/-- The lines of a value as they count for its end: without the comment marks in front of
them, where a further line of a commented assignment has some. -/
def counted (s : Setting) : List Text :=
  match s.lines with
  | [] => []
  | first :: further => first :: further.map fun line =>
      if s.isCommented then (Text.trimStart line).dropWhile (· == '#') else line

/-- Whether the lines of a setting are those of one value, and all of them. -/
inductive Complete (s : Setting) : Prop
  | line {value : Text} (hlines : s.lines = [value]) (hmarker : value.marker? = none)
    (hdelta : nestingDelta value ≤ 0)
  | brackets {first : Text} {further : List Text} (hlines : s.counted = first :: further)
    (hmulti : further ≠ []) (hmarker : first.marker? = none)
    (hopen : ∀ p, p <+: s.counted → p ≠ [] → p ≠ s.counted →
      0 < (p.map nestingDelta).sum)
    (hclosed : (s.counted.map nestingDelta).sum ≤ 0)
  | heredoc {first marker last : Text} {further : List Text}
    (hlines : s.counted = first :: (further ++ [last])) (hmarker : first.marker? = some marker)
    (hearlier : ∀ line ∈ further, Text.trim line ≠ marker) (hlast : Text.trim last = marker)

/-- What holds of the further lines of a setting. -/
structure Spaced (s : Setting) : Prop where
  further : ∀ line ∈ s.lines.tail, line ≠ blockEnd ∧ isLabelLine line = false
  apart : s.lines.IsChain fun l m => ¬(Text.isBlank l = true ∧ Text.isBlank m = true)
  last : s.isMultiLine = true → ∀ line ∈ s.lines.getLast?, Text.isBlank line = false

/-- What may stand in a setting that is recorded under a name. -/
structure WellFormed (name : Text) (s : Setting) : Prop extends Spaced s where
  identifier : isIdentifier name = true
  reserved : name ∈ reservedNames → s.isCommented = true ∧ s.isCustom = false
  live : s.isCommented = false → s.isCustom = true
  first : ∃ first further, s.lines = first :: further ∧
    (s.isCustom = true ↔ first ≠ passThrough name)

end Setting

namespace OpenSetting

/-- What is known of the lines of a setting whose value is open. -/
structure Spaced (o : OpenSetting) : Prop where
  further : ∀ line ∈ o.further, line ≠ blockEnd ∧ isLabelLine line = false
  apart : o.lines.IsChain fun l m => ¬(Text.isBlank l = true ∧ Text.isBlank m = true)

variable {o : OpenSetting} {line : Text} {v : OpenValue}

theorem Spaced.push (h : o.Spaced) (he : line ≠ blockEnd) (hl : isLabelLine line = false) :
    (o.push line).Spaced := by
  have hlines := o.lines_push line
  rw [OpenSetting.push] at hlines ⊢
  split
  · exact h
  · next hrepeats =>
    refine ⟨fun l hm => ?_, ?_⟩
    · rcases List.mem_cons.mp hm with rfl | hm
      · exact ⟨he, hl⟩
      · exact h.further l hm
    · rw [if_neg hrepeats] at hlines
      split at hlines
      · rw [hlines]
        exact h.apart
      · next hblank =>
        rw [hlines]
        refine List.isChain_append.mpr ⟨h.apart, .singleton _, fun l hlast m hm => ?_⟩
        obtain rfl := Option.some.inj hm
        rintro ⟨hl', hm'⟩
        exact hblank (by simp [hm', Option.mem_def.mp hlast, hl'])

theorem Spaced.close (h : o.Spaced) : o.close.Spaced := by
  have hprefix : o.first :: (o.further.dropWhile Text.isBlank).reverse <+: o.lines :=
    (List.prefix_cons_inj o.first).mpr
      (List.reverse_prefix.mpr (List.dropWhile_suffix Text.isBlank))
  refine ⟨fun line hm => ?_, h.apart.prefix hprefix, fun hmulti line hlast => ?_⟩
  · exact h.further line ((List.dropWhile_suffix _).subset (List.mem_reverse.mp hm))
  · rcases hdrop : o.further.dropWhile Text.isBlank with _ | ⟨l, ls⟩
    · rw [Setting.isMultiLine, OpenSetting.close, hdrop] at hmulti
      simp at hmulti
    · have hblank := List.head_dropWhile_not Text.isBlank (l := o.further) (by simp [hdrop])
      rw [OpenSetting.close, hdrop, List.reverse_cons, ← List.cons_append,
        List.getLast?_concat] at hlast
      obtain rfl := Option.some.inj hlast
      simpa [hdrop] using hblank

end OpenSetting

/-! ### Values that are complete -/

theorem Text.ne_nil_of_marker? {value marker : Text} (h : value.marker? = some marker) :
    marker ≠ [] := by
  obtain ⟨rest, -, hrest⟩ := Option.bind_eq_some_iff.mp h
  rw [Option.ite_none_left_eq_some, Option.some.injEq] at hrest
  obtain ⟨hne, rfl⟩ := hrest
  exact fun hnil => hne (by rw [hnil]; rfl)

namespace OpenValue

variable {value : Text}

theorem ofFirstLine?_of_marker {marker : Text} (h : value.marker? = some marker) :
    ofFirstLine? value = some (.heredoc marker) := by
  obtain ⟨rest, hafter, hrest⟩ := Option.bind_eq_some_iff.mp h
  rw [Option.ite_none_left_eq_some, Option.some.injEq] at hrest
  obtain ⟨hne, rfl⟩ := hrest
  rw [ofFirstLine?, hafter]
  exact if_neg hne

/-- The mark of a here-document with nothing but hyphens and blanks behind it opens no
bracket. -/
theorem nestingDelta_of_no_marker {rest : Text}
    (h : (Text.trim (rest.dropWhile (· == '-'))).isEmpty = true) :
    nestingDelta (['<', '<'] ++ rest) = 0 := by
  have hblank := Text.isBlank_of_trim (List.isEmpty_iff.mp h)
  refine nestingDelta_of_plain fun c hc => ?_
  rw [← List.takeWhile_append_dropWhile (p := (· == '-')) (l := rest)] at hc
  rcases List.mem_append.mp hc with hc | hc
  · obtain rfl : c = '<' := by simpa using hc
    decide
  · rcases List.mem_append.mp hc with hc | hc
    · obtain rfl : c = '-' := by simpa using List.mem_takeWhile_imp hc
      decide
    · have hnot : nestingChars.all (fun d => !isBlankChar d) = true := rfl
      intro hm
      have hc' := List.all_eq_true.mp hblank c hc
      simpa [hc'] using List.all_eq_true.mp hnot c hm

theorem ofFirstLine?_of_no_marker (h : value.marker? = none) : ofFirstLine? value =
    if 0 < nestingDelta value then some (.brackets (nestingDelta value)) else none := by
  rw [ofFirstLine?]
  rw [Text.marker?, Option.bind_eq_none_iff] at h
  split
  · next rest hafter =>
    have hempty := h rest hafter
    rw [ite_eq_left_iff] at hempty
    have hrest : (Text.trim (rest.dropWhile (· == '-'))).isEmpty = true := by
      by_contra hne
      exact absurd (hempty hne) (by simp)
    rw [Text.after?_eq_some_iff.mp hafter, nestingDelta_of_no_marker hrest, if_pos hrest]
    rfl
  · rfl

end OpenValue

/-- What is known of the lines of a value, as they count for its end, while it is open. -/
inductive OpenValue.Pending : OpenValue → (first : Text) → (further : List Text) → Prop
  | brackets {first : Text} {further : List Text} (hmarker : first.marker? = none)
    (hopen : ∀ p, p <+: first :: further → p ≠ [] → 0 < (p.map nestingDelta).sum) :
    Pending (.brackets ((first :: further).map nestingDelta).sum) first further
  | heredoc {first marker : Text} {further : List Text} (hmarker : first.marker? = some marker)
    (hearlier : ∀ line ∈ further, Text.trim line ≠ marker) :
    Pending (.heredoc marker) first further

namespace OpenValue

variable {v v' : OpenValue} {first line : Text} {further : List Text}

theorem pending_first (h : ofFirstLine? first = some v) : v.Pending first [] := by
  rcases hmarker : first.marker? with _ | marker
  · rw [ofFirstLine?_of_no_marker hmarker, Option.ite_none_right_eq_some, Option.some.injEq] at h
    obtain ⟨hpos, rfl⟩ := h
    have hsum : nestingDelta first = ([first].map nestingDelta).sum := by simp
    rw [hsum] at hpos ⊢
    refine .brackets hmarker fun p hp hne => ?_
    rcases List.prefix_cons_iff.mp hp with rfl | ⟨q, rfl, hq⟩
    · exact absurd rfl hne
    · rw [List.prefix_nil.mp hq]
      exact hpos
  · obtain rfl := Option.some.inj ((ofFirstLine?_of_marker hmarker).symm.trans h)
    exact .heredoc hmarker (by simp)

theorem Pending.waits (h : v.Pending first further) : v.Waits := by
  cases h with
  | brackets hmarker hopen => exact hopen _ List.prefix_rfl (List.cons_ne_nil _ _)
  | heredoc hmarker hearlier => exact Text.ne_nil_of_marker? hmarker

theorem sum_concat (ls : List Text) (line : Text) :
    ((ls ++ [line]).map nestingDelta).sum = (ls.map nestingDelta).sum + nestingDelta line := by
  simp

theorem Pending.concat (h : v.Pending first further) (hv : v.afterLine? line = some v') :
    v'.Pending first (further ++ [line]) := by
  cases h with
  | brackets hmarker hopen =>
    rw [afterLine?, Option.ite_none_right_eq_some, Option.some.injEq] at hv
    obtain ⟨hpos, rfl⟩ := hv
    rw [← sum_concat, List.cons_append] at hpos ⊢
    refine .brackets hmarker fun p hp hne => ?_
    rw [← List.cons_append] at hp
    rcases List.prefix_concat_iff.mp hp with rfl | hp
    · exact hpos
    · exact hopen p hp hne
  | heredoc hmarker hearlier =>
    rw [afterLine?, Option.ite_none_left_eq_some, Option.some.injEq] at hv
    obtain ⟨hline, rfl⟩ := hv
    refine .heredoc hmarker fun l hl => ?_
    rcases List.mem_append.mp hl with hl | hl
    · exact hearlier l hl
    · rw [List.mem_singleton.mp hl]
      exact hline

end OpenValue

theorem Setting.complete_of_pending {s : Setting} {v : OpenValue} {first line : Text}
    {further : List Text} (h : v.Pending first further) (hv : v.afterLine? line = none)
    (hs : s.counted = first :: (further ++ [line])) : s.Complete := by
  cases h with
  | brackets hmarker hopen =>
    rw [OpenValue.afterLine?, ite_eq_right_iff] at hv
    rw [← List.cons_append] at hs
    refine .brackets hs (by simp) hmarker (fun p hp hne hproper => ?_) ?_
    · rw [hs] at hp hproper
      rcases List.prefix_concat_iff.mp hp with rfl | hp
      · exact absurd rfl hproper
      · exact hopen p hp hne
    · rw [hs, OpenValue.sum_concat]
      exact Int.not_lt.mp fun hpos => absurd (hv hpos) (by simp)
  | heredoc hmarker hearlier =>
    rw [OpenValue.afterLine?, ite_eq_left_iff] at hv
    exact .heredoc hs hmarker hearlier (by_contra fun hne => absurd (hv hne) (by simp))

namespace OpenSetting

variable {o : OpenSetting} {line : Text} {v : OpenValue}

/-- Whether the lines of a setting are as those of its open value should be. -/
def Pending (o : OpenSetting) : Prop :=
  o.value.Pending o.first (o.further.reverse.map o.code)

theorem Pending.further (h : o.Pending) (hline : IsLine line)
    (hv : o.value.afterLine? (o.code line) = some v) :
    Pending { o.push line with value := v } := by
  rw [push]
  split
  · next hrepeats =>
    -- a blank line that is not noted counts for nothing
    rw [Bool.and_eq_true] at hrepeats
    rw [hline.eq_nil hrepeats.1, code_nil, OpenValue.afterLine?_nil h.waits] at hv
    obtain rfl := Option.some.inj hv
    exact h
  · show v.Pending o.first ((line :: o.further).reverse.map o.code)
    rw [List.reverse_cons, List.map_append]
    exact h.concat hv

theorem Pending.last (h : o.Pending) (hline : IsLine line)
    (hv : o.value.afterLine? (o.code line) = none) : (o.push line).close.Complete := by
  have hblank : Text.isBlank line = false := by
    rw [← Bool.not_eq_true]
    intro hblank
    rw [hline.eq_nil hblank, code_nil, OpenValue.afterLine?_nil h.waits] at hv
    exact absurd hv (by simp)
  refine Setting.complete_of_pending h hv ?_
  rw [push, hblank, Bool.false_and, if_neg Bool.false_ne_true]
  simp [Setting.counted, close, hblank, code]

end OpenSetting

namespace Reading

theorem recording_spaced : Recording (fun _ s => s.Spaced) OpenSetting.Spaced where
  whole _ _ _ _ := ⟨by simp, .singleton _, by simp [Setting.isMultiLine]⟩
  first _ _ _ _ := ⟨by simp, .singleton _⟩
  further h _ hl he _ := ⟨(h.push he hl).further, (h.push he hl).apart⟩
  last h _ hl he _ := (h.push he hl).close

theorem recording_complete : Recording (fun _ s => s.Complete) OpenSetting.Pending where
  whole hline hr hn hv := by
    rename_i key value isCommented isCustom
    rcases hmarker : value.marker? with _ | marker
    · rw [OpenValue.ofFirstLine?_of_no_marker hmarker, ite_eq_right_iff] at hv
      exact .line rfl hmarker (Int.not_lt.mp fun hpos => absurd (hv hpos) (by simp))
    · rw [OpenValue.ofFirstLine?_of_marker hmarker] at hv
      exact absurd hv (by simp)
  first _ _ _ hv := OpenValue.pending_first hv
  further h hline _ _ hv := h.further hline hv
  last h hline _ _ hv := h.last hline hv

/-- Whether the end of a call site cuts off the value of a setting of it, in some lines. -/
def CutsOff (ls : List Text) (site : CallSite) (name : Text) (s : Setting) : Prop :=
  ∃ before after open_ m o, ls = before ++ blockEnd :: after ∧
    (run ({}, []) before).1.region = .callSite open_ m (some o) ∧
    site = open_.close (some o) ∧ name = o.name ∧ s = o.close

theorem CutsOff.concat {ls : List Text} {site : CallSite} {name : Text} {s : Setting}
    (h : CutsOff ls site name s) (line : Text) : CutsOff (ls ++ [line]) site name s := by
  obtain ⟨before, after, open_, m, o, rfl, hrest⟩ := h
  exact ⟨before, after ++ [line], open_, m, o, by simp, hrest⟩

variable {P : Text → Setting → Prop} {Q : OpenSetting → Prop} {s s' : Reading × List Line}
  {line : Text} {ls : List Text}

/-- Whether the settings of the call sites that have ended have a property unless they are cut
off. -/
def RecordsEnded (P : Text → Setting → Prop) (ls : List Text) (r : Reading) : Prop :=
  ∀ site ∈ r.callSites, ∀ e ∈ site.settings.entries, P e.1 e.2 ∨ CutsOff ls site e.1 e.2

theorem recordsEnded_step (hs : RecordsEnded P ls s.1) (hhere : RecordsHere P Q s.1)
    (hrun : s = run ({}, []) ls) (h : Step s line s') : RecordsEnded P (ls ++ [line]) s'.1 := by
  intro site hsite e he
  have hold : ∀ site ∈ s.1.callSites, ∀ e ∈ site.settings.entries,
      P e.1 e.2 ∨ CutsOff (ls ++ [line]) site e.1 e.2 :=
    fun site hsite e he => (hs site hsite e he).imp id fun hcut => hcut.concat line
  rcases callSites_cases h with hsame | ⟨open_, m, cur, rfl, hregion, hcons⟩
  · exact hold site (hsame ▸ hsite) e he
  · rw [hcons] at hsite
    rcases List.mem_cons.mp hsite with rfl | hsite
    · have hstood : open_ ∈ s.1.callSite? := by rw [callSite?, hregion]; rfl
      cases cur with
      | none => exact .inl (hhere.setting open_ hstood e he)
      | some o =>
        rcases mem_entries_set he with rfl | he
        · exact .inr ⟨ls, [], open_, m, o, rfl, hrun ▸ hregion, rfl, rfl, rfl⟩
        · exact .inl (hhere.setting open_ hstood e he)
    · exact hold site hsite e he

/-- A property that recording makes sure of holds of all settings that are not cut off. -/
theorem Recording.ofText_or_cutsOff (hR : Recording P Q) (t : Text) :
    RecordsEnded P (t.lines.map Text.trimEnd) (Reading.ofText t).1 := by
  rw [ofText_eq_run]
  have hrun := prefix_induction
    (P := fun ls s => s = run ({}, []) ls ∧ RecordsHere P Q s.1 ∧ RecordsEnded P ls s.1)
    ⟨rfl, ⟨by simp [callSite?], by simp [current?]⟩, by simp [RecordsEnded]⟩
    (fun ls s line s' ⟨hrun, hhere, hended⟩ hline h => by
      refine ⟨?_, hR.step_here hhere hline h, recordsEnded_step hended hhere hrun h⟩
      rw [run_append, ← hrun, run_singleton, h.eq])
    fun line (hl : line ∈ t.lines.map Text.trimEnd) => isLine_of_mem_lines hl
  exact hrun.2.2

/-! ### What is noted beside the settings -/

theorem isIdentifier_of_referenceAt? {t name : Text} (h : Text.referenceAt? t = some name) :
    isIdentifier name = true := by
  rw [Text.referenceAt?] at h
  split at h
  · rw [Option.ite_none_right_eq_some, Option.some.injEq] at h
    obtain ⟨hstart, rfl⟩ := h
    rw [isIdentifier, hstart, Bool.true_and]
    exact List.all_takeWhile
  · exact absurd h (by simp)

theorem isIdentifier_of_mem_references {t name : Text} (h : name ∈ Text.references t) :
    isIdentifier name = true := by
  have hfrom : ∀ (t : Text) (skip : Nat) (inWord : Bool),
      name ∈ Text.referencesFrom skip inWord t →
      isIdentifier name = true := by
    intro t
    induction t with
    | nil => simp [Text.referencesFrom]
    | cons c t ih =>
      intro skip inWord h
      cases skip with
      | succ skip => exact ih skip _ h
      | zero =>
        rw [Text.referencesFrom] at h
        split at h
        · next name' hname =>
          rcases List.mem_cons.mp h with rfl | h
          · rw [Option.ite_none_left_eq_some] at hname
            exact isIdentifier_of_referenceAt? hname.2
          · exact ih _ _ h
        · exact ih _ _ h
  exact hfrom t 0 false h

/-- Whether a call site sets reserved arguments only, and refers to variables that are noted. -/
structure Refers (rs : NameSet) (site : CallSite) : Prop where
  reserved : ∀ name ∈ site.reserved, name ∈ reservedNames
  referenced : ∀ v ∈ site.referenced, v ∈ rs

theorem Refers.mono {rs rs' : NameSet} {site : CallSite} (h : Refers rs site)
    (hsub : ∀ v ∈ rs, v ∈ rs') : Refers rs' site :=
  ⟨h.reserved, fun v hv => hsub v (h.referenced v hv)⟩

/-- Whether all that a reading has noted beside the settings is sound. -/
structure Referring (r : Reading) : Prop where
  identifiers : ∀ v ∈ r.references, isIdentifier v = true
  callSites : ∀ site ∈ r.allCallSites, Refers r.references site

theorem identifiers_insertAll {rs : NameSet} {names : List Text}
    (h : ∀ v ∈ rs, isIdentifier v = true) (hnames : ∀ v ∈ names, isIdentifier v = true) :
    ∀ v ∈ rs.insertAll names, isIdentifier v = true := by
  intro v hv
  rcases NameSet.mem_insertAll.mp hv with hv | hv
  · exact hnames v hv
  · exact h v hv

theorem isIdentifier_of_mem_liveReferences {line v : Text} (h : v ∈ Text.liveReferences line) :
    isIdentifier v = true := by
  rw [Text.liveReferences] at h
  split at h
  · simp at h
  · exact isIdentifier_of_mem_references h

theorem isIdentifier_of_mem_firstReferences {isCommented isCustom : Bool} {value v : Text}
    (h : v ∈ firstReferences isCommented isCustom value) : isIdentifier v = true := by
  rw [firstReferences] at h
  split at h
  · exact isIdentifier_of_mem_references h
  · simp at h

theorem Refers.refer {rs : NameSet} {site : CallSite} (h : Refers rs site) (own : Option Text)
    (names : List Text) : Refers (rs.insertAll names) (site.refer own names) := by
  refine ⟨h.reserved, fun v hv => ?_⟩
  rw [NameSet.mem_insertAll]
  rcases NameSet.mem_insertAll.mp hv with hv | hv
  · exact .inl (List.mem_filter.mp hv).1
  · exact .inr (h.referenced v hv)

theorem Refers.set {rs : NameSet} {site : CallSite} (h : Refers rs site) (name : Text)
    (setting : Setting) : Refers rs (site.set name setting) :=
  ⟨h.reserved, h.referenced⟩

theorem Refers.close {rs : NameSet} {site : CallSite} (h : Refers rs site)
    (cur : Option OpenSetting) : Refers rs (site.close cur) := by
  cases cur with
  | none => exact h
  | some o => exact h.set o.name o.close

theorem referring_step (hs : Referring s.1) (h : Step s line s') : Referring s'.1 := by
  obtain ⟨hids, hsites⟩ := hs
  -- what is noted of the other call sites stays noted
  have more : ∀ {old new : CallSite} {cs : List CallSite} {rs : NameSet} {names : List Text},
      (∀ site ∈ old :: cs, Refers rs site) → Refers (rs.insertAll names) new →
        ∀ site ∈ new :: cs, Refers (rs.insertAll names) site := by
    intro old new cs rs names hall hnew site hsite
    rcases List.mem_cons.mp hsite with rfl | hsite
    · exact hnew
    · exact (hall site (List.mem_cons_of_mem old hsite)).mono
        fun v hv => NameSet.mem_insertAll.mpr (.inr hv)
  cases h with
  | @callSiteHeading o n cs ds rs kept line name hl hh =>
    refine ⟨hids, fun site hsite => ?_⟩
    rcases List.mem_cons.mp hsite with rfl | hsite
    · exact ⟨fun _ h => absurd h List.not_mem_nil, fun _ h => absurd h List.not_mem_nil⟩
    · exact hsites site hsite
  | outsideLine =>
    exact ⟨identifiers_insertAll hids fun v hv => isIdentifier_of_mem_liveReferences hv,
      fun site hsite => (hsites site hsite).mono
        fun v hv => NameSet.mem_insertAll.mpr (.inr hv)⟩
  | @callSiteEnd site m cur =>
    refine ⟨hids, fun site' hsite => ?_⟩
    rcases List.mem_cons.mp hsite with rfl | hsite
    · exact (hsites site List.mem_cons_self).close cur
    · exact hsites site' (List.mem_cons_of_mem site hsite)
  | valueGoesOn | callSiteLine =>
    exact ⟨identifiers_insertAll hids fun v hv => isIdentifier_of_mem_liveReferences hv,
      more hsites ((hsites _ List.mem_cons_self).refer _ _)⟩
  | valueEnd =>
    exact ⟨identifiers_insertAll hids fun v hv => isIdentifier_of_mem_liveReferences hv,
      more hsites (((hsites _ List.mem_cons_self).refer _ _).close (some _))⟩
  | @reserved site m n cs ds rs kept _ key value hl he hr =>
    have hsite := hsites site List.mem_cons_self
    have hreserved : ∀ name ∈ site.reserved.insert key, name ∈ reservedNames := by
      intro name hname
      rcases NameSet.mem_insert.mp hname with rfl | hname
      · exact (Entry.of_reserved hr).1
      · exact hsite.reserved name hname
    have hrefer := hsite.refer none (Text.references value)
    exact ⟨identifiers_insertAll hids fun v hv => isIdentifier_of_mem_references hv,
      more hsites ⟨hreserved, hrefer.referenced⟩⟩
  | setting =>
    exact ⟨identifiers_insertAll hids fun v hv => isIdentifier_of_mem_firstReferences hv,
      more hsites (((hsites _ List.mem_cons_self).refer _ _).set _ _)⟩
  | openSetting =>
    exact ⟨identifiers_insertAll hids fun v hv => isIdentifier_of_mem_firstReferences hv,
      more hsites ((hsites _ List.mem_cons_self).refer _ _)⟩
  | _ => exact ⟨hids, hsites⟩

end Reading

theorem Setting.Noted.wellFormed {name : Text} {s : Setting} (h : s.Noted name) (hs : s.Spaced) :
    s.WellFormed name := by
  have hrecorded := h.recorded
  have hfree := h.free
  obtain ⟨first, further, hlines, -, -, hcustom, -⟩ := h.lines
  refine ⟨hs, h.identifier, fun hreserved => ?_, fun hlive => ?_, first, further, hlines, ?_⟩
  · rw [List.contains_iff_mem.mpr hreserved, Bool.true_and] at hfree
    rw [hfree, Bool.or_false] at hrecorded
    exact ⟨hrecorded, hfree⟩
  · rw [hlive, Bool.false_or] at hrecorded
    exact hrecorded
  · rw [hcustom, bne_iff_ne]

namespace Content

variable {t : Text} {site : CallSite}

/-- The settings of the call sites of every text have no blank lines but single ones inside. -/
theorem spaced_ofText (hsite : site ∈ (ofText t).callSites.values) {name : Text} {s : Setting}
    (hs : site.settings.get? name = some s) : s.Spaced := by
  obtain ⟨⟨key, site'⟩, he, rfl⟩ := List.mem_map.mp hsite
  have hspaced := recording_spaced.ofText (fun _ => OpenSetting.Spaced.close) t
  exact hspaced.setting _ (mem_allCallSites (mem_callSites_ofText he).2) _
    (OrderedMap.get?_eq_some_iff.mp hs)

/-- What the call sites of every text list beside their settings are reserved arguments. -/
theorem isReserved_ofText (hsite : site ∈ (ofText t).callSites.values) {name : Text}
    (h : name ∈ site.reserved) : name ∈ reservedNames := by
  obtain ⟨⟨key, site'⟩, he, rfl⟩ := List.mem_map.mp hsite
  have hreferring : Referring (Reading.ofText t).1 :=
    ofText_induction ⟨fun _ h => absurd h List.not_mem_nil, by simp [allCallSites]⟩
      (fun _ _ _ hs _ h => referring_step hs h) t
  exact (hreferring.callSites _ (mem_allCallSites (mem_callSites_ofText he).2)).reserved name h

end Content

/-- **Every setting is sound.**  For every setting of every call site of a text: the name and
the lines are such as `Setting.WellFormed` says, and the lines are those of one whole value
unless the end of the call site has cut it off.  Beside its settings a call site lists reserved
arguments only, and refers only to variables that are referred to in the text. -/
theorem Content.settings_sound (t : Text) : ∀ site ∈ (ofText t).callSites.values,
    (∀ name s, site.settings.get? name = some s →
      s.WellFormed name ∧ (s.Complete ∨ CutsOff (t.lines.map Text.trimEnd) site name s)) ∧
    (∀ name ∈ site.reserved, name ∈ reservedNames) ∧
    ∀ v ∈ site.referenced, isIdentifier v = true ∧ v ∈ (ofText t).references := by
  intro site hsite
  obtain ⟨⟨key, site'⟩, he, rfl⟩ := List.mem_map.mp hsite
  have hended := (mem_callSites_ofText he).2
  have hreferring : Referring (Reading.ofText t).1 :=
    ofText_induction ⟨fun _ h => absurd h List.not_mem_nil, by simp [allCallSites]⟩
      (fun _ _ _ hs _ h => referring_step hs h) t
  have hrefers := hreferring.callSites _ (mem_allCallSites hended)
  refine ⟨fun name s hs => ⟨?_, ?_⟩, hrefers.reserved, fun v hv => ?_⟩
  · have hspaced := recording_spaced.ofText (fun _ => OpenSetting.Spaced.close) t
    exact (noted_ofText hsite hs).wellFormed
      (hspaced.setting _ (mem_allCallSites hended) _ (OrderedMap.get?_eq_some_iff.mp hs))
  · exact recording_complete.ofText_or_cutsOff t _ hended _ (OrderedMap.get?_eq_some_iff.mp hs)
  · have hnoted := hrefers.referenced v hv
    exact ⟨hreferring.identifiers v hnoted, hnoted⟩

/-- A commented list that is complete, and a here-document that the end of the call site cuts
off. -/
theorem Content.settings_sound_zones :
    let t : Text := ("module \"m\" \x7b\n  # zones = [\n  #   var.a,\n\n  # ]\n" ++
      "  script = <<EOT\n\x7d\n").toList
    ∃ site ∈ (ofText t).callSites.values,
      (∃ s, site.settings.get? "zones".toList = some s ∧ s.WellFormed "zones".toList ∧
        s.counted = ["[", "   var.a,", "", " ]"].map String.toList ∧
        (s.Complete ∨ CutsOff (t.lines.map Text.trimEnd) site "zones".toList s)) ∧
      ∃ s, site.settings.get? "script".toList = some s ∧ s.WellFormed "script".toList ∧
        s.lines = ["<<EOT".toList] ∧
        (s.Complete ∨ CutsOff (t.lines.map Text.trimEnd) site "script".toList s) := by
  intro t
  obtain ⟨site, hvalues, zones, script, hzones, hcounted, hscript, hlines⟩ :
      ∃ site, (ofText t).callSites.values = [site] ∧ ∃ zones script,
        site.settings.get? "zones".toList = some zones ∧
        zones.counted = ["[", "   var.a,", "", " ]"].map String.toList ∧
        site.settings.get? "script".toList = some script ∧
        script.lines = ["<<EOT".toList] :=
    ⟨_, rfl, _, _, rfl, rfl, rfl, rfl⟩
  have hsite : site ∈ (ofText t).callSites.values := by simp [hvalues]
  obtain ⟨hsettings, -, -⟩ := settings_sound t site hsite
  obtain ⟨hwell, hwhole⟩ := hsettings _ _ hzones
  obtain ⟨hwell', hwhole'⟩ := hsettings _ _ hscript
  exact ⟨site, hsite, ⟨zones, hzones, hwell, hcounted, hwhole⟩,
    script, hscript, hwell', hlines, hwhole'⟩

end ModuleWiring

/-
Where settings come from.

Every setting goes back to one line of the text, read in its call site while no value was
open, and to the lines behind it that the value takes.  How many these are is a matter of
brackets and markers alone: a commented assignment takes whatever leaves it open, and a line
that is no comment is a part of it like any other.

* `Text.Takes` — the lines that an assignment takes behind its own;
* `Reading.Origin` — the place in some lines that a setting comes from;
* `Reading.traced_run` — every setting has one;
* `Content.commented_origin` — so a commented setting holds live lines just when its value
  takes some.
-/
import ModuleWiring.Proofs.Reading.Settings

namespace ModuleWiring

open Reading

/-- Whether an assignment takes just these lines behind its own: none if its value is complete
there, else all up to the line that completes the value, or up to the brace that ends the call
site. -/
def Text.Takes (opening : Text) (value rest : List Text) : Prop :=
  match OpenSetting.ofLine? opening with
  | none => value = []
  | some o => blockEnd ∉ value ∧
      ((∃ ls last, value = ls ++ [last] ∧ o.value.StaysOpen ((unlabelled ls).map o.code) ∧
          ¬o.value.StaysOpen ((unlabelled value).map o.code)) ∨
        o.value.StaysOpen ((unlabelled value).map o.code) ∧ ∃ after, rest = blockEnd :: after)

theorem Text.Takes.concat {opening line : Text} {value rest : List Text}
    (h : opening.Takes value rest) : opening.Takes value (rest ++ [line]) := by
  rw [Takes] at h ⊢
  split at h
  · exact h
  · obtain ⟨hwhole, hlast | ⟨hstays, after, rfl⟩⟩ := h
    · exact ⟨hwhole, .inl hlast⟩
    · exact ⟨hwhole, .inr ⟨hstays, after ++ [line], rfl⟩⟩

namespace OpenSetting

variable {o : OpenSetting} {ls : List Text}

/-- The lines that an assignment comes to when it ends. -/
theorem lines_close_note (h : o.further = []) (ls : List Text) : (o.note ls).close.lines =
    o.first :: ((Text.collapse (o.first :: Text.unlabelled ls)).tail.rdropWhile Text.isBlank) := by
  have hfirst : (o.note ls).first = o.first := by rw [note_eq]
  rw [close, ← lines_note h, lines, List.tail_cons, List.rdropWhile, List.reverse_reverse, hfirst]

theorem isCommented_note (o : OpenSetting) (ls : List Text) :
    (o.note ls).isCommented = o.isCommented := by
  rw [note_eq]

theorem isCustom_note (o : OpenSetting) (ls : List Text) :
    (o.note ls).isCustom = o.isCustom := by
  rw [note_eq]

end OpenSetting

namespace Reading

/-- Whether lines lead into a call site of a name, where no value is open. -/
def InCallSite (name : Text) (ls : List Text) : Prop :=
  ∃ site m, (run ({}, []) ls).1.region = .callSite site m none ∧ site.name = name

/-- The place in some lines that a setting of a call site comes from: the line that makes the
assignment, and the lines that its value takes. -/
def Origin (ls : List Text) (site name : Text) (s : Setting) : Prop :=
  ∃ before opening value rest first, ls = before ++ opening :: (value ++ rest) ∧
    InCallSite site before ∧
    Entry.ofLine? opening = some (.setting name first s.isCommented s.isCustom) ∧
    opening.Takes value rest ∧
    s.lines = first :: ((Text.collapse (first :: Text.unlabelled value)).tail.rdropWhile
      Text.isBlank)

/-- The place in some lines that an open assignment comes from, with all lines since. -/
def OpenOrigin (ls : List Text) (site : Text) (current : OpenSetting) : Prop :=
  ∃ before opening value o v, ls = before ++ opening :: value ∧ InCallSite site before ∧
    OpenSetting.ofLine? opening = some o ∧ blockEnd ∉ value ∧
    o.value.goesOn ((Text.unlabelled value).map o.code) = some v ∧
    current = (o.note value).awaiting v

variable {ls : List Text} {site name line : Text} {s : Setting} {o : OpenSetting} {v : OpenValue}

theorem Origin.concat (h : Origin ls site name s) (line : Text) :
    Origin (ls ++ [line]) site name s := by
  obtain ⟨before, opening, value, rest, first, rfl, hin, hr, htakes, hlines⟩ := h
  exact ⟨before, opening, value, rest ++ [line], first, by simp, hin, hr, htakes.concat, hlines⟩

/-- An assignment on one line. -/
theorem origin_of_line {key value : Text} {isCommented isCustom : Bool}
    (hin : InCallSite site ls)
    (hr : Entry.ofLine? line = some (.setting key value isCommented isCustom))
    (hv : OpenValue.ofFirstLine? value = none) : Origin (ls ++ [line]) site key
      { isCommented := isCommented, isCustom := isCustom, lines := [value] } := by
  have hopens : OpenSetting.ofLine? line = none := by
    rw [OpenSetting.ofLine?, hr]
    simp [hv]
  refine ⟨ls, line, [], [], value, rfl, hin, hr, ?_, by simp [Text.collapse, Text.unlabelled]⟩
  rw [Text.Takes, hopens]

theorem openOrigin_of_line {key value : Text} {isCommented isCustom : Bool}
    (hin : InCallSite site ls)
    (hr : Entry.ofLine? line = some (.setting key value isCommented isCustom))
    (hv : OpenValue.ofFirstLine? value = some v) : OpenOrigin (ls ++ [line]) site
      { name := key, isCommented := isCommented, isCustom := isCustom, first := value,
        value := v } := by
  have hopens : OpenSetting.ofLine? line = some
      { name := key, isCommented := isCommented, isCustom := isCustom, first := value,
        value := v } := by
    rw [OpenSetting.ofLine?, hr]
    simp [hv]
  exact ⟨ls, line, [], _, v, rfl, hin, hopens, by simp, rfl, rfl⟩

theorem OpenOrigin.label (h : OpenOrigin ls site o) (hl : isLabelLine line = true) :
    OpenOrigin (ls ++ [line]) site o := by
  obtain ⟨before, opening, value, o, v, rfl, hin, hopens, hwhole, hv, rfl⟩ := h
  have he : line ≠ blockEnd := by
    rintro rfl
    exact absurd hl (by rw [isLabelLine_blockEnd]; exact Bool.false_ne_true)
  have hsame : Text.unlabelled (value ++ [line]) = Text.unlabelled value :=
    Text.unlabelled_concat_label hl
  refine ⟨before, opening, value ++ [line], o, v, by simp, hin, hopens,
    by simp [hwhole, Ne.symm he], hsame ▸ hv, ?_⟩
  rw [OpenSetting.note, OpenSetting.note, hsame]

theorem OpenOrigin.further (h : OpenOrigin ls site o) (hl : isLabelLine line = false)
    (he : line ≠ blockEnd) (hv : o.value.afterLine? (o.code line) = some v) :
    OpenOrigin (ls ++ [line]) site { o.push line with value := v } := by
  obtain ⟨before, opening, value, o, v', rfl, hin, hopens, hwhole, hv', rfl⟩ := h
  rw [OpenSetting.value_awaiting, OpenSetting.code_awaiting, OpenSetting.code_note] at hv
  refine ⟨before, opening, value ++ [line], o, v, by simp, hin, hopens,
    by simp [hwhole, Ne.symm he], ?_, ?_⟩
  · rw [Text.unlabelled_concat hl, List.map_append, OpenValue.goesOn, List.foldlM_append,
      ← OpenValue.goesOn, hv']
    simp [hv]
  · rw [OpenSetting.push_awaiting, OpenSetting.note_concat hl]
    rfl

/-- What an assignment with these lines comes to. -/
theorem origin_close {before value rest : List Text} {opening : Text}
    (hin : InCallSite site before) (hopens : OpenSetting.ofLine? opening = some o)
    (htakes : opening.Takes value rest) :
    Origin (before ++ opening :: (value ++ rest)) site o.name (o.note value).close := by
  obtain ⟨key, first, isCommented, isCustom, v, hr, -, -, rfl⟩ := OpenSetting.of_ofLine? hopens
  refine ⟨before, opening, value, rest, first, rfl, hin, ?_, htakes,
    OpenSetting.lines_close_note rfl value⟩
  rw [hr, OpenSetting.close, OpenSetting.isCommented_note, OpenSetting.isCustom_note]

theorem OpenOrigin.last (h : OpenOrigin ls site o) (hl : isLabelLine line = false)
    (he : line ≠ blockEnd) (hv : o.value.afterLine? (o.code line) = none) :
    Origin (ls ++ [line]) site o.name (o.push line).close := by
  obtain ⟨before, opening, value, o, v, rfl, hin, hopens, hwhole, hv', rfl⟩ := h
  rw [OpenSetting.value_awaiting, OpenSetting.code_awaiting, OpenSetting.code_note] at hv
  have hwaits := OpenSetting.waits_of_ofLine? hopens
  have htakes : opening.Takes (value ++ [line]) [] := by
    rw [Text.Takes, hopens]
    refine ⟨by simp [hwhole, Ne.symm he], .inl ⟨value, line, rfl, ?_, ?_⟩⟩
    · rw [← OpenValue.isSome_goesOn hwaits, hv']
      rfl
    · rw [← OpenValue.isSome_goesOn hwaits, Text.unlabelled_concat hl, List.map_append,
        OpenValue.goesOn, List.foldlM_append, ← OpenValue.goesOn, hv']
      simp [hv]
  have horigin := origin_close hin hopens htakes
  rw [OpenSetting.push_awaiting, OpenSetting.close_awaiting, ← OpenSetting.note_concat hl,
    OpenSetting.name_awaiting, OpenSetting.name_note]
  simpa using horigin

theorem OpenOrigin.cut (h : OpenOrigin ls site o) :
    Origin (ls ++ [blockEnd]) site o.name o.close := by
  obtain ⟨before, opening, value, o, v, rfl, hin, hopens, hwhole, hv, rfl⟩ := h
  have htakes : opening.Takes value [blockEnd] := by
    rw [Text.Takes, hopens]
    refine ⟨hwhole, .inr ⟨?_, [], rfl⟩⟩
    rw [← OpenValue.isSome_goesOn (OpenSetting.waits_of_ofLine? hopens), hv]
    rfl
  have horigin := origin_close hin hopens htakes
  rw [OpenSetting.close_awaiting, OpenSetting.name_awaiting, OpenSetting.name_note]
  simpa using horigin

/-! ### Every setting has an origin -/

/-- Whether all settings of a call site come from some lines. -/
def SiteTraced (ls : List Text) (site : CallSite) : Prop :=
  ∀ e ∈ site.settings.entries, Origin ls site.name e.1 e.2

/-- Whether what is recorded where a reading stands comes from some lines. -/
def RegionTraced (ls : List Text) : Region → Prop
  | .callSite site _ cur => SiteTraced ls site ∧ ∀ o ∈ cur, OpenOrigin ls site.name o
  | _ => True

theorem SiteTraced.concat {site : CallSite} (h : SiteTraced ls site) (line : Text) :
    SiteTraced (ls ++ [line]) site :=
  fun e he => (h e he).concat line

theorem SiteTraced.set {site : CallSite} (h : SiteTraced ls site)
    (hs : Origin ls site.name name s) : SiteTraced ls (site.set name s) := by
  intro e he
  rcases mem_entries_set he with rfl | he
  · exact hs
  · exact h e he

theorem traced_step {s s' : Reading × List Line} (hrun : s = run ({}, []) ls)
    (hhere : RegionTraced ls s.1.region) (hended : ∀ site ∈ s.1.callSites, SiteTraced ls site)
    (h : Step s line s') : RegionTraced (ls ++ [line]) s'.1.region ∧
      ∀ site ∈ s'.1.callSites, SiteTraced (ls ++ [line]) site := by
  have hended' : ∀ site ∈ s.1.callSites, SiteTraced (ls ++ [line]) site :=
    fun site hsite => (hended site hsite).concat line
  have closed : ∀ {site : Text}, ∀ o ∈ (none : Option OpenSetting),
      OpenOrigin (ls ++ [line]) site o := by simp
  -- a line of a call site is read where no value is open
  have here : ∀ {site : CallSite} {m : Nat}, s.1.region = .callSite site m none →
      InCallSite site.name ls := fun hregion => ⟨_, _, hrun ▸ hregion, rfl⟩
  cases h with
  | @label g _ _ _ _ _ _ hl =>
    refine ⟨?_, hended'⟩
    cases g with
    | outside => trivial
    | declaration => trivial
    | callSite site m cur =>
      exact ⟨hhere.1.concat line, fun o ho => (hhere.2 o ho).label hl⟩
  | callSiteHeading => exact ⟨⟨fun e he => absurd he List.not_mem_nil, closed⟩, hended'⟩
  | @callSiteEnd site m cur =>
    refine ⟨trivial, fun site' hsite => ?_⟩
    rcases List.mem_cons.mp hsite with rfl | hsite
    · cases cur with
      | none => exact hhere.1.concat blockEnd
      | some o => exact (hhere.1.concat blockEnd).set (hhere.2 o rfl).cut
    · exact hended' site' hsite
  | valueGoesOn hl he hv =>
    refine ⟨⟨hhere.1.concat line, fun o' ho' => ?_⟩, hended'⟩
    obtain rfl := Option.some.inj ho'
    exact (hhere.2 _ rfl).further hl he hv
  | @valueEnd site m o _ _ _ _ _ _ hl he hv =>
    have hnoted : SiteTraced (ls ++ [line])
        (site.refer (some o.name) (Text.liveReferences line)) := hhere.1.concat line
    refine ⟨⟨?_, closed⟩, hended'⟩
    rw [CallSite.close, name_push]
    exact hnoted.set ((hhere.2 o rfl).last hl he hv)
  | @setting site _ _ _ _ _ _ _ key value isCommented isCustom hl he hr hn hv =>
    have hnoted : SiteTraced (ls ++ [line]) (site.refer (some key)
        (firstReferences isCommented isCustom value)) := hhere.1.concat line
    have hin : InCallSite site.name ls := here rfl
    exact ⟨⟨hnoted.set (origin_of_line hin hr hv), closed⟩, hended'⟩
  | @openSetting site _ _ _ _ _ _ _ _ _ _ _ _ hl he hr hn hv =>
    have hin : InCallSite site.name ls := here rfl
    refine ⟨⟨hhere.1.concat line, fun o' ho' => ?_⟩, hended'⟩
    obtain rfl := Option.some.inj ho'
    exact openOrigin_of_line hin hr hv
  | reserved | callSiteLine | passThrough =>
    exact ⟨⟨hhere.1.concat line, closed⟩, hended'⟩
  | _ => exact ⟨trivial, hended'⟩

theorem traced_run (hls : ∀ line ∈ ls, IsLine line) :
    ∀ site ∈ (run ({}, []) ls).1.callSites, SiteTraced ls site := by
  have htraced := prefix_induction
    (P := fun ls s => s = run ({}, []) ls ∧ RegionTraced ls s.1.region ∧
      ∀ site ∈ s.1.callSites, SiteTraced ls site)
    ⟨rfl, trivial, by simp⟩
    (fun ls s line s' ⟨hrun, hhere, hended⟩ hline h => by
      refine ⟨?_, traced_step hrun hhere hended h⟩
      rw [run_append, ← hrun, run_singleton, h.eq]) hls
  exact htraced.2.2

end Reading

/-! ### Lines that are no comments -/

namespace Text

/-- Whether lines set nothing: all of them are comments or blank. -/
def AllComments (ls : List Text) : Prop :=
  ∀ line ∈ ls, isBlank line = true ∨ isCommentLine line = true

instance (ls : List Text) : Decidable (AllComments ls) :=
  inferInstanceAs (Decidable (∀ line ∈ ls, isBlank line = true ∨ isCommentLine line = true))

theorem allComments_iff (ls : List Text) : AllComments ls ↔
    ∀ line ∈ ls.filter (fun line => !isBlank line), isCommentLine line = true := by
  simp [AllComments, List.mem_filter, or_iff_not_imp_left]

theorem filter_dropWhile_isBlank (ls : List Text) :
    (ls.dropWhile isBlank).filter (fun line => !isBlank line) =
      ls.filter fun line => !isBlank line := by
  induction ls with
  | nil => rfl
  | cons line ls ih =>
    cases hb : isBlank line with
    | true => simpa [hb] using ih
    | false => simp [hb]

/-- Taking out repeated blank lines leaves the first line and all that are not blank. -/
theorem exists_collapse (first : Text) (ls : List Text) : ∃ further,
    collapse (first :: ls) = first :: further ∧
      further.filter (fun line => !isBlank line) = ls.filter fun line => !isBlank line := by
  induction ls using List.reverseRecOn with
  | nil => exact ⟨[], by simp [collapse], rfl⟩
  | append_singleton ls line ih =>
    obtain ⟨further, hcollapse, hfilter⟩ := ih
    rw [← List.cons_append, collapse_concat (by simp), hcollapse]
    split
    · next hrepeats =>
      rw [Bool.and_eq_true] at hrepeats
      exact ⟨further, rfl, by simp [hfilter, hrepeats.1]⟩
    · exact ⟨further ++ [line], rfl, by simp [hfilter]⟩

end Text

/-- The further lines of a setting that are not blank are those of its value. -/
theorem Setting.filter_further {s : Setting} {first : Text} {value : List Text}
    (h : s.lines = first ::
      ((Text.collapse (first :: Text.unlabelled value)).tail.rdropWhile Text.isBlank)) :
    s.lines.tail.filter (fun line => !Text.isBlank line) =
      (Text.unlabelled value).filter fun line => !Text.isBlank line := by
  obtain ⟨further, hcollapse, hfilter⟩ := Text.exists_collapse first (Text.unlabelled value)
  rw [h, hcollapse, List.tail_cons, List.tail_cons, List.rdropWhile, List.filter_reverse,
    Text.filter_dropWhile_isBlank, ← List.filter_reverse, List.reverse_reverse, hfilter]

/-- **Where commented settings come from.**  A commented setting goes back to a line that makes
the assignment, read in the call site while no value was open, and it holds the lines that the
value takes there, be they comments or not: all of its further lines are comments or blank just
when all lines of the value are. -/
theorem Content.commented_origin (t : Text) : ∀ site ∈ (ofText t).callSites.values,
    ∀ name s, site.settings.get? name = some s → s.isCommented = true →
      ∃ before opening value rest first,
        t.lines.map Text.trimEnd = before ++ opening :: (value ++ rest) ∧
        InCallSite site.name before ∧
        Entry.ofLine? opening = some (.setting name first true s.isCustom) ∧
        opening.Takes value rest ∧
        s.lines = first :: ((Text.collapse (first :: Text.unlabelled value)).tail.rdropWhile
          Text.isBlank) ∧
        (Text.AllComments s.lines.tail ↔ Text.AllComments (Text.unlabelled value)) := by
  intro site hsite name s hs hcommented
  obtain ⟨⟨key, site'⟩, he, rfl⟩ := List.mem_map.mp hsite
  have hended := (mem_callSites_ofText he).2
  rw [ofText_eq_run] at hended
  obtain ⟨before, opening, value, rest, first, ht, hin, hr, htakes, hlines⟩ :=
    traced_run (fun line hl => isLine_of_mem_lines (t := t) hl) _ hended _
      (OrderedMap.get?_eq_some_iff.mp hs)
  refine ⟨before, opening, value, rest, first, ht, hin, hcommented ▸ hr, htakes, hlines, ?_⟩
  rw [Text.allComments_iff, Text.allComments_iff, Setting.filter_further hlines]

/-- A list that is commented out line by line, and a remark that is read as an assignment: its
bracket leaves a value open that takes the assignment behind it. -/
theorem Content.commented_origin_remark :
    let t : Text := ("module \"m\" \x7b\n  # zones = [\n  #   1,\n  # ]\n" ++
      "  # note = see (\n  size = 1\n\x7d\n").toList
    ∃ site ∈ (ofText t).callSites.values,
      (∃ s, site.settings.get? "zones".toList = some s ∧ s.isCommented = true ∧
        ∃ (opening : Text) (value rest : List Text), opening.Takes value rest ∧
          (Text.AllComments s.lines.tail ↔ Text.AllComments (Text.unlabelled value))) ∧
      ∃ s, site.settings.get? "note".toList = some s ∧ s.isCommented = true ∧
        s.lines = ["see (".toList, "  size = 1".toList] ∧
        ∃ (opening : Text) (value rest : List Text), opening.Takes value rest ∧
          ¬Text.AllComments (Text.unlabelled value) := by
  intro t
  obtain ⟨site, hvalues, zones, note, hzones, hcommented, hnote, hcommented', hlines⟩ :
      ∃ site, (ofText t).callSites.values = [site] ∧ ∃ zones note,
        site.settings.get? "zones".toList = some zones ∧ zones.isCommented = true ∧
        site.settings.get? "note".toList = some note ∧ note.isCommented = true ∧
        note.lines = ["see (".toList, "  size = 1".toList] :=
    ⟨_, rfl, _, _, rfl, rfl, rfl, rfl, rfl⟩
  have hsite : site ∈ (ofText t).callSites.values := by simp [hvalues]
  obtain ⟨-, opening, value, rest, -, -, -, -, htakes, -, hiff⟩ :=
    commented_origin t site hsite _ _ hzones hcommented
  obtain ⟨-, opening', value', rest', -, -, -, -, htakes', -, hiff'⟩ :=
    commented_origin t site hsite _ _ hnote hcommented'
  refine ⟨site, hsite, ⟨zones, hzones, hcommented, opening, value, rest, htakes, hiff⟩,
    note, hnote, hcommented', hlines, opening', value', rest', htakes', ?_⟩
  rw [← hiff', hlines]
  decide

/-- The bracket of a remark leaves the value open.  The assignment behind it becomes a part of
the remark, and the call site does not have it any more. -/
theorem Content.remark_absorbs :
    let t : Text := "module \"m\" \x7b\n  # note = see (\n  size = 1\n\x7d\n".toList
    let line : Text := "  size = 1".toList
    Entry.ofLine? line = some (.setting "size".toList "1".toList false true) ∧
      ∃ site ∈ (ofText t).callSites.values, ∃ s ∈ site.settings.values,
        s.isCommented = true ∧ line ∈ s.lines.tail ∧ ¬Text.AllComments s.lines.tail ∧
        site.settings.get? "size".toList = none := by
  decide

end ModuleWiring

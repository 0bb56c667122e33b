/-
An open value owns its lines.

The first line of a value may leave brackets open or begin a here-document.  The lines
that follow then belong to the value, up to the one that completes it, whatever they look
like: attributes, headings and comments are recorded as they are.  Two lines are not.  A
brace that stands alone ends the call site and the value with it, and a label is dropped.

* `OpenValue.StaysOpen` — a value is still open behind some lines, said by the brackets
  and the marker alone;
* `Text.collapse` — lines without the blank ones that repeat;
* `isSome_goesOn` — reading line by line finds a value open for just as long;
* `value_run` — while a value is open its lines are noted and the variables that they refer
  to, and nothing else happens;
* `owns_lines` — so what is recorded of a value is all of its lines.
-/
import Mathlib.Algebra.Ring.Int.Defs
import Mathlib.Data.List.Destutter
import Mathlib.Data.List.Infix
import ModuleWiring.Proofs.Reading.Given

namespace ModuleWiring

open Reading

namespace Text

/-- Lines without those that are labels. -/
def unlabelled (ls : List Text) : List Text :=
  ls.filter fun line => !isLabelLine line

theorem unlabelled_label {line : Text} {ls : List Text} (hl : isLabelLine line = true) :
    unlabelled (line :: ls) = unlabelled ls :=
  List.filter_cons_of_neg (by simp [hl])

theorem unlabelled_cons {line : Text} {ls : List Text} (hl : isLabelLine line = false) :
    unlabelled (line :: ls) = line :: unlabelled ls :=
  List.filter_cons_of_pos (by simp [hl])

theorem unlabelled_concat {line : Text} {ls : List Text} (hl : isLabelLine line = false) :
    unlabelled (ls ++ [line]) = unlabelled ls ++ [line] := by
  rw [unlabelled, List.filter_append, ← unlabelled, ← unlabelled, unlabelled_cons hl]
  rfl

theorem unlabelled_concat_label {line : Text} {ls : List Text} (hl : isLabelLine line = true) :
    unlabelled (ls ++ [line]) = unlabelled ls := by
  rw [unlabelled, List.filter_append, ← unlabelled, ← unlabelled, unlabelled_label hl]
  exact List.append_nil _

/-- Lines without the blank ones that repeat a blank one. -/
def collapse (ls : List Text) : List Text :=
  ls.destutter fun l m => ¬(isBlank l = true ∧ isBlank m = true)

end Text

namespace OpenValue

/-- Whether a value is still open behind lines: they do not close its brackets anywhere, or
none of them is its marker. -/
def StaysOpen : OpenValue → List Text → Prop
  | .brackets depth, ls => ∀ p ∈ ls.inits, 0 < depth + (p.map nestingDelta).sum
  | .heredoc marker, ls => ∀ line ∈ ls, Text.trim line ≠ marker

instance : (v : OpenValue) → (ls : List Text) → Decidable (v.StaysOpen ls)
  | .brackets depth, ls =>
    inferInstanceAs (Decidable (∀ p ∈ ls.inits, 0 < depth + (p.map nestingDelta).sum))
  | .heredoc marker, ls => inferInstanceAs (Decidable (∀ line ∈ ls, Text.trim line ≠ marker))

/-- What a value waits for behind lines that leave it open. -/
def goesOn (v : OpenValue) (ls : List Text) : Option OpenValue :=
  ls.foldlM (fun v line => v.afterLine? line) v

variable {v v' : OpenValue} {line : Text} {ls : List Text}

theorem staysOpen_cons (hv : v.Waits) :
    v.StaysOpen (line :: ls) ↔ ∃ v', v.afterLine? line = some v' ∧ v'.StaysOpen ls := by
  cases v with
  | brackets depth =>
    have hpos : 0 < depth := hv
    have hsum : ∀ p : List Text, depth + ((line :: p).map nestingDelta).sum =
        depth + nestingDelta line + (p.map nestingDelta).sum := by
      intro p
      rw [List.map_cons, List.sum_cons, Int.add_assoc]
    have hfirst : depth + nestingDelta line = depth + ([line].map nestingDelta).sum := by simp
    constructor
    · intro h
      have hline : 0 < depth + nestingDelta line := by
        rw [hfirst]
        exact h [line] (by simp)
      refine ⟨.brackets (depth + nestingDelta line), if_pos hline, fun p hp => ?_⟩
      rw [← hsum]
      exact h (line :: p) (by simpa using hp)
    · rintro ⟨v', hv', h⟩ p hp
      simp only [afterLine?, Option.ite_none_right_eq_some, Option.some.injEq] at hv'
      obtain ⟨-, rfl⟩ := hv'
      rcases List.prefix_cons_iff.mp ((List.mem_inits _ _).mp hp) with rfl | ⟨q, rfl, hq⟩
      · simpa using hpos
      · rw [hsum]
        exact h q ((List.mem_inits _ _).mpr hq)
  | heredoc marker =>
    simp only [StaysOpen, afterLine?, List.forall_mem_cons, Option.ite_none_left_eq_some,
      Option.some.injEq]
    constructor
    · rintro ⟨hline, h⟩
      exact ⟨_, ⟨hline, rfl⟩, h⟩
    · rintro ⟨v', ⟨hline, rfl⟩, h⟩
      exact ⟨hline, h⟩

theorem staysOpen_nil (hv : v.Waits) : v.StaysOpen [] := by
  cases v with
  | brackets depth =>
    have hpos : 0 < depth := hv
    simpa [StaysOpen] using hpos
  | heredoc marker => simp [StaysOpen]

/-- Reading line by line finds a value open for just as long as it is. -/
theorem isSome_goesOn (hv : v.Waits) : (v.goesOn ls).isSome ↔ v.StaysOpen ls := by
  induction ls generalizing v with
  | nil => simpa [goesOn] using staysOpen_nil hv
  | cons line ls ih =>
    rw [staysOpen_cons hv, goesOn, List.foldlM_cons]
    rcases hafter : v.afterLine? line with _ | v'
    · simp
    · simpa [goesOn] using ih (waits_afterLine? hv hafter)

theorem waits_goesOn (hv : v.Waits) (h : v.goesOn ls = some v') : v'.Waits := by
  induction ls generalizing v with
  | nil => exact Option.some.inj h ▸ hv
  | cons line ls ih =>
    rw [goesOn, List.foldlM_cons] at h
    obtain ⟨v'', hafter, hrest⟩ := Option.bind_eq_some_iff.mp h
    exact ih (waits_afterLine? hv hafter) hrest

/-- A blank line leaves a value as open as it was. -/
theorem staysOpen_concat_nil (hv : v.Waits) (h : v.StaysOpen ls) : v.StaysOpen (ls ++ [[]]) := by
  obtain ⟨v', hv'⟩ := Option.isSome_iff_exists.mp ((isSome_goesOn hv).mpr h)
  rw [← isSome_goesOn hv, goesOn, List.foldlM_append, ← goesOn, hv']
  simp [afterLine?_nil (waits_goesOn hv hv')]

/-- The line that completes a value is the first one behind which it is not open. -/
theorem afterLine?_of_not_staysOpen (hv : v.Waits) (h : v.goesOn ls = some v')
    (hlast : ¬v.StaysOpen (ls ++ [line])) : v'.afterLine? line = none := by
  rw [← isSome_goesOn hv, goesOn, List.foldlM_append] at hlast
  rw [goesOn] at h
  simpa [h] using hlast

end OpenValue

namespace OpenSetting

variable {o : OpenSetting} {line : Text} {ls : List Text}

/-- The assignment that a line leaves open. -/
def ofLine? (line : Text) : Option OpenSetting :=
  match Entry.ofLine? line with
  | some (.setting key value isCommented isCustom) =>
    (OpenValue.ofFirstLine? value).map fun v =>
      { name := key, isCommented := isCommented, isCustom := isCustom, first := value, value := v }
  | _ => none

/-- The setting of an assignment with these lines. -/
def withLines (o : OpenSetting) (lines : List Text) : Setting where
  isCommented := o.isCommented
  isCustom := o.isCustom
  lines := lines

/-- The lines that are noted of an open assignment. -/
def lines (o : OpenSetting) : List Text :=
  o.first :: o.further.reverse

theorem of_ofLine? (h : ofLine? line = some o) : ∃ key value isCommented isCustom v,
    Entry.ofLine? line = some (.setting key value isCommented isCustom) ∧
      (isCommented || isCustom) = true ∧ OpenValue.ofFirstLine? value = some v ∧
      o = { name := key, isCommented := isCommented, isCustom := isCustom, first := value,
            value := v } := by
  rw [ofLine?] at h
  split at h
  · next key value isCommented isCustom hr =>
    obtain ⟨v, hv, rfl⟩ := Option.map_eq_some_iff.mp h
    exact ⟨key, value, isCommented, isCustom, v, hr, Entry.isRecorded_of_open hr hv, hv, rfl⟩
  · exact absurd h (by simp)

theorem isBlank_first (h : ofLine? line = some o) : Text.isBlank o.first = false := by
  obtain ⟨key, value, isCommented, isCustom, v, hr, -, hv, rfl⟩ := of_ofLine? h
  obtain ⟨-, htrim, -⟩ := Entry.of_setting hr
  rw [← Bool.not_eq_true]
  intro hblank
  obtain rfl := Text.eq_nil_of_isBlank hblank (Text.trimEnd_eq_self_of_trim htrim)
  have hnone : OpenValue.ofFirstLine? [] = none := rfl
  rw [hnone] at hv
  exact absurd hv (by simp)

theorem isLabelLine_of_ofLine? (h : ofLine? line = some o) : isLabelLine line = false := by
  obtain ⟨key, value, isCommented, isCustom, v, hr, -⟩ := of_ofLine? h
  exact Entry.isLabelLine_of_ofLine? hr

theorem waits_of_ofLine? (h : ofLine? line = some o) : o.value.Waits := by
  obtain ⟨key, value, isCommented, isCustom, v, -, -, hv, rfl⟩ := of_ofLine? h
  exact OpenValue.waits_ofFirstLine? hv

/-! ### What is noted of a value -/

/-- A line of a value is noted behind the others, unless it repeats a blank one. -/
theorem lines_push (o : OpenSetting) (line : Text) : (o.push line).lines =
    if Text.isBlank line && o.lines.getLast?.any Text.isBlank then o.lines
    else o.lines ++ [line] := by
  have hlast : (o.further ++ [o.first]).head? = o.lines.getLast? := by
    rw [lines, ← List.reverse_reverse (o.first :: o.further.reverse), List.getLast?_reverse]
    simp
  rw [push, hlast]
  split
  · rfl
  · simp [lines]

theorem push_eq (o : OpenSetting) (line : Text) :
    o.push line = { o with further := (o.push line).further } := by
  rw [push]
  split <;> rfl

end OpenSetting

theorem Text.collapse_concat {ls : List Text} {line : Text} (h : ls ≠ []) :
    collapse (ls ++ [line]) =
      if isBlank line && (collapse ls).getLast?.any isBlank then collapse ls
      else collapse ls ++ [line] := by
  obtain ⟨first, ls, rfl⟩ := List.exists_cons_of_ne_nil h
  rw [collapse, collapse, List.cons_append, List.destutter_cons', List.destutter_cons']
  induction ls generalizing first with
  | nil => cases hfirst : isBlank first <;> cases hline : isBlank line <;> simp [hfirst, hline]
  | cons l ls ih =>
    by_cases hrepeats : isBlank first = true ∧ isBlank l = true
    · have hnot : ¬¬(isBlank first = true ∧ isBlank l = true) := not_not.mpr hrepeats
      rw [List.cons_append, List.destutter'_cons_neg (h := hnot),
        List.destutter'_cons_neg (h := hnot)]
      exact ih first (by simp)
    · rw [List.cons_append, List.destutter'_cons_pos (h := hrepeats),
        List.destutter'_cons_pos (h := hrepeats), ih l (by simp)]
      -- the line in front is not the last one
      obtain ⟨m, ms, hms⟩ := List.exists_cons_of_ne_nil (List.destutter'_ne_nil ls
        (fun l m : Text => ¬(isBlank l = true ∧ isBlank m = true)) (a := l))
      rw [hms, List.getLast?_cons_cons]
      split <;> rfl

namespace OpenSetting

variable {o : OpenSetting} {v : OpenValue} {ls : List Text}

/-- Note the lines of a value that are no labels. -/
def note (o : OpenSetting) (ls : List Text) : OpenSetting :=
  (Text.unlabelled ls).foldl push o

/-- An assignment as it stands, with a value that waits for something else. -/
def awaiting (o : OpenSetting) (v : OpenValue) : OpenSetting :=
  { o with value := v }

@[simp] theorem name_awaiting (o : OpenSetting) (v : OpenValue) :
    (o.awaiting v).name = o.name := rfl

@[simp] theorem value_awaiting (o : OpenSetting) (v : OpenValue) : (o.awaiting v).value = v := rfl

@[simp] theorem code_awaiting (o : OpenSetting) (v : OpenValue) :
    (o.awaiting v).code = o.code := rfl

@[simp] theorem close_awaiting (o : OpenSetting) (v : OpenValue) :
    (o.awaiting v).close = o.close := rfl

theorem push_awaiting (o : OpenSetting) (v : OpenValue) (line : Text) :
    (o.awaiting v).push line = (o.push line).awaiting v := by
  rw [push, push, apply_ite (awaiting · v)]
  rfl

theorem note_awaiting (o : OpenSetting) (v : OpenValue) (ls : List Text) :
    (o.awaiting v).note ls = (o.note ls).awaiting v := by
  rw [note, note]
  induction Text.unlabelled ls generalizing o with
  | nil => rfl
  | cons line ms ih => rw [List.foldl_cons, List.foldl_cons, push_awaiting, ih]

theorem note_label {line : Text} (hl : isLabelLine line = true) :
    o.note (line :: ls) = o.note ls := by
  rw [note, Text.unlabelled_label hl, note]

theorem note_cons {line : Text} (hl : isLabelLine line = false) :
    o.note (line :: ls) = (o.push line).note ls := by
  rw [note, Text.unlabelled_cons hl, List.foldl_cons, note]

theorem note_concat {line : Text} (hl : isLabelLine line = false) :
    o.note (ls ++ [line]) = (o.note ls).push line := by
  rw [note, Text.unlabelled_concat hl, List.foldl_append, note]
  rfl

/-- What an assignment says does not change with the lines that are noted of it. -/
theorem note_eq (o : OpenSetting) (ls : List Text) :
    o.note ls = { o with further := (o.note ls).further } := by
  rw [note]
  induction Text.unlabelled ls generalizing o with
  | nil => rfl
  | cons line ms ih => rw [List.foldl_cons, ih, push_eq]

theorem name_note (o : OpenSetting) (ls : List Text) : (o.note ls).name = o.name := by
  rw [note_eq]

theorem code_note (o : OpenSetting) (ls : List Text) : (o.note ls).code = o.code := by
  rw [note_eq]
  rfl

theorem isRecorded_note (o : OpenSetting) (ls : List Text) :
    (o.note ls).close.isRecorded = o.close.isRecorded := by
  rw [note_eq]
  rfl

/-- What is noted of a value is its lines, without labels and without blank lines that
repeat. -/
theorem lines_note (h : o.further = []) :
    (o.note ls).lines = Text.collapse (o.first :: Text.unlabelled ls) := by
  rw [note]
  induction Text.unlabelled ls using List.reverseRecOn with
  | nil => simp [lines, h, Text.collapse]
  | append_singleton ms line ih =>
    rw [List.foldl_append, List.foldl_cons, List.foldl_nil, lines_push, ih, ← List.cons_append,
      Text.collapse_concat (by simp)]

/-- The end of a value cuts off the blank lines behind it. -/
theorem close_eq (h : Text.isBlank o.first = false) :
    o.close = o.withLines (o.lines.rdropWhile Text.isBlank) := by
  rw [close, withLines, lines, List.rdropWhile, List.reverse_cons, List.reverse_reverse,
    List.dropWhile_append]
  split
  · next hnil =>
    rw [List.isEmpty_iff.mp hnil]
    simp [h]
  · simp

theorem close_note (h : o.further = []) (hfirst : Text.isBlank o.first = false)
    (ls : List Text) : (o.note ls).close =
      o.withLines ((Text.collapse (o.first :: Text.unlabelled ls)).rdropWhile Text.isBlank) := by
  rw [close_eq (by rw [note_eq]; exact hfirst), ← lines_note h, note_eq]
  rfl

end OpenSetting

/-! ### Reading a value -/

theorem isCommentLine_of_label {line : Text} (hl : isLabelLine line = true) :
    isCommentLine line = true := by
  rw [isLabelLine, List.isPrefixOf_iff_prefix] at hl
  rw [isCommentLine, Bool.or_eq_true, List.isPrefixOf_iff_prefix]
  exact .inl ((List.prefix_append ['#'] ['~']).trans hl)

theorem Text.liveReferences_comment {line : Text} (hc : isCommentLine line = true) :
    liveReferences line = [] := by
  rw [liveReferences, if_pos hc]

theorem Stands.value_run {w : Place} {site : CallSite} {o : OpenSetting} {rs : NameSet}
    {kept : List Line} {s : Reading × List Line} (h : Stands w site (some o) rs kept s)
    {ls : List Text} (he : blockEnd ∉ ls) {v : OpenValue}
    (hv : o.value.goesOn ((Text.unlabelled ls).map o.code) = some v) :
    Stands w (site.refer (some o.name) (ls.flatMap Text.liveReferences))
      (some ((o.note ls).awaiting v)) (rs.insertAll (ls.flatMap Text.liveReferences)) kept
      (run s ls) := by
  induction ls generalizing site o rs s with
  | nil =>
    obtain rfl := Option.some.inj hv
    exact h
  | cons line ls ih =>
    rw [List.mem_cons, not_or] at he
    rw [run_cons]
    by_cases hl : isLabelLine line = true
    · rw [Text.unlabelled_label hl] at hv
      rw [OpenSetting.note_label hl, List.flatMap_cons,
        Text.liveReferences_comment (isCommentLine_of_label hl), List.nil_append]
      obtain ⟨n, rfl⟩ := h
      exact ih ⟨n + 1, (Step.label hl).eq⟩ he.2 hv
    · rw [Bool.not_eq_true] at hl
      rw [Text.unlabelled_cons hl, List.map_cons, OpenValue.goesOn, List.foldlM_cons] at hv
      obtain ⟨v', hafter, hrest⟩ := Option.bind_eq_some_iff.mp hv
      have hcode : (o.push line).code = o.code := by
        rw [OpenSetting.push_eq]
        rfl
      have hstep : Stands w _ (some ((o.push line).awaiting v')) _ kept (visit.step s line) :=
        h.further hl (Ne.symm he.1) hafter
      have hrun := ih hstep he.2 (by rw [OpenSetting.code_awaiting, hcode]; exact hrest)
      rw [OpenSetting.note_awaiting, OpenSetting.name_awaiting, name_push, CallSite.refer_append,
        NameSet.insertAll_append] at hrun
      rw [OpenSetting.note_cons hl, List.flatMap_cons]
      exact hrun

/-- The variables that an assignment refers to with these lines behind its own, its own among
them. -/
def OpenSetting.referencesWith (o : OpenSetting) (value : List Text) : List Text :=
  firstReferences o.isCommented o.isCustom o.first ++ value.flatMap Text.liveReferences

namespace Text

/-- A value that the line `opening` leaves open in a call site of a text, with lines of the
value that leave it open, and what is left of the text. -/
structure ValueAt (t : Text) (w : Place) (site : CallSite) (o : OpenSetting)
    (before : List Text) (opening : Text) (value rest : List Text) : Prop where
  lines : t.lines.map trimEnd = before ++ opening :: (value ++ rest)
  stands : ∃ rs, Stands w site none rs (run ({}, []) before).2 (run ({}, []) before)
  opens : OpenSetting.ofLine? opening = some o
  whole : blockEnd ∉ value
  stays : o.value.StaysOpen ((unlabelled value).map o.code)

namespace ValueAt

variable {t : Text} {w : Place} {site : CallSite} {o : OpenSetting} {before : List Text}
  {opening : Text} {value rest : List Text}

theorem further_eq_nil (h : t.ValueAt w site o before opening value rest) : o.further = [] := by
  obtain ⟨key, value, isCommented, isCustom, v, -, -, -, rfl⟩ := OpenSetting.of_ofLine? h.opens
  rfl

theorem isRecorded (h : t.ValueAt w site o before opening value rest) :
    o.close.isRecorded = true := by
  obtain ⟨key, value, isCommented, isCustom, v, -, hn, -, rfl⟩ := OpenSetting.of_ofLine? h.opens
  exact hn

theorem waits (h : t.ValueAt w site o before opening value rest) : o.value.Waits :=
  OpenSetting.waits_of_ofLine? h.opens

theorem isLine (h : t.ValueAt w site o before opening value rest) :
    ∀ line ∈ value ++ rest, IsLine line := fun _ hl =>
  isLine_of_mem_lines (t := t) (h.lines ▸ List.mem_append_right before
    (List.mem_cons_of_mem opening hl))

theorem take {p q : List Text} (h : t.ValueAt w site o before opening (p ++ q) rest) :
    t.ValueAt w site o before opening p (q ++ rest) where
  lines := by rw [h.lines, List.append_assoc]
  stands := h.stands
  opens := h.opens
  whole hp := h.whole (List.mem_append_left q hp)
  stays := by
    have hstays := (OpenValue.isSome_goesOn h.waits).mpr h.stays
    rw [unlabelled, List.filter_append, List.map_append, OpenValue.goesOn,
      List.foldlM_append] at hstays
    rw [← OpenValue.isSome_goesOn h.waits]
    exact Option.isSome_of_isSome_bind hstays

/-- Behind the lines of the value the reading stands in it, and has noted them and the
variables that they refer to. -/
theorem stands_value (h : t.ValueAt w site o before opening value rest) :
    ∃ v, o.value.goesOn ((unlabelled value).map o.code) = some v ∧
      Stands w (site.refer (some o.name) (o.referencesWith value))
        (some ((o.note value).awaiting v))
        ((run ({}, []) before).1.references.insertAll (o.referencesWith value))
        (run ({}, []) before).2 (run ({}, []) (before ++ opening :: value)) := by
  obtain ⟨rs, hstands⟩ := h.stands
  have hrs : (run ({}, []) before).1.references = rs := by
    obtain ⟨n, hs⟩ := hstands
    rw [hs]
  obtain ⟨v, hv⟩ := Option.isSome_iff_exists.mp ((OpenValue.isSome_goesOn h.waits).mpr h.stays)
  obtain ⟨key, first, isCommented, isCustom, v', hr, hn, hv', rfl⟩ :=
    OpenSetting.of_ofLine? h.opens
  have hopened := hstands.first (OpenSetting.isLabelLine_of_ofLine? h.opens) hr hn hv'
  have hrun := hopened.value_run h.whole hv
  rw [CallSite.refer_append, NameSet.insertAll_append] at hrun
  rw [run_append, run_cons, hrs]
  exact ⟨v, hv, hrun⟩

theorem run_value (h : t.ValueAt w site o before opening value rest) :
    ∃ site' v rs, site'.name = site.name ∧ site'.settings = site.settings ∧
      o.value.goesOn ((unlabelled value).map o.code) = some v ∧
      Stands w site' (some ((o.note value).awaiting v)) rs (run ({}, []) before).2
        (run ({}, []) (before ++ opening :: value)) := by
  obtain ⟨v, hv, hstands⟩ := h.stands_value
  exact ⟨site.refer (some o.name) (o.referencesWith value), v, _, rfl, rfl, hv, hstands⟩

/-- A label leaves a value as open as it was. -/
theorem isLabelLine_last {last : Text} (h : t.ValueAt w site o before opening value rest)
    (hlast : ¬o.value.StaysOpen ((unlabelled (value ++ [last])).map o.code)) :
    isLabelLine last = false := by
  rw [← Bool.not_eq_true]
  intro hl
  rw [unlabelled_concat_label hl] at hlast
  exact hlast h.stays

/-- A blank line completes no value. -/
theorem isBlank_last {last : Text} {v : OpenValue}
    (h : t.ValueAt w site o before opening value (last :: rest))
    (hv : o.value.goesOn ((unlabelled value).map o.code) = some v)
    (hafter : v.afterLine? (o.code last) = none) : isBlank last = false := by
  rw [← Bool.not_eq_true]
  intro hblank
  obtain rfl := (h.isLine last (by simp)).eq_nil hblank
  rw [OpenSetting.code_nil, OpenValue.afterLine?_nil (OpenValue.waits_goesOn h.waits hv)] at hafter
  exact absurd hafter (by simp)

/-- The line that completes the value ends it, with all of its lines recorded. -/
theorem run_last {last : Text} (h : t.ValueAt w site o before opening value (last :: rest))
    (he : last ≠ blockEnd)
    (hlast : ¬o.value.StaysOpen ((unlabelled (value ++ [last])).map o.code)) :
    ∃ site' rs, site'.name = site.name ∧ site'.settings = site.settings.insert o.name
        (o.withLines (collapse (o.first :: unlabelled (value ++ [last])))) ∧
      Stands w site' none rs (run ({}, []) before).2
        (run ({}, []) (before ++ opening :: (value ++ [last]))) := by
  have hl := h.isLabelLine_last hlast
  obtain ⟨site', v, rs, hname, hsettings, hv, hstands⟩ := h.run_value
  have hafter : v.afterLine? (o.code last) = none := by
    rw [unlabelled_concat hl, List.map_append] at hlast
    exact OpenValue.afterLine?_of_not_staysOpen h.waits hv hlast
  have hblank := h.isBlank_last hv hafter
  -- the last line is not blank, so the end cuts nothing off
  have hclose : (((o.note value).awaiting v).push last).close =
      o.withLines (collapse (o.first :: unlabelled (value ++ [last]))) := by
    rw [OpenSetting.push_awaiting, OpenSetting.close_awaiting, ← OpenSetting.note_concat hl,
      OpenSetting.close_note h.further_eq_nil (OpenSetting.isBlank_first h.opens),
      unlabelled_concat hl, ← List.cons_append, collapse_concat (by simp), hblank,
      Bool.false_and, if_neg Bool.false_ne_true,
      List.rdropWhile_concat_neg _ _ _ (by simp [hblank])]
  have hended := hstands.last hl he
    (by rw [OpenSetting.value_awaiting, OpenSetting.code_awaiting, OpenSetting.code_note]
        exact hafter)
  rw [CallSite.close, name_push, OpenSetting.name_awaiting, OpenSetting.name_note, hclose,
    ← run_singleton, ← run_append, List.append_assoc, List.cons_append] at hended
  refine ⟨_, _, ?_, ?_, hended⟩
  · exact hname
  · rw [CallSite.set, CallSite.refer, hsettings]

/-- Behind the value the call site goes on to its end, and the value is still recorded then
unless the variable is assigned again. -/
theorem exists_ended_of_last {last : Text} {inner after : List Text}
    (h : t.ValueAt w site o before opening value (last :: (inner ++ blockEnd :: after)))
    (he : last ≠ blockEnd)
    (hlast : ¬o.value.StaysOpen ((unlabelled (value ++ [last])).map o.code))
    (hinner : blockEnd ∉ inner)
    (honce : o.name ∉ (CallSite.recorded (CallSite.given inner)).map Prod.fst) :
    ∃ ended, t.Ends ended ∧ ended.name = site.name ∧ ended.settings.get? o.name =
      some (o.withLines (collapse (o.first :: unlabelled (value ++ [last])))) := by
  obtain ⟨site', rs, hname, hsettings, hstands⟩ := h.run_last he hlast
  have hafter : ∀ line ∈ after, IsLine line := fun line hl => h.isLine line (by simp [hl])
  obtain ⟨ended, hended, hname', hsettings'⟩ := exists_ended hstands hinner (by simp) hafter
  refine ⟨ended, ends_of_mem ?_, hname'.trans hname, ?_⟩
  · rw [ofText_eq_run, h.lines]
    rw [← run_append] at hended
    simpa using hended
  · rw [hsettings', ← CallSite.given, OrderedMap.get?_insertAll_of_not_mem honce, hsettings,
      OrderedMap.get?_insert, if_pos rfl]

/-- A brace that stands alone ends the call site inside of the value. -/
theorem exists_ended_of_cut {after : List Text}
    (h : t.ValueAt w site o before opening value (blockEnd :: after)) :
    ∃ ended, t.Ends ended ∧ ended.name = site.name ∧
      ended.settings = site.settings.insert o.name
        (o.withLines ((collapse (o.first :: unlabelled value)).rdropWhile isBlank)) := by
  obtain ⟨site', v, rs, hname, hsettings, -, hstands⟩ := h.run_value
  have hrecorded : ((o.note value).awaiting v).close.isRecorded = true :=
    (o.isRecorded_note value).trans h.isRecorded
  have hafter : ∀ line ∈ after, IsLine line := fun line hl => h.isLine line (by simp [hl])
  obtain ⟨ended, hended, hname', hsettings'⟩ := exists_ended hstands List.not_mem_nil
    (fun o' ho' => Option.some.inj ho' ▸ hrecorded) hafter
  refine ⟨ended, ends_of_mem ?_, hname'.trans hname, ?_⟩
  · rw [ofText_eq_run, h.lines]
    rw [← run_append] at hended
    simpa using hended
  · rw [hsettings', CallSite.givenFrom, CallSite.recorded_cons hrecorded,
      OpenSetting.close_awaiting,
      OpenSetting.close_note h.further_eq_nil (OpenSetting.isBlank_first h.opens), hsettings,
      OpenSetting.name_awaiting, OpenSetting.name_note]
    rfl

/-- **An open value owns its lines.**  While a value is open nothing else happens: no block
ends, and no line is kept.  A line that completes the value ends it with all of its lines
recorded, labels apart, and so they are when the call site ends.  Only a brace that stands
alone ends the value together with the call site, and what is recorded then are the lines in
front of it. -/
theorem owns_lines (h : t.ValueAt w site o before opening value rest) :
    (∀ p, p <+: value → ∃ site' o' rs, site'.name = site.name ∧
      Stands w site' (some o') rs (run ({}, []) before).2
        (run ({}, []) (before ++ opening :: p))) ∧
    (∀ last rest', rest = last :: rest' → last ≠ blockEnd →
      ¬o.value.StaysOpen ((unlabelled (value ++ [last])).map o.code) →
      (∃ site' rs, site'.name = site.name ∧ site'.settings = site.settings.insert o.name
          (o.withLines (collapse (o.first :: unlabelled (value ++ [last])))) ∧
        Stands w site' none rs (run ({}, []) before).2
          (run ({}, []) (before ++ opening :: (value ++ [last])))) ∧
      ∀ inner after, rest' = inner ++ blockEnd :: after → blockEnd ∉ inner →
        o.name ∉ (CallSite.recorded (CallSite.given inner)).map Prod.fst →
        ∃ ended, t.Ends ended ∧ ended.name = site.name ∧ ended.settings.get? o.name =
          some (o.withLines (collapse (o.first :: unlabelled (value ++ [last]))))) ∧
    (∀ after, rest = blockEnd :: after →
      ∃ ended, t.Ends ended ∧ ended.name = site.name ∧
        ended.settings = site.settings.insert o.name
          (o.withLines ((collapse (o.first :: unlabelled value)).rdropWhile isBlank))) := by
  refine ⟨?_, ?_, ?_⟩
  · rintro p ⟨q, rfl⟩
    obtain ⟨site', v, rs, hname, -, -, hstands⟩ := h.take.run_value
    exact ⟨site', _, rs, hname, hstands⟩
  · rintro last rest' rfl he hlast
    refine ⟨h.run_last he hlast, ?_⟩
    rintro inner after rfl hinner honce
    exact h.exists_ended_of_last he hlast hinner honce
  · rintro after rfl
    exact h.exists_ended_of_cut

/-- A here-document that holds an attribute, a heading, a brace and a label. -/
theorem owns_lines_policy :
    let t : Text := ("module \"m\" \x7b\n  policy = <<EOT\n  a = 1\n\n\nmodule \"n\" \x7b\n" ++
      "#~ label\n  \x7d\nEOT\n\x7d\n").toList
    let o : OpenSetting := { name := "policy".toList, isCommented := false, isCustom := true
                             first := "<<EOT".toList, value := .heredoc "EOT".toList }
    t.ValueAt ⟨1, [], []⟩ { name := "m".toList } o ["module \"m\" \x7b".toList]
        "  policy = <<EOT".toList
        (["  a = 1", "", "", "module \"n\" \x7b", "#~ label", "  \x7d"].map String.toList)
        (["EOT", "\x7d"].map String.toList) ∧
      ∃ ended, t.Ends ended ∧ ended.name = "m".toList ∧
        ended.settings.get? "policy".toList = some {
          isCommented := false, isCustom := true
          lines := ["<<EOT", "  a = 1", "",
            "module \"n\" \x7b", "  \x7d", "EOT"].map String.toList } := by
  intro t o
  have h : t.ValueAt ⟨1, [], []⟩ { name := "m".toList } o ["module \"m\" \x7b".toList]
      "  policy = <<EOT".toList
      (["  a = 1", "", "", "module \"n\" \x7b", "#~ label", "  \x7d"].map String.toList)
      (["EOT", "\x7d"].map String.toList) :=
    { lines := by decide, stands := ⟨.empty, 1, rfl⟩, opens := by decide, whole := by decide
      stays := by decide }
  have hended := (h.owns_lines.2.1 _ _ rfl (by decide) (by decide)).2 [] [] rfl (by decide)
    (by decide)
  exact ⟨h, hended⟩

/-- A brace that stands alone, and a label, are no lines of a value: of the one only what
stands in front of it is recorded, and the other is left out. -/
theorem lone_brace_ends_value :
    let t : Text := ("module \"a\" \x7b\n  script = <<EOT\n#~ one\nEOT\n\x7d\n" ++
      "module \"b\" \x7b\n  script = <<EOT\n\x7d\nEOT\n\x7d\n").toList
    let o : OpenSetting := { name := "script".toList, isCommented := false, isCustom := true
                             first := "<<EOT".toList, value := .heredoc "EOT".toList }
    let recorded (name : String) : Option (List Text) :=
      (((Content.ofText t).callSites.get? name.toList).bind fun site =>
        site.settings.get? "script".toList).map Setting.lines
    OpenSetting.ofLine? "  script = <<EOT".toList = some o ∧
      (o.value.StaysOpen ["#~ one".toList] ∧
        ¬o.value.StaysOpen ["#~ one".toList, "EOT".toList] ∧
        recorded "a" ≠ some (["<<EOT", "#~ one", "EOT"].map String.toList)) ∧
      (o.value.StaysOpen [blockEnd] ∧ ¬o.value.StaysOpen [blockEnd, "EOT".toList] ∧
        recorded "b" = some ["<<EOT".toList]) := by
  decide

end ValueAt

end Text

end ModuleWiring

/-
The assignments that a call site is given.

The lines of a call site make assignments, some in force and some commented out, and some
of them to one variable several times.  A reading records those that are commented out or
have a value of their own; a variable that is passed through is not recorded.  Under one
name the last one that is recorded counts.

* `CallSite.given` — the assignments that the lines of a call site make, in order;
* `gives_step` — one line of a call site leaves the settings that it comes to the same;
* `Text.CallSiteAt` — where a call site stands in a text;
* `exists_mem` — so the settings of a call site are those it is given, the ones that are
  recorded.
-/
import ModuleWiring.Proofs.Reading.Openings
import ModuleWiring.Proofs.Setting

namespace ModuleWiring

open Reading

attribute [ext] Setting

/-- Whether a reading records a setting: it is commented out, or has a value of its own. -/
def Setting.isRecorded (s : Setting) : Bool :=
  s.isCommented || s.isCustom

/-- What is passed through is complete on its line, so what a line leaves open is recorded. -/
theorem Entry.isRecorded_of_open {line key value : Text} {isCommented isCustom : Bool}
    {v : OpenValue} (hr : Entry.ofLine? line = some (.setting key value isCommented isCustom))
    (hv : OpenValue.ofFirstLine? value = some v) : (isCommented || isCustom) = true := by
  obtain ⟨hid, -, hcustom, -⟩ := Entry.of_setting hr
  rw [Bool.or_eq_true, or_iff_not_imp_right, Bool.not_eq_true]
  intro hfalse
  rw [hfalse] at hcustom
  rw [bne_eq_false_iff_eq.mp hcustom.symm, ofFirstLine?_passThrough hid] at hv
  exact absurd hv (by simp)

namespace CallSite

/-- The assignments that lines of a call site make, in order; `cur` is the one that is open
where the lines begin. -/
def givenFrom : (cur : Option OpenSetting) → List Text → List (Text × Setting)
  | none, [] => []
  | some o, [] => [(o.name, o.close)]
  | none, line :: ls =>
    if isLabelLine line then givenFrom none ls
    else match Entry.ofLine? line with
      | some (.setting key value isCommented isCustom) =>
        match OpenValue.ofFirstLine? value with
        | none =>
          (key, { isCommented := isCommented, isCustom := isCustom, lines := [value] }) ::
            givenFrom none ls
        | some v =>
          givenFrom (some { name := key, isCommented := isCommented, isCustom := isCustom,
                            first := value, value := v }) ls
      | _ => givenFrom none ls
  | some o, line :: ls =>
    if isLabelLine line then givenFrom (some o) ls
    else match o.value.afterLine? (o.code line) with
      | none => (o.name, (o.push line).close) :: givenFrom none ls
      | some v => givenFrom (some { o.push line with value := v }) ls

/-- The assignments that the lines of a call site make, in order. -/
def given (body : List Text) : List (Text × Setting) :=
  givenFrom none body

/-- Those of some assignments that a reading records. -/
def recorded (es : List (Text × Setting)) : List (Text × Setting) :=
  es.filter fun e => e.2.isRecorded

variable {cur : Option OpenSetting} {o : OpenSetting} {line key value : Text} {ls : List Text}
  {isCommented isCustom : Bool} {v : OpenValue}

theorem givenFrom_label (hl : isLabelLine line = true) :
    givenFrom cur (line :: ls) = givenFrom cur ls := by
  cases cur <;> rw [givenFrom, if_pos hl]

theorem givenFrom_goesOn (hl : isLabelLine line = false)
    (hv : o.value.afterLine? (o.code line) = some v) :
    givenFrom (some o) (line :: ls) = givenFrom (some { o.push line with value := v }) ls := by
  rw [givenFrom, hl, if_neg Bool.false_ne_true, hv]

theorem givenFrom_end (hl : isLabelLine line = false)
    (hv : o.value.afterLine? (o.code line) = none) :
    givenFrom (some o) (line :: ls) = (o.name, (o.push line).close) :: givenFrom none ls := by
  rw [givenFrom, hl, if_neg Bool.false_ne_true, hv]

theorem givenFrom_setting (hl : isLabelLine line = false)
    (hr : Entry.ofLine? line = some (.setting key value isCommented isCustom))
    (hv : OpenValue.ofFirstLine? value = none) :
    givenFrom none (line :: ls) =
      (key, { isCommented := isCommented, isCustom := isCustom, lines := [value] }) ::
        givenFrom none ls := by
  rw [givenFrom, hl, if_neg Bool.false_ne_true, hr]
  simp only [hv]

theorem givenFrom_openSetting (hl : isLabelLine line = false)
    (hr : Entry.ofLine? line = some (.setting key value isCommented isCustom))
    (hv : OpenValue.ofFirstLine? value = some v) :
    givenFrom none (line :: ls) = givenFrom (some {
      name := key, isCommented := isCommented, isCustom := isCustom, first := value,
      value := v }) ls := by
  rw [givenFrom, hl, if_neg Bool.false_ne_true, hr]
  simp only [hv]

theorem givenFrom_other (hl : isLabelLine line = false)
    (hr : ∀ key value isCommented isCustom,
      Entry.ofLine? line ≠ some (.setting key value isCommented isCustom)) :
    givenFrom none (line :: ls) = givenFrom none ls := by
  rw [givenFrom, hl, if_neg Bool.false_ne_true]
  split
  · next h => exact absurd h (hr _ _ _ _)
  · rfl

theorem recorded_cons {name : Text} {s : Setting} {es : List (Text × Setting)}
    (h : s.isRecorded = true) : recorded ((name, s) :: es) = (name, s) :: recorded es :=
  List.filter_cons_of_pos h

end CallSite

namespace OpenSetting

theorem isRecorded_push (o : OpenSetting) (line : Text) :
    (o.push line).close.isRecorded = o.close.isRecorded := by
  rw [push]
  split <;> rfl

end OpenSetting

namespace Reading

variable {w : Place} {site : CallSite} {cur : Option OpenSetting} {rs : NameSet}
  {kept : List Line} {s s' : Reading × List Line} {line : Text}

/-- A line of a call site does to it what the line gives: whatever follows, the settings
that the call site comes to are the same. -/
structure Gives (site : CallSite) (cur : Option OpenSetting) (line : Text) (site' : CallSite)
    (cur' : Option OpenSetting) : Prop where
  name : site'.name = site.name
  recorded : ∀ o ∈ cur', o.close.isRecorded = true
  settings : ∀ ls, site'.settings.insertAll (CallSite.recorded (CallSite.givenFrom cur' ls)) =
    site.settings.insertAll (CallSite.recorded (CallSite.givenFrom cur (line :: ls)))

theorem gives_step (h : Stands w site cur rs kept s) (he : line ≠ blockEnd)
    (hcur : ∀ o ∈ cur, o.close.isRecorded = true) (hstep : Step s line s') :
    ∃ site' cur' rs' kept', Stands w site' cur' rs' kept' s' ∧
      Gives site cur line site' cur' := by
  obtain ⟨n, rfl⟩ := h
  have closed : ∀ o ∈ (none : Option OpenSetting), o.close.isRecorded = true := by simp
  cases hstep with
  | label hl =>
    refine ⟨site, cur, rs, kept, ⟨n + 1, rfl⟩, rfl, hcur, fun ls => ?_⟩
    rw [CallSite.givenFrom_label hl]
  | callSiteEnd => exact absurd rfl he
  | @valueGoesOn _ _ o _ _ _ _ _ _ v hl _ hv =>
    refine ⟨_, _, _, _, ⟨n + 1, rfl⟩, rfl, fun o' ho' => ?_, fun ls => ?_⟩
    · obtain rfl := Option.some.inj ho'
      exact (o.isRecorded_push line).trans (hcur o rfl)
    · rw [CallSite.givenFrom_goesOn hl hv]
      rfl
  | @valueEnd _ _ o _ _ _ _ _ _ hl _ hv =>
    refine ⟨_, _, _, _, ⟨n + 1, rfl⟩, name_close _ (some _), closed, fun ls => ?_⟩
    rw [CallSite.givenFrom_end hl hv, CallSite.recorded_cons, CallSite.close, name_push]
    · rfl
    · exact (o.isRecorded_push line).trans (hcur o rfl)
  | setting hl _ hr hn hv =>
    refine ⟨_, _, _, _, ⟨n + 1, rfl⟩, rfl, closed, fun ls => ?_⟩
    rw [CallSite.givenFrom_setting hl hr hv, CallSite.recorded_cons]
    · rfl
    · exact hn
  | openSetting hl _ hr hn hv =>
    refine ⟨_, _, _, _, ⟨n + 1, rfl⟩, rfl, fun o' ho' => ?_, fun ls => ?_⟩
    · obtain rfl := Option.some.inj ho'
      exact hn
    · rw [CallSite.givenFrom_openSetting hl hr hv]
      rfl
  | passThrough hl _ hr =>
    refine ⟨_, _, _, _, ⟨n + 1, rfl⟩, rfl, closed, fun ls => ?_⟩
    -- what is passed through is given and not recorded
    obtain ⟨hid, -, hcustom, -⟩ := Entry.of_setting hr
    obtain rfl := (bne_eq_false_iff_eq.mp hcustom.symm)
    rw [CallSite.givenFrom_setting hl hr (ofFirstLine?_passThrough hid)]
    rfl
  | reserved hl _ hr | callSiteLine hl _ hr =>
    refine ⟨_, _, _, _, ⟨n + 1, rfl⟩, rfl, closed, fun ls => ?_⟩
    rw [CallSite.givenFrom_other hl (by simp [hr])]
    rfl

/-- The lines of a call site do to it what they give. -/
theorem gives_run (h : Stands w site cur rs kept s) {body : List Text} (he : blockEnd ∉ body)
    (hcur : ∀ o ∈ cur, o.close.isRecorded = true) :
    ∃ site' cur' rs' kept', Stands w site' cur' rs' kept' (run s body) ∧
      site'.name = site.name ∧ (site'.close cur').settings =
        site.settings.insertAll (CallSite.recorded (CallSite.givenFrom cur body)) := by
  induction body generalizing site cur rs kept s with
  | nil =>
    refine ⟨site, cur, rs, kept, h, rfl, ?_⟩
    -- the end of the call site records what is open
    cases cur with
    | none => rfl
    | some o =>
      rw [CallSite.givenFrom, CallSite.recorded_cons]
      · rfl
      · exact hcur o rfl
  | cons line body ih =>
    rw [List.mem_cons, not_or] at he
    obtain ⟨site', cur', rs', kept', hstands, hgives⟩ :=
      gives_step h (Ne.symm he.1) hcur (step_spec s line)
    obtain ⟨site'', cur'', rs'', kept'', hrun, hname, hsettings⟩ :=
      ih hstands he.2 hgives.recorded
    refine ⟨site'', cur'', rs'', kept'', hrun, hname.trans hgives.name, ?_⟩
    rw [hsettings, hgives.settings]

theorem suffix_callSites_run {ls : List Text} (hls : ∀ line ∈ ls, IsLine line) :
    s.1.callSites <:+ (run s ls).1.callSites :=
  run_induction (P := fun s' => s.1.callSites <:+ s'.1.callSites)
    (fun _ _ _ hs _ h => hs.trans (suffix_callSites_step h)) List.suffix_rfl hls

/-- The next brace ends the call site, with what its lines until then give. -/
theorem exists_ended (h : Stands w site cur rs kept s) {body after : List Text}
    (he : blockEnd ∉ body) (hcur : ∀ o ∈ cur, o.close.isRecorded = true)
    (hafter : ∀ line ∈ after, IsLine line) :
    ∃ site' ∈ (run s (body ++ blockEnd :: after)).1.callSites, site'.name = site.name ∧
      site'.settings =
        site.settings.insertAll (CallSite.recorded (CallSite.givenFrom cur body)) := by
  obtain ⟨site', cur', rs', kept', ⟨n', hbody⟩, hname, hsettings⟩ := gives_run h he hcur
  have hended : visit.step
      (⟨.callSite site' w.opened cur', n', w.callSites, w.declarations, rs'⟩, kept')
      blockEnd = _ := Step.callSiteEnd.eq
  refine ⟨site'.close cur', ?_, (name_close site' cur').trans hname, hsettings⟩
  rw [run_append, run_cons, hbody, hended]
  exact (suffix_callSites_run hafter).subset List.mem_cons_self

end Reading

/-! ### Call sites of a text -/

/-- A call site that ends in a text: the lines in front of its heading, which end outside of
blocks, its own lines, and the lines behind the brace that ends it. -/
structure Text.CallSiteAt (t name : Text) (before body after : List Text) : Prop where
  lines : ∃ heading, Heading.ofLine? heading = some (.callSite name) ∧
    t.lines.map Text.trimEnd = before ++ heading :: (body ++ blockEnd :: after)
  outside : (run ({}, []) before).1.region.block? = none
  whole : blockEnd ∉ body

/-- A call site whose name no other one has is listed under it. -/
theorem Content.get?_of_unique {t : Text} {site : CallSite}
    (h : site ∈ (Reading.ofText t).1.callSites)
    (hunique : ((Reading.ofText t).1.callSites.map CallSite.name).count site.name = 1) :
    (ofText t).callSites.get? site.name = some site := by
  obtain ⟨later, earlier, hsites⟩ := List.append_of_mem h
  have hlater : site.name ∉ later.map CallSite.name := by
    rw [hsites, List.map_append, List.map_cons, List.count_append, List.count_cons_self] at hunique
    exact List.count_eq_zero.mp (by omega)
  have hentries : (later ++ site :: earlier).reverse.map (fun s => (s.name, s)) =
      earlier.reverse.map (fun s => (s.name, s)) ++
        (site.name, site) :: later.reverse.map (fun s => (s.name, s)) := by
    simp
  rw [ofText_eq, Reading.content, hsites, hentries]
  exact OrderedMap.get?_ofList_eq_some_iff.mpr ⟨_, _, rfl, by simpa using hlater⟩

/-- Whether a call site has ended in a text.  The content lists it, unless another one has
its name, too. -/
structure Text.Ends (t : Text) (site : CallSite) : Prop where
  mem : site ∈ (Reading.ofText t).1.callSites
  listed : ((Reading.ofText t).1.callSites.map CallSite.name).count site.name = 1 →
    (Content.ofText t).callSites.get? site.name = some site

theorem Text.ends_of_mem {t : Text} {site : CallSite}
    (h : site ∈ (Reading.ofText t).1.callSites) : t.Ends site :=
  ⟨h, Content.get?_of_unique h⟩

namespace Text.CallSiteAt

variable {t name : Text} {before body after : List Text}

theorem isLabelLine_heading {heading : Text}
    (h : Heading.ofLine? heading = some (.callSite name)) : isLabelLine heading = false := by
  rw [← Bool.not_eq_true]
  intro hl
  have hopens := Heading.opens?_of_label hl
  rw [Heading.opens?, h] at hopens
  exact absurd hopens (by simp)

/-- The settings of a call site are those that it is given, the ones that are recorded. -/
theorem exists_mem (h : t.CallSiteAt name before body after) :
    ∃ site ∈ (Reading.ofText t).1.callSites, site.name = name ∧
      site.settings = .ofList (CallSite.recorded (CallSite.given body)) := by
  obtain ⟨⟨heading, hheading, hlines⟩, houtside, hwhole⟩ := h
  rcases hs : run ({}, []) before with ⟨⟨g, n, cs, ds, rs⟩, kept⟩
  rw [hs] at houtside
  obtain ⟨o, rfl⟩ : ∃ o, g = .outside o := by
    cases g with
    | outside o => exact ⟨o, rfl⟩
    | callSite => exact absurd houtside (by simp [Region.block?])
    | declaration => exact absurd houtside (by simp [Region.block?])
  -- the heading opens the call site, its lines are read in it, and the brace ends it
  have hopened : Stands ⟨n + 1, cs, ds⟩ { name := name } none rs (keep heading kept)
      (visit.step (⟨.outside o, n, cs, ds, rs⟩, kept) heading) :=
    ⟨n + 1, (Step.callSiteHeading (isLabelLine_heading hheading) hheading).eq⟩
  have hafter : ∀ line ∈ after, IsLine line := fun line hl =>
    isLine_of_mem_lines (t := t) (hlines ▸ by simp [hl])
  rw [ofText_eq_run, hlines, run_append, hs, run_cons]
  exact exists_ended hopened hwhole (by simp) hafter

/-- A call site whose name no other one has, as the content lists it. -/
theorem exists_get? (h : t.CallSiteAt name before body after)
    (hunique : ((Reading.ofText t).1.callSites.map CallSite.name).count name = 1) :
    ∃ site, (Content.ofText t).callSites.get? name = some site ∧ site.name = name ∧
      site.settings = .ofList (CallSite.recorded (CallSite.given body)) := by
  obtain ⟨site, hsite, rfl, hsettings⟩ := h.exists_mem
  exact ⟨site, Content.get?_of_unique hsite hunique, rfl, hsettings⟩

end Text.CallSiteAt

/-! ### The assignments of one variable -/

namespace CallSite

variable {es : List (Text × Setting)} {name : Text} {s : Setting} {cur : Option OpenSetting}
  {ls : List Text} {e : Text × Setting}

theorem not_mem_names_recorded : name ∉ (recorded es).map Prod.fst ↔
    ∀ s, (name, s) ∈ es → s.isRecorded = false := by
  simp [recorded, List.mem_filter]

theorem get?_recorded_eq_none_iff : (OrderedMap.ofList (recorded es)).get? name = none ↔
    ∀ s, (name, s) ∈ es → s.isRecorded = false := by
  rw [OrderedMap.get?_ofList_eq_none_iff, not_mem_names_recorded]

/-- What is recorded of a variable is the last of its assignments that is recorded at all. -/
theorem get?_recorded_eq_some_iff : (OrderedMap.ofList (recorded es)).get? name = some s ↔
    ∃ xs ys, es = xs ++ (name, s) :: ys ∧ s.isRecorded = true ∧
      ∀ s', (name, s') ∈ ys → s'.isRecorded = false := by
  rw [OrderedMap.get?_ofList_eq_some_iff]
  constructor
  · rintro ⟨xs, ys, hes, hys⟩
    obtain ⟨us, vs, rfl, -, hvs⟩ := List.filter_eq_append_iff.mp hes
    obtain ⟨ws, zs, rfl, -, hs, rfl⟩ := List.filter_eq_cons_iff.mp hvs
    exact ⟨us ++ ws, zs, by simp, hs, not_mem_names_recorded.mp hys⟩
  · rintro ⟨xs, ys, rfl, hs, hys⟩
    refine ⟨recorded xs, recorded ys, ?_, not_mem_names_recorded.mpr hys⟩
    rw [recorded, List.filter_append, ← recorded, ← recorded, recorded_cons hs]

/-- What is recorded of a variable is in force exactly when behind every commented assignment
of it one in force follows that has a value of its own. -/
theorem live_recorded_iff :
    (∀ s, (OrderedMap.ofList (recorded es)).get? name = some s → s.isCommented = false) ↔
      ∀ xs s ys, es = xs ++ (name, s) :: ys → s.isCommented = true →
        ∃ s', (name, s') ∈ ys ∧ s'.isCommented = false ∧ s'.isCustom = true := by
  constructor
  · rintro h xs s ys rfl hs
    have hrecorded : s.isRecorded = true := by rw [Setting.isRecorded, hs, Bool.true_or]
    -- some assignment further on is recorded, for else the commented one would be
    rcases hlast : (OrderedMap.ofList (recorded ys)).get? name with _ | s'
    · have hnone := get?_recorded_eq_none_iff.mp hlast
      have hget := h s (get?_recorded_eq_some_iff.mpr ⟨xs, ys, rfl, hrecorded, hnone⟩)
      exact absurd (hget.symm.trans hs) Bool.false_ne_true
    · obtain ⟨us, vs, rfl, hs', hvs⟩ := get?_recorded_eq_some_iff.mp hlast
      have hlive := h s' (get?_recorded_eq_some_iff.mpr
        ⟨xs ++ (name, s) :: us, vs, by simp, hs', hvs⟩)
      rw [Setting.isRecorded, hlive, Bool.false_or] at hs'
      exact ⟨s', by simp, hlive, hs'⟩
  · intro h s hget
    obtain ⟨xs, ys, hes, -, hys⟩ := get?_recorded_eq_some_iff.mp hget
    rw [← Bool.not_eq_true]
    intro hs
    obtain ⟨s', hs', -, hcustom⟩ := h xs s ys hes hs
    have hnot := hys s' hs'
    rw [Setting.isRecorded, hcustom, Bool.or_true] at hnot
    exact Bool.noConfusion hnot

/-- An assignment that is not recorded passes its variable through. -/
theorem lines_of_mem_givenFrom (hcur : ∀ o ∈ cur, o.close.isRecorded = true)
    (he : e ∈ givenFrom cur ls) (h : e.2.isRecorded = false) : e.2.lines = [passThrough e.1] := by
  have closed : ∀ o ∈ (none : Option OpenSetting), o.close.isRecorded = true := by simp
  -- what has been open is recorded
  have notRecorded : ∀ {setting : Setting}, setting.isRecorded = true → e.2 ≠ setting := by
    rintro setting hsetting rfl
    exact absurd (h.symm.trans hsetting) Bool.false_ne_true
  induction cur, ls using givenFrom.induct with
  | case1 => simp [givenFrom] at he
  | case2 o =>
    rw [givenFrom, List.mem_singleton] at he
    exact absurd (congrArg Prod.snd he) (notRecorded (hcur o rfl))
  | case3 line ls hl ih => exact ih closed (givenFrom_label hl ▸ he)
  | case4 line ls hl key value isCommented isCustom hr hv ih =>
    rw [givenFrom_setting (Bool.not_eq_true _ ▸ hl) hr hv] at he
    rcases List.mem_cons.mp he with rfl | he
    · obtain ⟨-, -, hcustom, -⟩ := Entry.of_setting hr
      have hnot : isCustom = false := (Bool.or_eq_false_iff.mp h).2
      rw [hnot] at hcustom
      rw [bne_eq_false_iff_eq.mp hcustom.symm]
    · exact ih closed he
  | case5 line ls hl key value isCommented isCustom hr v hv ih =>
    rw [givenFrom_openSetting (Bool.not_eq_true _ ▸ hl) hr hv] at he
    refine ih (fun o ho => ?_) he
    obtain rfl := Option.some.inj ho
    exact Entry.isRecorded_of_open hr hv
  | case6 line ls hl hr ih =>
    rw [givenFrom_other (Bool.not_eq_true _ ▸ hl) hr] at he
    exact ih closed he
  | case7 o line ls hl ih => exact ih hcur (givenFrom_label hl ▸ he)
  | case8 o line ls hl hv ih =>
    rw [givenFrom_end (Bool.not_eq_true _ ▸ hl) hv] at he
    rcases List.mem_cons.mp he with rfl | he
    · exact absurd rfl (notRecorded ((o.isRecorded_push line).trans (hcur o rfl)))
    · exact ih closed he
  | case9 o line ls hl v hv ih =>
    rw [givenFrom_goesOn (Bool.not_eq_true _ ▸ hl) hv] at he
    refine ih (fun o' ho' => ?_) he
    obtain rfl := Option.some.inj ho'
    exact (o.isRecorded_push line).trans (hcur o rfl)

end CallSite

end ModuleWiring

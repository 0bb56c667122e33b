/-
A main file that is written again is read like the one it comes from.

A reading of a text and the reading of what the first one keeps go through the text in
step.  Outside of call sites they agree but for the assignments, which the second one has
read as they are written anew.

* `Follows` — where one reading stands, and where the other one does;
* `InStep` — the reading of the lines kept follows;
* `inStep_step` — a line of the text keeps the two in step.
-/
import ModuleWiring.Proofs.MainFile.Replay

namespace ModuleWiring

open Reading

/-- What is known of a reading when it is in step with the one of the lines that it keeps. -/
structure Reading.Sound (r : Reading) : Prop where
  site : ∀ site ∈ r.allCallSites, site.Sound
  current : ∀ o ∈ r.current?, ∀ l ∈ o.further, IsLine l

namespace MainFile

/-- A call site with its assignments written for the variable files of its module. -/
def rewire (files : ModuleFiles) (site : CallSite) : CallSite :=
  site.rewired (files.of site.name)

/-- Where a reading stands, and where the reading of the lines that it keeps does. -/
inductive Follows (files : ModuleFiles) : Reading × List Line → Reading × List Line → Prop
  | outside {o n n' cs ds rs kept} :
    Follows files (⟨.outside o, n, cs, ds, rs⟩, kept)
      (⟨.outside o, n', cs.map (rewire files), ds, rs⟩, kept)
  | declaration {d m m' n n' cs ds rs l ls} (hm : l.closes = none) :
    Follows files (⟨.declaration d m, n, cs, ds, rs⟩, l :: ls)
      (⟨.declaration d m', n', cs.map (rewire files), ds, rs⟩, l :: ls)
  /-- A blank line at the end of a call site is not written again, for it does not last. -/
  | callSite {site bare m m' cur n n' cs ds rs rs' l ls kept} (hb : l.isBlank = false)
    (hm : l.closes = none) (hkept : kept = l :: ls ∨ kept = { text := [] } :: l :: ls)
    (hext : site.Extends rs bare rs' cur) :
    Follows files (⟨.callSite site m cur, n, cs, ds, rs⟩, kept)
      (⟨.callSite bare m' none, n', cs.map (rewire files), ds, rs'⟩, l :: ls)

/-- Whether the reading of the lines that a reading keeps follows it. -/
def InStep (files : ModuleFiles) (bh : BlockEnd → Page) (s : Reading × List Line) : Prop :=
  ∃ t, Follows files s t ∧ replayed bh t.2 = t

variable {files : ModuleFiles} {bh : BlockEnd → Page} {s s' : Reading × List Line} {line : Text}

/-- A line that is kept is read again. -/
theorem replayed_keep {t : Reading × List Line} {r : Reading} (ht : replayed bh t.2 = t)
    (hline : IsLine line) (hkeep : keep line t.2 = { text := line } :: t.2)
    (hstep : visit.step t line = (r, keep line t.2)) :
    replayed bh ({ text := line } :: t.2) = (r, { text := line } :: t.2) := by
  rw [replayed_cons hline, ht, hstep, hkeep]

/-- A line with more than blanks that both readings keep. -/
theorem inStep_keep {t : Reading × List Line} {r r' : Reading} {kept : List Line}
    (ht : replayed bh t.2 = t) (hline : IsLine line) (hb : Text.isBlank line = false)
    (hstep : visit.step t line = (r', keep line t.2))
    (hfollows : Follows files (r, { text := line } :: kept) (r', { text := line } :: t.2)) :
    InStep files bh (r, keep line kept) := by
  rw [keep_of_not_blank hb]
  exact ⟨_, hfollows, replayed_keep ht hline (keep_of_not_blank hb) hstep⟩

/-- A blank line at the end of a call site is read again when another line follows. -/
theorem replayed_callSite {bare : CallSite} {m n : Nat} {cs : List CallSite}
    {ds : List Declaration} {rs : NameSet} {l : Line} {ls kept : List Line}
    (ht : replayed bh (l :: ls) = (⟨.callSite bare m none, n, cs, ds, rs⟩, l :: ls))
    (hb : l.isBlank = false) (hkept : kept = l :: ls ∨ kept = { text := [] } :: l :: ls) :
    ∃ n', replayed bh kept = (⟨.callSite bare m none, n', cs, ds, rs⟩, kept) := by
  rcases hkept with rfl | rfl
  · exact ⟨n, ht⟩
  · have hnil : IsLine [] := ⟨by simp, rfl⟩
    have hstep : visit.step (⟨.callSite bare m none, n, cs, ds, rs⟩, l :: ls) [] =
        (⟨.callSite bare m none, n + 1, cs, ds, rs⟩, keep [] (l :: ls)) :=
      (Step.callSiteLine rfl (by decide) rfl).eq
    rw [replayed_cons hnil, ht, hstep, keep_blank_of_not_blank hb]
    exact ⟨n + 1, rfl⟩

/-- A kept line of a call site that is blank. -/
theorem keep_blank_callSite {l : Line} {ls kept : List Line} (hb : l.isBlank = false)
    (hkept : kept = l :: ls ∨ kept = { text := [] } :: l :: ls) :
    keep [] kept = { text := [] } :: l :: ls := by
  rcases hkept with rfl | rfl
  · exact keep_blank_of_not_blank hb
  · exact keep_blank_of_blank rfl

theorem dropWhile_callSite {l : Line} {ls kept : List Line} (hb : l.isBlank = false)
    (hkept : kept = l :: ls ∨ kept = { text := [] } :: l :: ls) :
    kept.dropWhile Line.isBlank = l :: ls := by
  rcases hkept with rfl | rfl
  · exact dropWhile_of_not_blank hb
  · exact dropWhile_of_not_blank hb

/-- A variable that is not recorded again is recorded for the first time. -/
theorem fresh_of_not_recordsAgain {site : CallSite} {m n : Nat} {cs : List CallSite}
    {ds : List Declaration} {rs : NameSet} {key value : Text} {isCommented isCustom : Bool}
    (h : Reading.recordsAgain ⟨.callSite site m none, n, cs, ds, rs⟩ line = false)
    (hr : Entry.ofLine? line = some (.setting key value isCommented isCustom))
    (hn : (isCommented || isCustom) = true) : site.settings.get? key = none := by
  rw [Reading.recordsAgain, hr] at h
  simp only [hn, Bool.true_and] at h
  exact OrderedMap.contains_eq_false_iff.mp h

/-- At the end of a call site the assignments that are written there have been read. -/
theorem replayed_callSiteEnd {bare other : CallSite} {fs : List VariableFile} {m n : Nat}
    {cs : List CallSite} {ds : List Declaration} {rs : NameSet} {l : Line} {ls : List Line}
    (ht : replayed bh (l :: ls) = (⟨.callSite bare m none, n, cs, ds, rs⟩, l :: ls))
    (hb : l.isBlank = false) (hm : l.closes = none)
    (hlegible : ∀ a ∈ other.written fs, a.Legible)
    (hbehind : bh { kind := .callSite, name := bare.name } = other.page fs) :
    ∃ n', replayed bh ({ text := blockEnd } :: markEnd .callSite bare.name (l :: ls)) =
      (⟨.outside false, n', (other.written fs).foldl CallSite.assign bare :: cs, ds,
          rs.insertAll ((other.written fs).flatMap Assignment.references)⟩,
        { text := blockEnd } :: markEnd .callSite bare.name (l :: ls)) := by
  obtain ⟨b, hreplayed⟩ := replayed_markEnd bh ls hm .callSite bare.name
  have hstart : Settles ⟨m, cs, ds⟩ bare rs (l :: ls)
      (⟨.callSite bare m none, n, cs, ds, rs⟩, l :: ls) :=
    ⟨l :: ls, dropWhile_of_not_blank hb, n, rfl⟩
  obtain ⟨kept, hcore, n', hrun⟩ := hstart.page (b := b) hlegible
  have hname : ((other.written fs).foldl CallSite.assign bare).name = bare.name := by
    rw [CallSite.foldl_assign_eq]
  refine ⟨n' + 1, ?_⟩
  rw [hreplayed, ht, hbehind, hrun, Step.callSiteEnd.eq, hcore, CallSite.close, hname]

/-- The end of a call site, at which its assignments are written. -/
theorem inStep_callSiteEnd {site : CallSite} {m n : Nat} {cs : List CallSite}
    {ds : List Declaration} {rs : NameSet} {kept : List Line} (hsite : site.Sound)
    (hfiles : ∀ file ∈ files.of site.name, ∀ name ∈ file.content.declarations.keys,
      isIdentifier name = true)
    (hbehind : bh { kind := .callSite, name := site.name } = site.page (files.of site.name))
    (h : InStep files bh (⟨.callSite site m none, n, cs, ds, rs⟩, kept)) :
    InStep files bh (⟨.outside false, n + 1, site :: cs, ds, rs⟩,
      { text := blockEnd } :: markEnd .callSite site.name (kept.dropWhile Line.isBlank)) := by
  obtain ⟨t, hs, ht⟩ := h
  cases hs with
  | @callSite _ bare _ m' _ _ n' _ _ _ rs' l ls _ hb hm hkept hext =>
    -- the other reading finds the assignments in front of the brace
    obtain ⟨n'', hend⟩ := replayed_callSiteEnd ht hb hm (hsite.legible_written hfiles)
      (hext.name ▸ hbehind)
    -- having read them it knows as much as the first one
    have hrewired : (site.written (files.of site.name)).foldl CallSite.assign bare =
        rewire files site :=
      hsite.foldl_assign hext.name hext.source hext.reserved hext.settings
        fun v => by simpa using hext.referenced v
    have hrefs : rs'.insertAll
        ((site.written (files.of site.name)).flatMap Assignment.references) = rs := by
      refine NameSet.ext fun v => ?_
      have hv := hext.references v
      rw [NameSet.mem_insertAll, hsite.mem_references_written, hv, or_comm]
      simp
    rw [hrewired, hrefs, hext.name] at hend
    rw [dropWhile_callSite hb hkept]
    exact ⟨_, .outside, hend⟩

/-- A line keeps the reading of what is kept in step. -/
theorem inStep_step (hsound : Reading.Sound s.1) (hline : IsLine line)
    (hcut : s.1.cutsValue line = false) (hagain : s.1.recordsAgain line = false)
    (hfiles : ∀ name, ∀ file ∈ files.of name, ∀ v ∈ file.content.declarations.keys,
      isIdentifier v = true)
    (hsites : ∀ site ∈ s'.1.callSites,
      bh { kind := .callSite, name := site.name } = site.page (files.of site.name))
    (hdeclarations : ∀ name, bh { kind := .declaration, name := name } = [])
    (h : Step s line s') (hs : InStep files bh s) : InStep files bh s' := by
  obtain ⟨t, hfollows, ht⟩ := id hs
  cases h with
  | label hl =>
    cases hfollows with
    | outside => exact ⟨_, .outside, ht⟩
    | declaration hm => exact ⟨_, .declaration hm, ht⟩
    | callSite hb hm hkept hext => exact ⟨_, .callSite hb hm hkept hext, ht⟩
  -- outside of blocks both readings do the same
  | overrideMark hl hh =>
    cases hfollows with
    | outside =>
      have hb := not_blank_of_heading hline hh
      exact inStep_keep ht hline hb (Step.overrideMark hl hh).eq .outside
  | emptyDeclaration hl hh =>
    cases hfollows with
    | outside =>
      have hb := not_blank_of_heading hline hh
      exact inStep_keep ht hline hb (Step.emptyDeclaration hl hh).eq .outside
  | outsideLine hl hh hb =>
    cases hfollows with
    | outside => exact inStep_keep ht hline hb (Step.outsideLine hl hh hb).eq .outside
  | @outsideBlank _ _ _ _ _ kept _ hl hh hb =>
    cases hfollows with
    | outside =>
      rcases keep_eq_or line kept with hkeep | hkeep
      · rw [hkeep]
        exact ⟨_, .outside, ht⟩
      · rw [hkeep]
        exact ⟨_, .outside, replayed_keep ht hline hkeep (Step.outsideBlank hl hh hb).eq⟩
  | callSiteHeading hl hh =>
    cases hfollows with
    | outside =>
      have hb := not_blank_of_heading hline hh
      exact inStep_keep ht hline hb (Step.callSiteHeading hl hh).eq
        (.callSite (l := { text := line }) hb rfl (.inl rfl) (CallSite.Extends.refl _ _))
  | declarationHeading hl hh =>
    cases hfollows with
    | outside =>
      have hb := not_blank_of_heading hline hh
      exact inStep_keep ht hline hb (Step.declarationHeading hl hh).eq (.declaration rfl)
  -- the lines of an assignment are not kept; what they say is known beyond the bare lines
  | passThrough =>
    cases hfollows with
    | callSite hb hm hkept hext => exact ⟨_, .callSite hb hm hkept hext, ht⟩
  | openSetting hl he hr hn hv =>
    cases hfollows with
    | callSite hb hm hkept hext =>
      have hfresh := fresh_of_not_recordsAgain hagain hr hn
      have hrefs : ∀ {key value isCommented isCustom v w},
          w ∈ OpenSetting.references { name := key, isCommented := isCommented,
                                       isCustom := isCustom, first := value, value := v } ↔
            w ∈ firstReferences isCommented isCustom value := by
        simp [OpenSetting.references]
      exact ⟨_, .callSite hb hm hkept (hext.first _ _ hfresh fun v => hrefs), ht⟩
  | @setting site m n cs ds rs kept _ key value isCommented isCustom hl he hr hn hv =>
    cases hfollows with
    | callSite hb hm hkept hext =>
      -- a value on one line is opened and closed at once
      have hopen := hext.first { name := key, isCommented := isCommented, isCustom := isCustom,
                                 first := value, value := .brackets 0 }
        (firstReferences isCommented isCustom value) (fresh_of_not_recordsAgain hagain hr hn)
        fun v => by simp [OpenSetting.references]
      refine ⟨_, .callSite hb hm hkept (hopen.close fun v => ?_), ht⟩
      simp [OpenSetting.references, Setting.references]
  | valueGoesOn hl he hv =>
    cases hfollows with
    | callSite hb hm hkept hext =>
      exact ⟨_, .callSite hb hm hkept
        (hext.further _ (name_push _ line) fun v => OpenSetting.mem_references_push hline), ht⟩
  | @valueEnd site m o n cs ds rs kept _ hl he hv =>
    cases hfollows with
    | callSite hb hm hkept hext =>
      have hfurther := isLine_push (hsound.current o rfl) hline
      have hopen := hext.further (o.push line) (name_push o line) fun v =>
        OpenSetting.mem_references_push hline
      exact ⟨_, .callSite hb hm hkept
        (hopen.close fun v => OpenSetting.mem_references_close hfurther), ht⟩
  | @reserved site m n cs ds rs kept _ key value hl he hr =>
    cases hfollows with
    | callSite hb hm hkept hext =>
      have hblank : Text.isBlank line = false := by
        rw [← Bool.not_eq_true]
        intro hblank
        have hnone : Entry.ofLine? [] = none := rfl
        rw [hline.eq_nil hblank, hnone] at hr
        exact absurd hr (by simp)
      obtain ⟨n', ht'⟩ := replayed_callSite ht hb hkept
      have hreserved := hext.reserve key fun source =>
        if key = sourceName then unquote value else source
      exact inStep_keep ht' hline hblank (Step.reserved hl he hr).eq
        (.callSite (l := { text := line }) hblank rfl (.inl rfl) (hreserved.line _))
  | callSiteLine hl he hr =>
    cases hfollows with
    | callSite hb hm hkept hext =>
      cases hblank : Text.isBlank line with
      | true =>
        -- the line is kept for now, but the other reading does not see it yet
        have hnil := hline.eq_nil hblank
        subst hnil
        rw [keep_blank_callSite hb hkept]
        exact ⟨_, .callSite hb hm (.inr rfl) hext, ht⟩
      | false =>
        obtain ⟨n', ht'⟩ := replayed_callSite ht hb hkept
        exact inStep_keep ht' hline hblank (Step.callSiteLine hl he hr).eq
          (.callSite (l := { text := line }) hblank rfl (.inl rfl) (hext.line _))
  | @callSiteEnd site m cur n cs ds rs kept =>
    -- a tidy line cuts no value off
    have hcur : cur = none := by
      simpa [Reading.cutsValue, Reading.current?] using hcut
    subst hcur
    exact inStep_callSiteEnd (hsound.site site List.mem_cons_self) (hfiles site.name)
      (hsites site List.mem_cons_self) hs
  | @declarationEnd d m n cs ds rs kept =>
    cases hfollows with
    | declaration hm =>
      -- nothing is written where a declaration ends
      obtain ⟨b, hreplayed⟩ := replayed_markEnd bh _ hm .declaration d.name
      rw [hdeclarations, Page.layoutFrom_nil, run_nil, ht, Step.declarationEnd.eq] at hreplayed
      exact ⟨_, .outside, hreplayed⟩
  | declarationBlank hl hb =>
    cases hfollows with
    | declaration hm => exact ⟨_, .declaration hm, ht⟩
  | declarationLine hl he hb =>
    cases hfollows with
    | declaration hm =>
      exact ⟨_, .declaration rfl, by
        rw [replayed_cons hline, ht, (Step.declarationLine hl he hb).eq]⟩

end MainFile

end ModuleWiring

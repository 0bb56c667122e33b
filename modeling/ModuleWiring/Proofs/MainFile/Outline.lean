/-
What the main file says whatever is assigned in it.

The names and the sources of the call sites and the declarations stand on lines that are
kept, so a main file that is written again has the same ones, no matter what its call sites
record and how often.  Only a value that is cut off by the end of its call site would be
open in front of what is written behind it.

* `Text.Uncut` — a text that cuts no value off;
* `Mirrors` — a reading and the reading of the lines that it keeps, call sites outlined;
* `mirrors_step` — a line of the text keeps the two alike;
* `outline_written` — the outline of the main file that is written for a text.
-/
import ModuleWiring.Proofs.MainFile.RoundTrip

namespace ModuleWiring

open Reading

namespace Reading

/-- Whether no line cuts a value off. -/
def uncut : Reading × List Line → List Text → Bool
  | _, [] => true
  | s, line :: ls => !s.1.cutsValue line && uncut (visit.step s line) ls

/-- What every step that cuts no value off keeps holds at the end of a run of such steps. -/
theorem uncut_induction {P : Reading × List Line → Prop}
    (hstep : ∀ s line s', P s → IsLine line →
      s.1.cutsValue line = false → Step s line s' → P s')
    {s : Reading × List Line} (hs : P s) {ls : List Text} (hls : ∀ line ∈ ls, IsLine line)
    (hu : uncut s ls = true) : P (run s ls) := by
  induction ls generalizing s with
  | nil => exact hs
  | cons line ls ih =>
    simp only [uncut, Bool.and_eq_true, Bool.not_eq_true'] at hu
    have hline := hls line List.mem_cons_self
    exact ih (hstep s line _ hs hline hu.1 (step_spec s line))
      (fun l hl => hls l (List.mem_cons_of_mem line hl)) hu.2

end Reading

/-- A text in which no value is cut off by the end of its call site. -/
def Text.Uncut (t : Text) : Prop :=
  Reading.uncut ({}, []) (t.lines.map Text.trimEnd) = true

instance (t : Text) : Decidable t.Uncut :=
  inferInstanceAs (Decidable (_ = true))

/-- What a call site says whatever it assigns. -/
def CallSite.outline (site : CallSite) : Text × Text :=
  (site.name, site.source)

namespace MainFile

variable {t : Text} {files : ModuleFiles} {bh : BlockEnd → Page} {s s' : Reading × List Line}
  {line : Text}

/-- The values of an uncut text can all be written again. -/
theorem sound_of_uncut (ht : t.Uncut) : ∀ site ∈ (Content.ofText t).callSites.values,
    site.Sound := by
  have hrecords : Records Setting.Noted OpenSetting.Noted (Reading.ofText t).1 ∧
      Records Setting.Replays OpenSetting.Sound (Reading.ofText t).1 := by
    rw [ofText_eq_run]
    refine uncut_induction (P := fun s => Records Setting.Noted OpenSetting.Noted s.1 ∧
      Records Setting.Replays OpenSetting.Sound s.1) ?_ ?_ (fun _ hl => isLine_of_mem_lines hl) ht
    · rintro s line s' ⟨hnoted, hreplays⟩ hline hcut hstep
      have hnever : s.1.cutsValue line = true →
          ∀ o : OpenSetting, o.Sound → o.close.Replays o.name :=
        fun hc => absurd (hcut.symm.trans hc) Bool.false_ne_true
      exact ⟨recording_noted.step (fun _ _ => noted_close) hnoted hline hstep,
        recording_replays.step hnever hreplays hline hstep⟩
    · exact ⟨⟨by simp [allCallSites], by simp [current?]⟩,
        ⟨by simp [allCallSites], by simp [current?]⟩⟩
  intro site hsite
  obtain ⟨⟨key, site⟩, he, rfl⟩ := List.mem_map.mp hsite
  have hmem := Content.mem_allCallSites (Content.mem_callSites_ofText he).2
  exact ⟨hrecords.1.setting _ hmem, hrecords.2.setting _ hmem⟩

/-- Whether only assignments that can be read stand behind the ends of blocks. -/
structure Fills (bh : BlockEnd → Page) : Prop where
  declaration : ∀ name, bh { kind := .declaration, name := name } = []
  callSite : ∀ name, ∃ (site : CallSite) (fs : List VariableFile),
    (∀ a ∈ site.written fs, a.Legible) ∧ bh { kind := .callSite, name := name } = site.page fs

theorem fills_behind (hf : files.Assignable)
    (hsound : ∀ site ∈ (Content.ofText t).callSites.values, site.Sound) :
    Fills (behind (Content.ofText t) files) := by
  refine ⟨behind_declaration _ files, fun name => ?_⟩
  rcases hget : (Content.ofText t).callSites.get? name with _ | site
  · have hnone : ({ name := name } : CallSite).written [] = [] := rfl
    refine ⟨{ name := name }, [], by simp [hnone], ?_⟩
    simp [behind, Content.block?, hget]
    rfl
  · have hsite := hsound site (OrderedMap.mem_values_of_get? hget)
    refine ⟨site, files.of site.name,
      hsite.legible_written fun _ hfile => hf.isIdentifier hfile, ?_⟩
    simp [behind, Content.block?, hget]

/-- A reading and the reading of the lines that it keeps.  They agree on the declarations and
on the outlines of the call sites. -/
inductive Mirrors : Reading × List Line → Reading × List Line → Prop
  | outside {o n n' cs cs' ds rs rs' kept}
    (hcs : cs'.map CallSite.outline = cs.map CallSite.outline) :
    Mirrors (⟨.outside o, n, cs, ds, rs⟩, kept) (⟨.outside o, n', cs', ds, rs'⟩, kept)
  | declaration {d m m' n n' cs cs' ds rs rs' l ls}
    (hcs : cs'.map CallSite.outline = cs.map CallSite.outline) (hm : l.closes = none) :
    Mirrors (⟨.declaration d m, n, cs, ds, rs⟩, l :: ls)
      (⟨.declaration d m', n', cs', ds, rs'⟩, l :: ls)
  /-- A blank line at the end of a call site is not written again, for it does not last. -/
  | callSite {site bare m m' cur n n' cs cs' ds rs rs' l ls kept}
    (hcs : cs'.map CallSite.outline = cs.map CallSite.outline) (hb : l.isBlank = false)
    (hm : l.closes = none) (hkept : kept = l :: ls ∨ kept = { text := [] } :: l :: ls)
    (hname : bare.name = site.name) (hsource : bare.source = site.source) :
    Mirrors (⟨.callSite site m cur, n, cs, ds, rs⟩, kept)
      (⟨.callSite bare m' none, n', cs', ds, rs'⟩, l :: ls)

/-- Whether the reading of the lines that a reading keeps mirrors it. -/
def Mirrored (bh : BlockEnd → Page) (s : Reading × List Line) : Prop :=
  ∃ t, Mirrors s t ∧ replayed bh t.2 = t

/-- A line with more than blanks that both readings keep. -/
theorem mirrored_keep {t : Reading × List Line} {r r' : Reading} {kept : List Line}
    (ht : replayed bh t.2 = t) (hline : IsLine line) (hb : Text.isBlank line = false)
    (hstep : visit.step t line = (r', keep line t.2))
    (hmirrors : Mirrors (r, { text := line } :: kept) (r', { text := line } :: t.2)) :
    Mirrored bh (r, keep line kept) := by
  rw [keep_of_not_blank hb]
  exact ⟨_, hmirrors, replayed_keep ht hline (keep_of_not_blank hb) hstep⟩

/-- The end of a call site.  The assignments that are written there change neither its name
nor its source. -/
theorem mirrored_callSiteEnd {t : Reading × List Line} {site : CallSite} {m n : Nat}
    {cs : List CallSite} {ds : List Declaration} {rs : NameSet} {kept : List Line}
    (hfills : Fills bh) (ht : replayed bh t.2 = t)
    (hmirrors : Mirrors (⟨.callSite site m none, n, cs, ds, rs⟩, kept) t) :
    Mirrored bh (⟨.outside false, n + 1, site.close none :: cs, ds, rs⟩,
      { text := blockEnd } ::
        markEnd .callSite (site.close none).name (kept.dropWhile Line.isBlank)) := by
  cases hmirrors with
  | @callSite _ bare _ _ _ _ _ _ cs' _ _ _ _ _ _ hcs hb hm hkept hname hsource =>
    obtain ⟨other, fs, hlegible, hpage⟩ := hfills.callSite bare.name
    obtain ⟨n', hend⟩ := replayed_callSiteEnd ht hb hm hlegible hpage
    rw [dropWhile_callSite hb hkept, name_close, ← hname]
    refine ⟨_, .outside ?_, hend⟩
    rw [List.map_cons, List.map_cons, hcs, CallSite.foldl_assign_eq, CallSite.close,
      CallSite.outline, CallSite.outline, hname, hsource]

/-- A line keeps a reading and the reading of what it keeps alike. -/
theorem mirrors_step (hfills : Fills bh) (hline : IsLine line) (hcut : s.1.cutsValue line = false)
    (h : Step s line s') (hs : Mirrored bh s) : Mirrored bh s' := by
  obtain ⟨t, hmirrors, ht⟩ := hs
  cases h with
  | label hl =>
    cases hmirrors with
    | outside hcs => exact ⟨_, .outside hcs, ht⟩
    | declaration hcs hm => exact ⟨_, .declaration hcs hm, ht⟩
    | callSite hcs hb hm hkept hname hsource =>
      exact ⟨_, .callSite hcs hb hm hkept hname hsource, ht⟩
  -- outside of blocks both readings do the same
  | overrideMark hl hh =>
    cases hmirrors with
    | outside hcs =>
      have hb := not_blank_of_heading hline hh
      exact mirrored_keep ht hline hb (Step.overrideMark hl hh).eq (.outside hcs)
  | emptyDeclaration hl hh =>
    cases hmirrors with
    | outside hcs =>
      have hb := not_blank_of_heading hline hh
      exact mirrored_keep ht hline hb (Step.emptyDeclaration hl hh).eq (.outside hcs)
  | outsideLine hl hh hb =>
    cases hmirrors with
    | outside hcs =>
      exact mirrored_keep ht hline hb (Step.outsideLine hl hh hb).eq (.outside hcs)
  | @outsideBlank _ _ _ _ _ kept _ hl hh hb =>
    cases hmirrors with
    | outside hcs =>
      rcases keep_eq_or line kept with hkeep | hkeep
      · rw [hkeep]
        exact ⟨_, .outside hcs, ht⟩
      · rw [hkeep]
        exact ⟨_, .outside hcs, replayed_keep ht hline hkeep (Step.outsideBlank hl hh hb).eq⟩
  | callSiteHeading hl hh =>
    cases hmirrors with
    | outside hcs =>
      have hb := not_blank_of_heading hline hh
      exact mirrored_keep ht hline hb (Step.callSiteHeading hl hh).eq
        (.callSite (l := { text := line }) hcs hb rfl (.inl rfl) rfl rfl)
  | declarationHeading hl hh =>
    cases hmirrors with
    | outside hcs =>
      have hb := not_blank_of_heading hline hh
      exact mirrored_keep ht hline hb (Step.declarationHeading hl hh).eq (.declaration hcs rfl)
  -- the lines of an assignment are not kept, and they change neither name nor source
  | passThrough | openSetting | setting | valueGoesOn | valueEnd =>
    cases hmirrors with
    | callSite hcs hb hm hkept hname hsource =>
      exact ⟨_, .callSite hcs hb hm hkept hname hsource, ht⟩
  | @reserved site m n cs ds rs kept _ key value hl he hr =>
    cases hmirrors with
    | callSite hcs hb hm hkept hname hsource =>
      have hblank : Text.isBlank line = false := by
        rw [← Bool.not_eq_true]
        intro hblank
        have hnone : Entry.ofLine? [] = none := rfl
        rw [hline.eq_nil hblank, hnone] at hr
        exact absurd hr (by simp)
      obtain ⟨n', ht'⟩ := replayed_callSite ht hb hkept
      refine mirrored_keep ht' hline hblank (Step.reserved hl he hr).eq
        (.callSite (l := { text := line }) hcs hblank rfl (.inl rfl) hname ?_)
      show (if key = sourceName then unquote value else _) = if key = sourceName then _ else _
      rw [hsource]
  | callSiteLine hl he hr =>
    cases hmirrors with
    | callSite hcs hb hm hkept hname hsource =>
      cases hblank : Text.isBlank line with
      | true =>
        -- the line is kept for now, but the other reading does not see it yet
        have hnil := hline.eq_nil hblank
        subst hnil
        rw [keep_blank_callSite hb hkept]
        exact ⟨_, .callSite hcs hb hm (.inr rfl) hname hsource, ht⟩
      | false =>
        obtain ⟨n', ht'⟩ := replayed_callSite ht hb hkept
        exact mirrored_keep ht' hline hblank (Step.callSiteLine hl he hr).eq
          (.callSite (l := { text := line }) hcs hblank rfl (.inl rfl) hname hsource)
  | @callSiteEnd site m cur n cs ds rs kept =>
    obtain rfl : cur = none := by simpa [Reading.cutsValue, Reading.current?] using hcut
    exact mirrored_callSiteEnd hfills ht hmirrors
  | @declarationEnd d m n cs ds rs kept =>
    cases hmirrors with
    | declaration hcs hm =>
      -- nothing is written where a declaration ends
      obtain ⟨b, hreplayed⟩ := replayed_markEnd bh _ hm .declaration d.name
      rw [hfills.declaration, Page.layoutFrom_nil, run_nil, ht, Step.declarationEnd.eq]
        at hreplayed
      exact ⟨_, .outside hcs, hreplayed⟩
  | declarationBlank hl hb =>
    cases hmirrors with
    | declaration hcs hm => exact ⟨_, .declaration hcs hm, ht⟩
  | declarationLine hl he hb =>
    cases hmirrors with
    | declaration hcs hm =>
      exact ⟨_, .declaration hcs rfl, by
        rw [replayed_cons hline, ht, (Step.declarationLine hl he hb).eq]⟩

theorem mapValues_outline (cs : List CallSite) :
    (OrderedMap.ofList (cs.map fun s => (s.name, s))).mapValues CallSite.outline =
      OrderedMap.ofList ((cs.map CallSite.outline).map fun o => (o.1, o)) := by
  rw [OrderedMap.mapValues_ofList, List.map_map, List.map_map]
  rfl

/-- **The outline of a main file lasts.**  The main file that is written for an uncut text
has the same call sites, with the same sources, and the same declarations. -/
theorem outline_written (ht : t.Uncut) (hclosed : (Content.ofText t).unclosed = none)
    (hf : files.Assignable) :
    (Content.ofText (written t files)).unclosed = none ∧
      (Content.ofText (written t files)).declarations = (Content.ofText t).declarations ∧
      (Content.ofText (written t files)).callSites.mapValues CallSite.outline =
        (Content.ofText t).callSites.mapValues CallSite.outline := by
  have hsound := sound_of_uncut ht
  have hfills := fills_behind hf hsound
  have hmirrored : Mirrored (behind (Content.ofText t) files) (Reading.ofText t) := by
    rw [ofText_eq_run]
    exact uncut_induction (fun _ _ _ hs hline hcut hstep => mirrors_step hfills hline hcut hstep hs)
      ⟨_, .outside rfl, rfl⟩ (fun _ hl => isLine_of_mem_lines hl) ht
  obtain ⟨t', hmirrors, hreplayed⟩ := hmirrored
  have hread := ofText_written_eq hf hsound
  rw [Content.ofText_eq t] at hclosed ⊢
  rw [Content.ofText_eq, hread]
  rcases hs : Reading.ofText t with ⟨⟨g, n, cs, ds, rs⟩, kept⟩
  rw [hs] at hmirrors hclosed
  cases hmirrors with
  | declaration => exact absurd hclosed (by simp [Reading.content, Reading.unclosed])
  | callSite => exact absurd hclosed (by simp [Reading.content, Reading.unclosed])
  | @outside _ _ _ _ cs' _ _ _ _ hcs =>
    rw [hreplayed]
    refine ⟨rfl, rfl, ?_⟩
    show (OrderedMap.ofList (cs'.reverse.map fun s => (s.name, s))).mapValues CallSite.outline =
      (OrderedMap.ofList (cs.reverse.map fun s => (s.name, s))).mapValues CallSite.outline
    have hreverse : cs'.reverse.map CallSite.outline = cs.reverse.map CallSite.outline := by
      rw [List.map_reverse, List.map_reverse, hcs]
    rw [mapValues_outline, mapValues_outline, hreverse]

end MainFile

end ModuleWiring

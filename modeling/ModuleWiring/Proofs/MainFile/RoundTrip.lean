/-
The main file, read back.

What is read from a main file that is written again is what was read before, with the
assignments written anew.  This needs a text that says what it means: every block is
closed, no value is cut off by the end of its call site, and no call site records a
variable twice.

* `Text.Regular` — such a text;
* `content_written_eq` — the content of the main file that is written for it.
-/
import ModuleWiring.Proofs.MainFile.Simulation
import ModuleWiring.Proofs.VariableFile

namespace ModuleWiring

open Reading

/-- A text whose blocks are closed, whose call sites have names of their own, and in which
no value is cut off and no variable is recorded again. -/
structure Text.Regular (t : Text) : Prop where
  closed : (Content.ofText t).unclosed = none
  distinct : ((Reading.ofText t).1.callSites.map CallSite.name).Nodup
  tidy : Reading.tidy ({}, []) (t.lines.map Text.trimEnd) = true

/-- A content with the assignments of its call sites written anew. -/
def Content.rewired (c : Content) (files : ModuleFiles) : Content :=
  { c with callSites := c.callSites.mapValues (MainFile.rewire files) }

namespace MainFile

variable {t : Text} {files : ModuleFiles}

/-- The main file that is written for a text. -/
def written (t : Text) (files : ModuleFiles) : Text :=
  render (Content.ofText t) files

/-- Whether every call site that has ended gets its assignments written where it ends. -/
def Provides (files : ModuleFiles) (bh : BlockEnd → Page) (s : Reading × List Line) : Prop :=
  ∀ site ∈ s.1.callSites,
    bh { kind := .callSite, name := site.name } = site.page (files.of site.name)

/-- What holds of a reading as long as its text is tidy. -/
structure Tidied (files : ModuleFiles) (bh : BlockEnd → Page) (s : Reading × List Line) :
    Prop where
  noted : Records Setting.Noted OpenSetting.Noted s.1
  replays : Records Setting.Replays OpenSetting.Sound s.1
  inStep : Provides files bh s → InStep files bh s

theorem Tidied.sound {bh : BlockEnd → Page} {s : Reading × List Line} (h : Tidied files bh s) :
    Reading.Sound s.1 :=
  ⟨fun site hsite => ⟨h.noted.setting site hsite, h.replays.setting site hsite⟩,
    fun o ho => (h.noted.current o ho).further⟩

theorem tidied_step {bh : BlockEnd → Page} {s s' : Reading × List Line} {line : Text}
    (hf : files.Assignable)
    (hdeclarations : ∀ name, bh { kind := .declaration, name := name } = [])
    (hs : Tidied files bh s) (hline : IsLine line) (hcut : s.1.cutsValue line = false)
    (hagain : s.1.recordsAgain line = false) (h : Step s line s') : Tidied files bh s' := by
  have hnever : s.1.cutsValue line = true →
      ∀ o : OpenSetting, o.Sound → o.close.Replays o.name :=
    fun hc => absurd (hcut.symm.trans hc) Bool.false_ne_true
  refine ⟨recording_noted.step (fun _ _ => noted_close) hs.noted hline h,
    recording_replays.step hnever hs.replays hline h, fun hprovides => ?_⟩
  -- what is provided at the end of the text has been provided all along
  have hbefore := hs.inStep fun site hsite => hprovides site (callSites_step h hsite)
  exact inStep_step hs.sound hline hcut hagain (fun _ _ hfile => hf.isIdentifier hfile) hprovides
    hdeclarations h hbefore

theorem tidied_ofText (ht : t.Regular) (hf : files.Assignable) {bh : BlockEnd → Page}
    (hdeclarations : ∀ name, bh { kind := .declaration, name := name } = []) :
    Tidied files bh (Reading.ofText t) := by
  have hinit : Tidied files bh ({}, []) :=
    ⟨⟨by simp [allCallSites], by simp [current?]⟩,
      ⟨by simp [allCallSites], by simp [current?]⟩, fun _ => ⟨_, .outside, rfl⟩⟩
  rw [ofText_eq_run]
  exact tidy_induction (fun _ _ _ hs hline hcut hagain h =>
    tidied_step hf hdeclarations hs hline hcut hagain h) hinit
    (fun _ hl => isLine_of_mem_lines hl) ht.tidy

/-! ### The content -/

theorem behind_declaration (main : Content) (files : ModuleFiles) (name : Text) :
    behind main files { kind := .declaration, name := name } = [] := by
  rcases hget : main.declarations.get? name with _ | d <;> simp [behind, Content.block?, hget]

/-- Call sites of distinct names are listed one by one, in the order in which they end. -/
theorem entries_callSites {sites : List CallSite} (h : (sites.map CallSite.name).Nodup) :
    (OrderedMap.ofList (sites.reverse.map fun s => (s.name, s))).entries =
      sites.reverse.map fun s => (s.name, s) := by
  refine OrderedMap.entries_ofList ?_
  rw [List.map_map, List.map_reverse, (List.reverse_perm _).nodup_iff]
  exact h

theorem get?_callSites (ht : t.Regular) {site : CallSite}
    (h : site ∈ (Reading.ofText t).1.callSites) :
    (Content.ofText t).callSites.get? site.name = some site := by
  rw [OrderedMap.get?_eq_some_iff, Content.ofText_eq, Reading.content,
    entries_callSites ht.distinct]
  exact List.mem_map_of_mem (List.mem_reverse.mpr h)

theorem provides_behind (ht : t.Regular) :
    Provides files (behind (Content.ofText t) files) (Reading.ofText t) := by
  intro site hsite
  have hget := get?_callSites ht hsite
  simp [behind, Content.block?, hget]

theorem onLines_page (hnames : ∀ name, ∀ file ∈ files.of name, '\n' ∉ file.name)
    (hwritten : ∀ site ∈ (Content.ofText t).callSites.values,
      ∀ a ∈ site.written (files.of site.name), a.OnLine) :
    (page (Content.ofText t) files).OnLines := by
  refine Page.OnLines.flatMap fun l hl => ?_
  have hline : Page.OnLines [.line l.text] :=
    Page.onLines_line (isLine_ofText t l (List.mem_reverse.mp hl)).noFeed
  rw [linePage, ← List.singleton_append]
  refine hline.append ?_
  split
  · next site hend =>
    exact CallSite.onLines_page (hnames site.name)
      (hwritten site (mem_values_of_endingCallSite? hend))
  · exact Page.onLines_nil

theorem sound_callSites (ht : t.Regular) (hf : files.Assignable) :
    ∀ site ∈ (Content.ofText t).callSites.values, site.Sound := by
  intro site hsite
  obtain ⟨⟨key, site⟩, he, rfl⟩ := List.mem_map.mp hsite
  have htidied := tidied_ofText ht hf (behind_declaration (Content.ofText t) files)
  exact htidied.sound.site _ (Content.mem_allCallSites (Content.mem_callSites_ofText he).2)

/-- The reading of a written main file is the one that follows. -/
theorem ofText_written_eq (hf : files.Assignable)
    (hsound : ∀ site ∈ (Content.ofText t).callSites.values, site.Sound) :
    Reading.ofText (written t files) =
      replayed (behind (Content.ofText t) files) (Reading.ofText t).2 := by
  have honLines : (page (Content.ofText t) files).OnLines :=
    onLines_page (fun _ _ hfile => hf.not_feed hfile) fun site hsite a ha =>
      ((hsound site hsite).legible_written (fun _ hfile => hf.isIdentifier hfile) a ha).onLine
  rw [written, render, Reading.ofText_render honLines, page_eq_replay, replayed]
  congr 3
  exact List.reverse_reverse _

/-- What is read from the main file that is written for a regular text. -/
theorem content_written_eq (ht : t.Regular) (hf : files.Assignable) :
    Content.ofText (written t files) = (Content.ofText t).rewired files := by
  obtain ⟨t', hfollows, hreplayed⟩ := (tidied_ofText ht hf
    (behind_declaration (Content.ofText t) files)).inStep (provides_behind ht)
  have hread := ofText_written_eq hf (sound_callSites ht hf)
  have hclosed := ht.closed
  have hdistinct := ht.distinct
  rw [Content.ofText_eq t] at hclosed ⊢
  rw [Content.ofText_eq, hread]
  rcases hs : Reading.ofText t with ⟨⟨g, n, cs, ds, rs⟩, kept⟩
  rw [hs] at hfollows hclosed hdistinct
  -- a text whose blocks are closed ends outside of blocks
  cases hfollows with
  | declaration => exact absurd hclosed (by simp [Reading.content, Reading.unclosed])
  | callSite => exact absurd hclosed (by simp [Reading.content, Reading.unclosed])
  | @outside o _ n' =>
    rw [hreplayed]
    have hsites : OrderedMap.ofList ((cs.map (rewire files)).reverse.map fun s => (s.name, s)) =
        (OrderedMap.ofList (cs.reverse.map fun s => (s.name, s))).mapValues (rewire files) := by
      refine OrderedMap.ext ?_
      have hnodup : ((cs.map (rewire files)).map CallSite.name).Nodup := by
        rw [List.map_map]
        exact hdistinct
      rw [entries_callSites hnodup, OrderedMap.entries_mapValues, entries_callSites hdistinct,
        ← List.map_reverse, List.map_map, List.map_map]
      rfl
    rw [Content.rewired, Reading.content, Reading.content]
    rw [hsites]
    rfl

/-- **Writing the main file anew preserves what is in it.**  The lines with their marks, the
declarations, the references and the call sites with all they know stay the same; of the
settings only commented assignments `v = var.v` that have no place any more are dropped. -/
theorem written_preserves (ht : t.Regular) (hf : files.Assignable) :
    (Content.ofText (written t files)).lines = (Content.ofText t).lines ∧
    (Content.ofText (written t files)).declarations = (Content.ofText t).declarations ∧
    (Content.ofText (written t files)).references = (Content.ofText t).references ∧
    (Content.ofText (written t files)).unclosed = none ∧
    (Content.ofText (written t files)).callSites.keys = (Content.ofText t).callSites.keys ∧
    ∀ name site, (Content.ofText t).callSites.get? name = some site →
      ∃ site', (Content.ofText (written t files)).callSites.get? name = some site' ∧
        site'.source = site.source ∧ site'.reserved = site.reserved ∧
        site'.referenced = site.referenced ∧
        ∀ v s, site'.settings.get? v = some s ↔
          site.settings.get? v = some s ∧ ¬site.Drops (files.of name) v s := by
  rw [content_written_eq ht hf]
  refine ⟨rfl, rfl, rfl, ht.closed, OrderedMap.keys_mapValues _ _, fun name site hget => ?_⟩
  have hname : name = site.name :=
    (Content.mem_callSites_ofText (OrderedMap.get?_eq_some_iff.mp hget)).1
  have hsound := sound_callSites ht hf site (OrderedMap.mem_values_of_get? hget)
  refine ⟨rewire files site, ?_, rfl, rfl, rfl, fun v s => ?_⟩
  · rw [Content.rewired, OrderedMap.get?_mapValues, hget, Option.map_some]
  · rw [hname, rewire, hsound.get?_rewired]
    refine and_congr_right fun hs => ?_
    exact (CallSite.not_drops_iff (hsound.noted _ (OrderedMap.get?_eq_some_iff.mp hs))).symm

/-- A call site with a value on several lines and with a comment that is dropped. -/
theorem written_preserves_network :
    let t : Text := ("module \"network\" \x7b\n  source = \"./network\"\n" ++
      "  # zone = var.zone\n  size = [\n    var.base,\n  ]\n\x7d\n").toList
    let files := ModuleFiles.ofTexts
      [("network".toList, [("variables.tf".toList, "variable \"size\" \x7b\x7d\n".toList)])]
    Text.Regular t ∧ files.Assignable ∧
      (Content.ofText (written t files)).lines = (Content.ofText t).lines ∧
      "base".toList ∈ (Content.ofText (written t files)).references := by
  intro t files
  have ht : Text.Regular t := ⟨by decide, by decide, by decide⟩
  have hf : files.Assignable := ⟨by decide, by decide⟩
  obtain ⟨hlines, -, hreferences, -⟩ := written_preserves ht hf
  refine ⟨ht, hf, hlines, ?_⟩
  rw [hreferences]
  decide

end MainFile

end ModuleWiring

/-
Blank lines in the main file.

The main file is written from kept lines, one behind the other, and where a block ends the
assignments of a call site come in between.  These begin with a gap behind a line of more than
blanks and end with such a line, so the blank lines stay set apart, and the brace that ends the
block never comes to stand behind one:

* `Page.Inset` — a page that can come in between;
* `Laid` — the page of the lines up to some line, `laid_replay` for all of them;
* `setApart_page`, `setOff_page` — so it is with the main file of every text;
* `onLine_written`, `onLines_page_of_areRead` — and every line of it is one line.
-/
import ModuleWiring.Proofs.MainFile.Layout
import ModuleWiring.Proofs.MainFile.RoundTrip
import ModuleWiring.Proofs.Reading.Nesting

namespace ModuleWiring

open Reading

/-- A page that can stand in a block, behind a line of more than blanks. -/
structure Page.Inset (p : Page) : Prop where
  last : p.endsBlank false = false
  apart : p.SetApart false
  goesOn : blockEnd ∉ p.layout

theorem Page.inset_nil : Page.Inset [] :=
  ⟨rfl, trivial, List.not_mem_nil⟩

namespace MainFile

/-- A page with its blank lines set apart, no end of a block right behind one of them.  `inside`
tells whether a block is open behind the page, and `afterBlank` whether its last line is blank. -/
structure Laid (inside afterBlank : Bool) (p : Page) : Prop where
  last : p.endsBlank false = afterBlank
  apart : p.SetApart false
  ends : Text.endsInside p.layout = inside
  setOff : Text.SetOff p.layout

variable {inside afterBlank : Bool} {p q : Page} {line : Text} {kept : List Line}
  {bh : BlockEnd → Page}

theorem Laid.concat (h : Laid inside afterBlank p) (hline : IsLine line)
    (hapart : (Text.isBlank line && afterBlank) = false)
    (hend : line = blockEnd → inside = true → afterBlank = false) :
    Laid (Text.crosses inside line) (Text.isBlank line) (p ++ [.line line]) := by
  have hlayout : Page.layout (p ++ [.line line]) = p.layout ++ [line] := by
    rw [Page.layout, Page.layoutFrom_append, Page.layoutFrom_line, Page.layoutFrom_nil,
      hline.trimmed]
    rfl
  refine ⟨?_, h.apart.append ?_, ?_, ?_⟩
  · rw [Page.endsBlank_append]
    exact Text.isEmpty_trimEnd line
  · rw [h.last]
    exact ⟨by rwa [Bool.and_comm], trivial⟩
  · rw [hlayout, Text.endsInside_concat, h.ends]
  · rw [hlayout]
    refine h.setOff.concat fun hbrace hinside hblank => ?_
    have hlast := Page.isEmpty_of_getLast?_layout hblank
    rw [h.last, hend hbrace (h.ends ▸ hinside)] at hlast
    exact absurd hlast (by simp)

theorem Laid.inset (h : Laid true false p) (hq : q.Inset) : Laid true false (p ++ q) := by
  have hlayout : Page.layout (p ++ q) = p.layout ++ q.layout := by
    rw [Page.layout, Page.layoutFrom_append, h.last]
    rfl
  refine ⟨?_, h.apart.append ?_, ?_, ?_⟩
  · rw [Page.endsBlank_append, h.last, hq.last]
  · rw [h.last]
    exact hq.apart
  · rw [hlayout, Text.endsInside_append h.ends hq.goesOn]
  · rw [hlayout]
    exact h.setOff.append hq.goesOn

/-- What is written from kept lines, by induction on them. -/
theorem laid_replay (hbh : ∀ b, (bh b).Inset) (h : Nested inside kept) :
    Laid inside (kept.head?.any Line.isBlank) (replay bh kept) := by
  induction h with
  | nil => exact ⟨rfl, trivial, rfl, Text.setOff_nil⟩
  | line h hline he ha ih =>
    rw [replay_cons]
    exact ih.concat hline ha fun hbrace hinside => absurd hbrace (he hinside)
  | @ends kept line h hb b ih =>
    -- without the mark the line is written alone; with it the page comes in behind
    have hmarked : replay bh ({ text := line, closes := some b } :: kept) =
        replay bh ({ text := line } :: kept) ++ bh b := by
      rw [replay_cons, replay_cons, List.append_assoc]
      rfl
    have hopen : Laid true false (replay bh ({ text := line } :: kept)) := by
      rw [← hb]
      exact ih
    rw [replay_cons, hmarked]
    exact (hopen.inset (hbh b)).concat isLine_blockEnd (Bool.and_false _) fun _ _ => rfl

theorem inset_behind (t : Text) (files : ModuleFiles) (b : BlockEnd) :
    (behind (Content.ofText t) files b).Inset := by
  obtain ⟨_ | _, name⟩ := b
  · rcases hget : (Content.ofText t).callSites.get? name with _ | site
    · have hnil : behind (Content.ofText t) files { kind := .callSite, name := name } = [] := by
        simp [behind, Content.block?, hget]
      rw [hnil]
      exact Page.inset_nil
    · have hpage : behind (Content.ofText t) files { kind := .callSite, name := name } =
          site.page (files.of site.name) := by
        simp [behind, Content.block?, hget]
      have hsite := OrderedMap.mem_values_of_get? hget
      rw [hpage]
      exact ⟨CallSite.endsBlank_page hsite, CallSite.setApart_page hsite,
        CallSite.blockEnd_not_mem_layout hsite⟩
  · rw [behind_declaration]
    exact Page.inset_nil

theorem exists_laid_page (t : Text) (files : ModuleFiles) :
    ∃ inside afterBlank, Laid inside afterBlank (page (Content.ofText t) files) := by
  have hlaid := laid_replay (inset_behind t files) (nested_ofText t)
  rw [← List.reverse_reverse (Reading.ofText t).2] at hlaid
  exact ⟨_, _, page_eq_replay (Content.ofText t) files ▸ hlaid⟩

theorem setApart_page (t : Text) (files : ModuleFiles) :
    (page (Content.ofText t) files).SetApart false := by
  obtain ⟨_, _, hlaid⟩ := exists_laid_page t files
  exact hlaid.apart

theorem setOff_page (t : Text) (files : ModuleFiles) :
    Text.SetOff (page (Content.ofText t) files).layout := by
  obtain ⟨_, _, hlaid⟩ := exists_laid_page t files
  exact hlaid.setOff

/-! ### Every line is one line -/

variable {t : Text} {files : ModuleFiles} {site : CallSite}

/-- The variables that are assigned come from headings of declarations and from lines of the
call site. -/
theorem onLine_written (hf : files.AreRead) (hsite : site ∈ (Content.ofText t).callSites.values)
    {name : Text} : ∀ a ∈ site.written (files.of name), a.OnLine := by
  intro a ha
  have hmem := (site.written_perm _).mem_iff.mp ha
  rcases hget : site.settings.get? a.name with _ | s
  · rcases CallSite.mem_names_assignments.mp (List.mem_map_of_mem hmem) with
      ⟨hd, -⟩ | ⟨s, hs, -⟩
    · obtain ⟨file, hfile, hkey⟩ := hd
      have hlegible := hf.declaresLegibly hfile
      rw [← hlegible.map_name] at hkey
      obtain ⟨d, hd, hname⟩ := List.mem_map.mp hkey
      refine ⟨hname ▸ (hlegible.legible hd).nameOnLine, ?_⟩
      rw [CallSite.eq_assignment_of_mem hmem, CallSite.assignment, hget]
      simp [Assignment.ofSetting?]
    · rw [hget] at hs
      exact absurd hs (by simp)
  · have hnoted := Content.noted_ofText hsite hget
    obtain ⟨first, further, hlines, -, hfirst, -, hfurther, -⟩ := hnoted.lines
    refine ⟨fun hm => ne_of_mem_identifier hnoted.identifier hm (by decide) rfl, ?_⟩
    rw [CallSite.eq_assignment_of_mem hmem, CallSite.assignment, hget]
    simp only [Assignment.ofSetting?, hlines, List.forall_mem_cons]
    exact ⟨hfirst, fun l hl => (hfurther l hl).noFeed⟩

theorem onLines_page_of_areRead (hf : files.AreRead) :
    (page (Content.ofText t) files).OnLines :=
  onLines_page (fun _ _ hfile => hf.not_feed hfile) fun _ hsite => onLine_written hf hsite

end MainFile

end ModuleWiring

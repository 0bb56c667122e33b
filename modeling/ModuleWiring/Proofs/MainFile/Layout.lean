/-
The lines of assignments.

A value that was read leaves no blank line at its end and none behind another one.  So what is
written for an assignment ends in a line with more than blanks, and what follows it starts
afresh: the assignments of a call site are laid out one behind the other, each as if it stood
alone.

* `Assignment.Spaced` — an assignment of such a value; those of a call site are
  (`CallSite.spaced_assignment`);
* `Assignment.Spaced.exists_layoutFrom_page`, `AssignmentGroup.exists_page_eq` — the lines of an
  assignment and of a group;
* `Assignment.endsBlank_page`, `AssignmentGroup.layoutFrom_rows_cons` — a gap behind an
  assignment is a blank line;
* `AssignmentGroup.endsBlank_page`, `CallSite.endsBlank_page` — a group and a call site end in
  a line with more than blanks;
* `AssignmentGroup.setApart_page`, `CallSite.setApart_page` — and set their blank lines apart;
* `CallSite.blockEnd_not_mem_layout` — none of the lines ends the call site.
-/
import ModuleWiring.Proofs.MainFile.CallSitePage
import ModuleWiring.Proofs.Reading.Settings
import ModuleWiring.Proofs.Spacing

namespace ModuleWiring

open Reading

theorem Entry.not_blank_written (a : Assignment) (pad value : Text) :
    Text.isBlank (Entry.written a pad value) = false := by
  rw [Text.isBlank, List.all_eq_false]
  exact ⟨'=', by simp [Entry.written], by decide⟩

namespace Assignment

/-- An assignment whose further lines are as a reading sees them, with no end of a block among
them, no blank one at the end and none behind another. -/
structure Spaced (a : Assignment) : Prop where
  trimmed : ∀ l ∈ a.lines.tail, Text.trimEnd l = l
  goesOn : ∀ l ∈ a.lines.tail, l ≠ blockEnd
  apart : a.lines.IsChain fun l m => ¬(Text.isBlank l = true ∧ Text.isBlank m = true)
  last : ∀ l ∈ a.lines.tail.getLast?, Text.isBlank l = false

variable {a : Assignment}

theorem exists_page_eq_lines (a : Assignment) (width : Nat) : ∃ pad, Text.isBlank pad = true ∧
    a.page width = (Entry.written a pad (a.lines.headD (passThrough a.name)) ::
      a.lines.tail).map .line := by
  obtain ⟨n, hpage⟩ := a.exists_page_eq width
  exact ⟨_, Text.isBlank_replicate n, hpage⟩

/-- A value that does not end with a blank line leaves none behind. -/
theorem endsBlank_page (hlast : ∀ l ∈ a.lines.tail.getLast?, Text.isBlank l = false)
    (width : Nat) (b : Bool) : Page.endsBlank b (a.page width) = false := by
  obtain ⟨pad, -, hpage⟩ := a.exists_page_eq_lines width
  rw [hpage]
  rcases hend : a.lines.tail.getLast? with _ | l
  · rw [List.getLast?_eq_none_iff.mp hend]
    exact (Text.isEmpty_trimEnd _).trans (Entry.not_blank_written a pad _)
  · have hl : l ∈ (Entry.written a pad (a.lines.headD (passThrough a.name)) ::
        a.lines.tail).getLast? := by
      rw [List.getLast?_cons, hend]
      rfl
    rw [Page.endsBlank_lines hl]
    exact hlast l hend

/-- The lines of an assignment: its first one trimmed, the further ones as they are. -/
theorem Spaced.exists_layoutFrom_page (h : a.Spaced) (width : Nat) :
    ∃ pad, Text.isBlank pad = true ∧ ∀ b, Page.layoutFrom b (a.page width) =
      Text.trimEnd (Entry.written a pad (a.lines.headD (passThrough a.name))) ::
        a.lines.tail := by
  obtain ⟨pad, hpad, hpage⟩ := a.exists_page_eq_lines width
  refine ⟨pad, hpad, fun b => ?_⟩
  rw [hpage, Page.layoutFrom_lines, List.map_cons, Text.map_trimEnd_eq_self h.trimmed]

theorem Spaced.stands_page (h : a.Spaced) (width : Nat) : (a.page width).Stands := by
  obtain ⟨pad, -, hpage⟩ := a.exists_page_eq_lines width
  rw [hpage]
  exact Page.stands_lines (Entry.not_blank_written a pad _) h.last h.apart.tail

end Assignment

namespace AssignmentGroup

variable {as : List Assignment} {g : AssignmentGroup}

/-- The gap behind a value on several lines is a blank line, as the value ends with none. -/
theorem layoutFrom_rows_cons {a : Assignment}
    (hlast : ∀ l ∈ a.lines.tail.getLast?, Text.isBlank l = false)
    (width : Bool → Nat) (b : Bool) :
    Page.layoutFrom b (rows width (a :: as)) =
      Page.layoutFrom b (a.page (width a.isCommented)) ++
        (if a.isMultiLine && !as.isEmpty then [[]] else []) ++
        Page.layoutFrom (a.isMultiLine && !as.isEmpty) (rows width as) := by
  rw [rows, List.append_assoc, Page.layoutFrom_append, Assignment.endsBlank_page hlast,
    Page.layoutFrom_append, List.append_assoc]
  cases a.isMultiLine && !as.isEmpty <;> rfl

theorem stands_rows (has : ∀ a ∈ as, a.Spaced) (hne : as ≠ []) (width : Bool → Nat) :
    (rows width as).Stands := by
  induction as with
  | nil => exact absurd rfl hne
  | cons a as ih =>
    have ha := (has a List.mem_cons_self).stands_page (width a.isCommented)
    rw [rows]
    by_cases has' : as = []
    · simpa [has', rows] using ha
    · have hrest := ih (fun a' ha' => has a' (List.mem_cons_of_mem a ha')) has'
      split
      · rw [List.append_assoc]
        exact ha.append_gap hrest
      · rw [List.append_nil]
        exact ha.append hrest

theorem not_blank_label (label : Text) :
    Text.isBlank ("  ".toList ++ labelMark ++ ' ' :: label) = false := by
  rw [Text.isBlank, List.all_eq_false]
  exact ⟨'#', by simp [labelMark], by decide⟩

/-- The lines in front of the assignments of a group. -/
theorem layoutFrom_front (label : Option Text) (b : Bool) :
    Page.layoutFrom b ([.gap] ++ (label.map fun label =>
        PageItem.line ("  ".toList ++ labelMark ++ ' ' :: label)).toList) =
      (if b then [] else [[]]) ++ (label.map fun label =>
        Text.trimEnd ("  ".toList ++ labelMark ++ ' ' :: label)).toList := by
  cases b <;> cases label <;> rfl

/-- A group is a gap with lines behind it, unless it has no assignments. -/
theorem exists_page_eq (hg : ∀ a ∈ g.assignments, a.Spaced) (hne : g.assignments ≠ []) :
    ∃ p, Page.Stands p ∧ g.page = .gap :: p := by
  have hperm := perm_ordered g.assignments
  have hordered : ordered g.assignments ≠ [] := fun hnil =>
    hne (List.nil_perm.mp (hnil ▸ hperm))
  have hrows := stands_rows (fun a ha => hg a (hperm.mem_iff.mp ha)) hordered
    (width g.assignments)
  rw [page, if_neg (by simpa using hne)]
  rcases g.label with _ | label
  · exact ⟨_, hrows, rfl⟩
  · exact ⟨_, hrows.cons_line (not_blank_label label), rfl⟩

/-- A group that stands behind a line with more than blanks ends in such a line. -/
theorem endsBlank_page (hg : ∀ a ∈ g.assignments, a.Spaced) :
    Page.endsBlank false g.page = false := by
  by_cases hne : g.assignments = []
  · rw [page, hne]
    rfl
  · obtain ⟨p, hp, hpage⟩ := exists_page_eq hg hne
    rw [hpage]
    exact hp.endsBlank true

theorem setApart_page (hg : ∀ a ∈ g.assignments, a.Spaced) : Page.SetApart false g.page := by
  by_cases hne : g.assignments = []
  · rw [page, hne]
    trivial
  · obtain ⟨p, hp, hpage⟩ := exists_page_eq hg hne
    rw [hpage]
    exact hp.setApart true

end AssignmentGroup

namespace CallSite

variable {site : CallSite} {fs : List VariableFile} {t : Text}

/-- What a call site of a text assigns has the lines that the text gives it. -/
theorem spaced_assignment (hsite : site ∈ (Content.ofText t).callSites.values) (name : Text) :
    (site.assignment name).Spaced := by
  rcases hs : site.settings.get? name with _ | s
  · rw [assignment, hs]
    exact ⟨by simp [Assignment.ofSetting?], by simp [Assignment.ofSetting?], .nil,
      by simp [Assignment.ofSetting?]⟩
  · have hspaced := Content.spaced_ofText hsite hs
    obtain ⟨first, further, hlines, -, -, -, hfurther, -⟩ :=
      (Content.noted_ofText hsite hs).lines
    rw [assignment, hs]
    refine ⟨fun l hl => (hfurther l ?_).trimmed, fun l hl => (hspaced.further l hl).1,
      hspaced.apart, fun l hl => ?_⟩
    · rw [Assignment.ofSetting?, hlines] at hl
      exact hl
    · -- the last further line is the last line of a value on several lines
      rw [Assignment.ofSetting?, hlines, List.tail_cons] at hl
      have hmulti : s.isMultiLine = true := by
        rcases further with _ | ⟨m, further⟩
        · simp at hl
        · simp [Setting.isMultiLine, hlines]
      refine hspaced.last hmulti l ?_
      rw [hlines, List.getLast?_cons, Option.mem_def.mp hl]
      rfl

theorem spaced_of_mem_groups (hsite : site ∈ (Content.ofText t).callSites.values)
    {g : AssignmentGroup} (hg : g ∈ site.groups fs) : ∀ a ∈ g.assignments, a.Spaced := by
  intro a ha
  rw [eq_assignment_of_mem (List.mem_flatMap.mpr ⟨g, hg, ha⟩)]
  exact spaced_assignment hsite a.name

theorem spaced_of_mem_written (hsite : site ∈ (Content.ofText t).callSites.values) :
    ∀ a ∈ site.written fs, a.Spaced := by
  intro a ha
  obtain ⟨g, hg, hmem⟩ := List.mem_flatMap.mp ha
  exact spaced_of_mem_groups hsite hg a
    ((AssignmentGroup.perm_ordered g.assignments).mem_iff.mp hmem)

theorem endsBlank_page (hsite : site ∈ (Content.ofText t).callSites.values) :
    Page.endsBlank false (site.page fs) = false :=
  Page.endsBlank_flatMap fun _ hg => AssignmentGroup.endsBlank_page (spaced_of_mem_groups hsite hg)

theorem setApart_page (hsite : site ∈ (Content.ofText t).callSites.values) :
    Page.SetApart false (site.page fs) :=
  Page.setApart_flatMap
    (fun _ hg => AssignmentGroup.endsBlank_page (spaced_of_mem_groups hsite hg))
    fun _ hg => AssignmentGroup.setApart_page (spaced_of_mem_groups hsite hg)

/-- No line that is written in a call site ends it. -/
theorem blockEnd_not_mem_layout (hsite : site ∈ (Content.ofText t).callSites.values) :
    blockEnd ∉ (site.page fs).layout := by
  intro hm
  rcases Page.mem_layoutFrom hm with hnil | ⟨l, hl, hend⟩
  · exact absurd hnil (by decide)
  · rcases mem_page hl with ⟨file, -, label, -, rfl⟩ | ⟨a, ha, width, hline⟩
    · exact trimEnd_ne_blockEnd _ hend.symm
    · have hspaced := spaced_of_mem_written hsite a ha
      rcases a.mem_page hline with ⟨n, rfl⟩ | hl
      · exact trimEnd_ne_blockEnd _ hend.symm
      · exact hspaced.goesOn l hl (hspaced.trimmed l hl ▸ hend.symm)

end CallSite

end ModuleWiring

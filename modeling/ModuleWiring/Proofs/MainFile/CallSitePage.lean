/-
The assignments of a call site, written and read again.

A reading that goes through the assignments written in a call site never leaves it.  Labels
and gaps leave no trace but blank lines, and each assignment notes what it was written for:

* `Assignment.Legible` — an assignment whose lines are read as what it says;
* `CallSite.assign` — what a call site knows once an assignment has been read;
* `Settles.page` — a reading of all assignments of a call site;
* `CallSite.mem_page` — the lines of a call site: labels of files, and lines of assignments;
* `CallSite.onLines_page` — what is written for a call site stands on lines of its own.
-/
import ModuleWiring.Proofs.Assignment
import ModuleWiring.Proofs.Setting

namespace ModuleWiring

open Reading

namespace Assignment

/-- What a reading records of an assignment: nothing of a variable passed through. -/
def setting? (a : Assignment) : Option Setting :=
  match a.lines with
  | [] => none
  | first :: _ => some { isCommented := a.isCommented, isCustom := first != passThrough a.name,
                         lines := a.lines }

/-- The entry of the settings that an assignment amounts to. -/
def entry? (a : Assignment) : Option (Text × Setting) :=
  a.setting?.map fun s => (a.name, s)

/-- The variables that a reading notes of an assignment. -/
def references (a : Assignment) : List Text :=
  (a.setting?.map Setting.references).getD []

/-- An assignment whose lines are read as what it says. -/
structure Legible (a : Assignment) : Prop where
  identifier : isIdentifier a.name = true
  live : a.lines = [] → a.isCommented = false
  noFeed : ∀ l ∈ a.lines, '\n' ∉ l
  further : ∀ l ∈ a.lines.tail, IsLine l
  replays : ∀ s ∈ a.setting?, s.Replays a.name

/-- The first line of a written assignment, with some blanks, and the further ones as they
are. -/
theorem exists_page_eq (a : Assignment) (width : Nat) : ∃ n, a.page width =
    .line (Entry.written a (List.replicate n ' ') (a.lines.headD (passThrough a.name))) ::
      a.lines.tail.map .line := by
  rw [page]
  rcases hlines : a.lines with _ | ⟨first, _ | ⟨second, further⟩⟩
  · exact ⟨_, rfl⟩
  · exact ⟨_, rfl⟩
  · exact ⟨0, by simp [Entry.written]⟩

end Assignment

namespace CallSite

/-- What a call site knows once an assignment has been read. -/
def assign (site : CallSite) (a : Assignment) : CallSite :=
  match a.setting? with
  | none => site
  | some s => (site.refer (some a.name) s.references).set a.name s

/-- The assignments of a call site in the order in which they are written. -/
def written (site : CallSite) (fs : List VariableFile) : List Assignment :=
  (site.groups fs).flatMap fun g => AssignmentGroup.ordered g.assignments

end CallSite

/-- The line that passes a variable through is read back. -/
theorem Entry.ofLine?_passThrough {a : Assignment} {pad : Text} (h : isIdentifier a.name = true)
    (hlive : a.isCommented = false) (hpad : Text.isBlank pad = true) :
    Entry.ofLine? (Text.trimEnd (Entry.written a pad (passThrough a.name))) =
      some (.setting a.name (passThrough a.name) false false) := by
  have hvalue : Text.trim (passThrough a.name) = passThrough a.name := by
    have htrim := Text.trimEnd_eq_self_of_trim (trim_identifier h)
    have hstart : Text.trimStart (passThrough a.name) = passThrough a.name := rfl
    rw [Text.trim, hstart, passThrough, Text.trimEnd_append htrim (ne_nil_of_isIdentifier h)]
  rw [Entry.ofLine?_written h hpad hvalue (by simp), hlive, bne_self_eq_false]

/-- A reading that stands in a call site between two assignments.  What it keeps ends in
`core`, blank lines apart. -/
def Settles (w : Place) (site : CallSite) (rs : NameSet) (core : List Line)
    (s : Reading × List Line) : Prop :=
  ∃ kept, kept.dropWhile Line.isBlank = core ∧ Stands w site none rs kept s

namespace Settles

variable {w : Place} {site : CallSite} {rs : NameSet} {core : List Line}
  {s : Reading × List Line} {b : Bool}

theorem label {line : Text} (h : Settles w site rs core s) (hl : isLabelLine line = true) :
    Settles w site rs core (visit.step s line) := by
  obtain ⟨kept, hcore, n, rfl⟩ := h
  exact ⟨kept, hcore, n + 1, (Step.label hl).eq⟩

theorem blank (h : Settles w site rs core s) : Settles w site rs core (visit.step s []) := by
  obtain ⟨kept, hcore, n, rfl⟩ := h
  have hstep : visit.step
      (⟨.callSite site w.opened none, n, w.callSites, w.declarations, rs⟩, kept) [] =
        (⟨.callSite site w.opened none, n + 1, w.callSites, w.declarations, rs⟩,
          keep [] kept) :=
    (Step.callSiteLine rfl (by decide) rfl).eq
  refine ⟨keep [] kept, ?_, n + 1, hstep⟩
  rw [keep]
  split
  · exact hcore
  · exact hcore

theorem gap (h : Settles w site rs core s) :
    Settles w site rs core (run s (Page.layoutFrom b [.gap])) := by
  cases b with
  | true => exact h
  | false => exact h.blank

theorem assignment {a : Assignment} (ha : a.Legible) (h : Settles w site rs core s)
    (width : Nat) : Settles w (site.assign a) (rs.insertAll a.references) core
      (run s (Page.layoutFrom b (a.page width))) := by
  obtain ⟨kept, hcore, hs⟩ := h
  refine ⟨kept, hcore, ?_⟩
  obtain ⟨n, hpage⟩ := a.exists_page_eq width
  have hpad := Text.isBlank_replicate n
  have htail : a.lines.tail.map Text.trimEnd = a.lines.tail :=
    Text.map_trimEnd_eq_self fun l hl => (ha.further l hl).trimmed
  rw [hpage, Page.layoutFrom_line, Page.layoutFrom_lines, htail, CallSite.assign,
    Assignment.references]
  -- a variable that is passed through is not recorded; a setting replays as it is
  rcases hlines : a.lines with _ | ⟨first, further⟩
  · have hnone : a.setting? = none := by rw [Assignment.setting?, hlines]
    have hentry := Entry.ofLine?_passThrough ha.identifier (ha.live hlines) hpad
    obtain ⟨count, rfl⟩ := hs
    rw [hnone]
    exact ⟨count + 1, (Step.passThrough (Entry.isLabelLine_written ha.identifier)
      (Entry.ne_blockEnd hentry) hentry).eq⟩
  · have hsome : a.setting? = some { isCommented := a.isCommented,
                                     isCustom := first != passThrough a.name,
                                     lines := a.lines } := by
      rw [Assignment.setting?, hlines]
    have hreplays := ha.replays _ hsome first further hlines a _ rfl rfl hpad
    rw [hsome]
    exact hreplays w site rs kept s hs

theorem rows {as : List Assignment} (has : ∀ a ∈ as, a.Legible) (width : Bool → Nat)
    (h : Settles w site rs core s) :
    Settles w (as.foldl CallSite.assign site) (rs.insertAll (as.flatMap Assignment.references)) core
      (run s (Page.layoutFrom b (AssignmentGroup.rows width as))) := by
  -- from row to row the call site grows, and a blank line may have been written or not
  induction as generalizing site rs s b with
  | nil =>
    rw [AssignmentGroup.rows, Page.layoutFrom_nil]
    exact h
  | cons a as ih =>
    have ha := h.assignment (b := b) (has a List.mem_cons_self) (width a.isCommented)
    have has' : ∀ a' ∈ as, a'.Legible := fun a' ha' => has a' (List.mem_cons_of_mem a ha')
    rw [AssignmentGroup.rows, List.append_assoc, Page.layoutFrom_append, Page.layoutFrom_append,
      run_append, run_append, List.foldl_cons, List.flatMap_cons, ← NameSet.insertAll_append]
    split
    · exact ih has' ha.gap
    · rw [Page.layoutFrom_nil]
      exact ih has' ha

theorem group {g : AssignmentGroup}
    (hg : ∀ a ∈ AssignmentGroup.ordered g.assignments, a.Legible)
    (h : Settles w site rs core s) :
    Settles w ((AssignmentGroup.ordered g.assignments).foldl CallSite.assign site)
      (rs.insertAll ((AssignmentGroup.ordered g.assignments).flatMap Assignment.references)) core
      (run s (Page.layoutFrom b g.page)) := by
  rw [AssignmentGroup.page]
  split
  · next hempty =>
    have hnil : AssignmentGroup.ordered g.assignments = [] := by
      rw [List.isEmpty_iff.mp hempty]
      rfl
    rw [hnil, Page.layoutFrom_nil]
    exact h
  · rw [List.append_assoc, Page.layoutFrom_append, Page.layoutFrom_append, run_append, run_append]
    refine rows hg _ ?_
    cases g.label with
    | none =>
      rw [Option.map_none, Option.toList_none, Page.layoutFrom_nil]
      exact h.gap
    | some label =>
      rw [Option.map_some, Option.toList_some, Page.layoutFrom_line, Page.layoutFrom_nil,
        run_singleton]
      exact h.gap.label (isLabelLine_written (b := "  ".toList) rfl)

theorem groups {gs : List AssignmentGroup}
    (hgs : ∀ g ∈ gs, ∀ a ∈ AssignmentGroup.ordered g.assignments, a.Legible)
    (h : Settles w site rs core s) :
    Settles w ((gs.flatMap fun g => AssignmentGroup.ordered g.assignments).foldl
        CallSite.assign site)
      (rs.insertAll ((gs.flatMap fun g => AssignmentGroup.ordered g.assignments).flatMap
        Assignment.references)) core
      (run s (Page.layoutFrom b (gs.flatMap AssignmentGroup.page))) := by
  induction gs generalizing site rs s b with
  | nil =>
    show Settles w site rs core (run s (Page.layoutFrom b []))
    rw [Page.layoutFrom_nil]
    exact h
  | cons g gs ih =>
    rw [List.flatMap_cons, List.flatMap_cons, List.foldl_append, List.flatMap_append,
      ← NameSet.insertAll_append, Page.layoutFrom_append, run_append]
    exact ih (fun g' hg' => hgs g' (List.mem_cons_of_mem g hg'))
      (h.group (hgs g List.mem_cons_self))

/-- All assignments of a call site, read in one that holds none of them yet. -/
theorem page {fs : List VariableFile} {bare : CallSite} (hfs : ∀ a ∈ site.written fs, a.Legible)
    (h : Settles w bare rs core s) :
    Settles w ((site.written fs).foldl CallSite.assign bare)
      (rs.insertAll ((site.written fs).flatMap Assignment.references)) core
      (run s (Page.layoutFrom b (site.page fs))) :=
  h.groups fun g hg a ha => hfs a (List.mem_flatMap.mpr ⟨g, hg, ha⟩)

end Settles

/-! ### The lines of a call site -/

/-- The lines of an assignment: the one that assigns the value, and the further ones. -/
theorem Assignment.mem_page {a : Assignment} {width : Nat} {t : Text}
    (h : .line t ∈ a.page width) :
    (∃ n, t = Entry.written a (List.replicate n ' ') (a.lines.headD (passThrough a.name))) ∨
      t ∈ a.lines.tail := by
  obtain ⟨n, hpage⟩ := a.exists_page_eq width
  rw [hpage] at h
  rcases List.mem_cons.mp h with h | h
  · exact .inl ⟨n, PageItem.line.inj h⟩
  · obtain ⟨l, hl, hlt⟩ := List.mem_map.mp h
    exact .inr (PageItem.line.inj hlt ▸ hl)

theorem AssignmentGroup.mem_rows {as : List Assignment} {width : Bool → Nat} {t : Text}
    (h : .line t ∈ rows width as) : ∃ a ∈ as, .line t ∈ a.page (width a.isCommented) := by
  induction as with
  | nil => simp [rows] at h
  | cons a as ih =>
    rw [rows] at h
    rcases List.mem_append.mp h with h | h
    · rcases List.mem_append.mp h with h | h
      · exact ⟨a, List.mem_cons_self, h⟩
      · split at h <;> simp at h
    · obtain ⟨a', ha', hline⟩ := ih h
      exact ⟨a', List.mem_cons_of_mem a ha', hline⟩

theorem AssignmentGroup.mem_page {g : AssignmentGroup} {t : Text} (h : .line t ∈ g.page) :
    (∃ label ∈ g.label, t = "  ".toList ++ labelMark ++ ' ' :: label) ∨
      ∃ a ∈ ordered g.assignments, ∃ width, .line t ∈ a.page width := by
  rw [page] at h
  split at h
  · simp at h
  · rcases List.mem_append.mp h with h | h
    · rcases hlabel : g.label with _ | label
      · simp [hlabel] at h
      · simp only [hlabel, Option.map_some, Option.toList_some, List.mem_append,
          List.mem_singleton, reduceCtorEq, false_or] at h
        exact .inl ⟨label, rfl, PageItem.line.inj h⟩
    · obtain ⟨a, ha, hline⟩ := mem_rows h
      exact .inr ⟨a, ha, _, hline⟩

namespace CallSite

variable {site : CallSite} {fs : List VariableFile}

theorem label_of_mem_groupsFrom {assigned : List Text} {g : AssignmentGroup}
    (h : g ∈ site.groupsFrom assigned fs) {label : Text} (hl : g.label = some label) :
    ∃ file ∈ fs, VariableFile.label? file.name = some label := by
  induction fs generalizing assigned with
  | nil =>
    rw [groupsFrom, List.mem_singleton] at h
    rw [h, leftovers] at hl
    exact absurd hl (by simp)
  | cons file fs ih =>
    rw [groupsFrom] at h
    rcases List.mem_cons.mp h with rfl | h
    · exact ⟨file, List.mem_cons_self, hl⟩
    · obtain ⟨file', hfile, hlabel⟩ := ih h
      exact ⟨file', List.mem_cons_of_mem file hfile, hlabel⟩

/-- The lines of a call site: labels of files, and lines of assignments. -/
theorem mem_page {t : Text} (h : .line t ∈ site.page fs) :
    (∃ file ∈ fs, ∃ label, VariableFile.label? file.name = some label ∧
      t = "  ".toList ++ labelMark ++ ' ' :: label) ∨
      ∃ a ∈ site.written fs, ∃ width, .line t ∈ a.page width := by
  obtain ⟨g, hg, hline⟩ := List.mem_flatMap.mp h
  rcases AssignmentGroup.mem_page hline with ⟨label, hlabel, rfl⟩ | ⟨a, ha, hpage⟩
  · obtain ⟨file, hfile, hname⟩ := label_of_mem_groupsFrom hg hlabel
    exact .inl ⟨file, hfile, label, hname, rfl⟩
  · exact .inr ⟨a, List.mem_flatMap.mpr ⟨g, hg, ha⟩, hpage⟩

end CallSite

/-! ### Every line is one line -/

/-- An assignment whose name and lines each stand on one line. -/
structure Assignment.OnLine (a : Assignment) : Prop where
  name : '\n' ∉ a.name
  lines : ∀ l ∈ a.lines, '\n' ∉ l

namespace Assignment

variable {a : Assignment}

theorem Legible.onLine (h : a.Legible) : a.OnLine :=
  ⟨fun hm => ne_of_mem_identifier h.identifier hm (by decide) rfl, h.noFeed⟩

theorem OnLine.not_feed_value (h : a.OnLine) : '\n' ∉ a.lines.headD (passThrough a.name) := by
  rcases hlines : a.lines with _ | ⟨first, further⟩
  · intro hm
    rcases List.mem_append.mp hm with hm | hm
    · exact absurd hm (by decide)
    · exact h.name hm
  · exact h.lines first (hlines ▸ List.mem_cons_self)

theorem OnLine.not_feed_displayName (h : a.OnLine) : '\n' ∉ a.displayName := by
  have hmark : '\n' ∉ ['#', ' '] := by decide
  rw [displayName]
  split
  · exact fun hm => (List.mem_append.mp hm).elim hmark h.name
  · exact h.name

theorem OnLine.onLines_page (h : a.OnLine) (width : Nat) : (a.page width).OnLines := by
  intro t ht
  rcases mem_page ht with ⟨n, rfl⟩ | ht
  · have hpad : '\n' ∉ List.replicate n ' ' := by
      intro hm
      exact absurd (List.eq_of_mem_replicate hm) (by decide)
    simp only [Entry.written, List.mem_append, not_or]
    exact ⟨⟨⟨by decide, h.not_feed_displayName, hpad⟩, by decide⟩, h.not_feed_value⟩
  · exact h.lines t (List.mem_of_mem_tail ht)

end Assignment

/-- What distinguishes the name of a file stands in it. -/
theorem VariableFile.mem_of_mem_label? {name label : Text} (h : label? name = some label) {c : Char}
    (hc : c ∈ label) : c ∈ name := by
  have hbefore : ∀ c ∈ (Text.before? fileEnding name).getD name, c ∈ name := by
    intro c hc
    rcases hb : Text.before? fileEnding name with _ | rest
    · rwa [hb] at hc
    · rw [hb] at hc
      rw [Text.before?_eq_some_iff.mp hb]
      exact List.mem_append_left _ hc
  rw [label?] at h
  split at h
  · next left right hcut =>
    simp only [Option.ite_none_left_eq_some, Option.some.injEq] at h
    obtain ⟨-, rfl⟩ := h
    obtain ⟨d, hd, -, -⟩ := Text.cut?_eq_some_iff.mp hcut
    refine hbefore c ?_
    rw [hd]
    exact List.mem_append_right _ (List.mem_cons_of_mem d hc)
  · exact absurd h (by simp)

theorem CallSite.onLines_page {site : CallSite} {fs : List VariableFile}
    (hnames : ∀ file ∈ fs, '\n' ∉ file.name)
    (hwritten : ∀ a ∈ site.written fs, a.OnLine) :
    (site.page fs).OnLines := by
  intro t ht
  rcases mem_page ht with ⟨file, hfile, label, hlabel, rfl⟩ | ⟨a, ha, width, hline⟩
  · have hfront : '\n' ∉ "  ".toList ++ labelMark := by decide
    have hnot : '\n' ∉ label :=
      fun hm => hnames file hfile (VariableFile.mem_of_mem_label? hlabel hm)
    rw [List.mem_append, List.mem_cons]
    exact fun hm => hm.elim hfront fun hm => hm.elim (by decide) hnot
  · exact (hwritten a ha).onLines_page width t hline

end ModuleWiring

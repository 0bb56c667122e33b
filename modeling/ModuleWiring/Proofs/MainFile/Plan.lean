/-
Which variable is assigned where.

The groups of a call site are made file by file, and what is assigned so far is left out.  Here
the same is said of the declarations and the records alone: a variable falls to the first file
that declares it, unless the call site reserves it, and what is recorded of variables that no
file declares falls to the last group.

* `CallSite.plan` — the groups with the variables that fall to them;
* `CallSite.groups_eq_plan` — the groups of a call site are these;
* `CallSite.WritesEntry`, `WritesRows`, `WritesGroup` — the lines of an assignment, of several,
  and of a group;
* `page_follows_plan` — what is written for a call site are the groups of its plan, and over all
  of them every variable stands once.
-/
import ModuleWiring.Proofs.MainFile.Layout
import ModuleWiring.Proofs.VariableFile

namespace ModuleWiring

open Reading

instance (fs : List VariableFile) (name : Text) : Decidable (DeclaredIn fs name) :=
  inferInstanceAs (Decidable (∃ file ∈ fs, name ∈ file.content.declarations.keys))

/-- A group of assignments by the variables that are assigned. -/
structure PlannedGroup where
  label : Option Text
  names : List Text
deriving DecidableEq

namespace CallSite

variable {site : CallSite} {fs earlier : List VariableFile} {name : Text} {names : List Text}
  {t : Text}

/-- The variables that fall to a file: it declares them and no earlier file does, and the call
site does not reserve them. -/
def due (site : CallSite) (earlier : List VariableFile) (file : VariableFile) : List Text :=
  file.content.declarations.keys.filter fun name =>
    !site.reserved.contains name && !decide (DeclaredIn earlier name)

/-- The variables with a value given by hand that no file declares. -/
def remaining (site : CallSite) (fs : List VariableFile) : List Text :=
  (site.settings.entries.filter fun e => e.2.isCustom && !decide (DeclaredIn fs e.1)).map Prod.fst

/-- The groups of the files that are left, and the last group. -/
def planFrom (site : CallSite) : (earlier : List VariableFile) → List VariableFile →
    List PlannedGroup
  | earlier, [] => [{ label := none, names := site.remaining earlier }]
  | earlier, file :: files =>
    { label := VariableFile.label? file.name, names := site.due earlier file } ::
      planFrom site (earlier ++ [file]) files

/-- The groups of a call site, in the order of the files. -/
def plan (site : CallSite) (fs : List VariableFile) : List PlannedGroup :=
  site.planFrom [] fs

/-- The variables of a group in the order in which they are written: what is recorded and in
force, what is passed through, what is commented out. -/
def writtenOrder (site : CallSite) (names : List Text) : List Text :=
  (names.filter fun name => (site.settings.get? name).any fun s => !s.isCommented) ++
    (names.filter fun name => (site.settings.get? name).isNone) ++
    names.filter fun name => (site.settings.get? name).any Setting.isCommented

/-- The lines that assign a variable, with some blanks in front of the equals sign. -/
inductive WritesEntry (site : CallSite) (name : Text) : List Text → Prop
  | passThrough {pad} (hpad : Text.isBlank pad = true) (hs : site.settings.get? name = none) :
    WritesEntry site name
      [Text.trimEnd ("  ".toList ++ name ++ pad ++ " = ".toList ++ passThrough name)]
  | recorded {pad s first further} (hpad : Text.isBlank pad = true)
    (hs : site.settings.get? name = some s) (hlines : s.lines = first :: further) :
    WritesEntry site name
      (Text.trimEnd ("  ".toList ++ (if s.isCommented then "# ".toList else []) ++ name ++ pad ++
        " = ".toList ++ first) :: further)

/-- The lines that assign variables one after the other, with a blank line behind a value on
several lines unless it is the last. -/
inductive WritesRows (site : CallSite) : List Text → List Text → Prop
  | nil : WritesRows site [] []
  | cons {name names ls rest} (h : site.WritesEntry name ls) (hrest : site.WritesRows names rest) :
    WritesRows site (name :: names)
      (ls ++ (if 1 < ls.length && !names.isEmpty then [[]] else []) ++ rest)

/-- The lines of a group: a blank one, the label if there is one, and the assignments. -/
def WritesGroup (site : CallSite) (g : PlannedGroup) (ls : List Text) : Prop :=
  ∃ rows, site.WritesRows (site.writtenOrder g.names) rows ∧
    ls = [] :: (g.label.map fun label =>
      Text.trimEnd ("  ".toList ++ labelMark ++ ' ' :: label)).toList ++ rows

/-! ### The groups of the plan -/

/-- The assignments of a planned group. -/
def group (site : CallSite) (g : PlannedGroup) : AssignmentGroup where
  label := g.label
  assignments := g.names.map site.assignment

/-- What is given by hand is no reserved argument. -/
theorem not_mem_reserved (hsite : site ∈ (Content.ofText t).callSites.values) {s : Setting}
    (hs : site.settings.get? name = some s) (hcustom : s.isCustom = true) :
    name ∉ site.reserved := by
  intro hreserved
  have hfree := (Content.noted_ofText hsite hs).free
  rw [hcustom, Bool.and_true, ← Bool.not_eq_true, List.contains_iff_mem] at hfree
  exact hfree (Content.isReserved_ofText hsite hreserved)

theorem mem_due {file : VariableFile} : name ∈ site.due earlier file ↔
    name ∈ file.content.declarations.keys ∧ name ∉ site.reserved ∧
      ¬DeclaredIn earlier name := by
  rw [due, List.mem_filter, Bool.and_eq_true, Bool.not_eq_true', Bool.not_eq_true',
    ← Bool.not_eq_true, NameSet.contains_iff, decide_eq_false_iff_not]

theorem declaredIn_concat {file : VariableFile} : DeclaredIn (earlier ++ [file]) name ↔
    DeclaredIn earlier name ∨ name ∈ file.content.declarations.keys := by
  simp [DeclaredIn, or_and_right, exists_or]

theorem groupsFrom_eq_planFrom (hsite : site ∈ (Content.ofText t).callSites.values)
    {assigned : List Text}
    (hassigned : ∀ name, name ∈ assigned ↔
      DeclaredIn earlier name ∧ name ∉ site.reserved) :
    site.groupsFrom assigned fs = (site.planFrom earlier fs).map site.group := by
  induction fs generalizing assigned earlier with
  | nil =>
    have hentry : ∀ e ∈ site.settings.entries,
        (e.2.isCustom && !assigned.contains e.1) =
          (e.2.isCustom && !decide (DeclaredIn earlier e.1)) := by
      intro e he
      cases hcustom : e.2.isCustom with
      | false => rfl
      | true =>
        have hfree := not_mem_reserved hsite (OrderedMap.get?_eq_some_iff.mpr he) hcustom
        rw [Bool.eq_iff_iff]
        simp [hassigned, hfree]
    have hassignments : (site.leftovers assigned).assignments =
        (site.remaining earlier).map site.assignment := by
      rw [leftovers, remaining, List.map_map, List.filter_congr hentry]
      refine List.map_congr_left fun e he => ?_
      have hget := OrderedMap.get?_eq_some_iff.mpr (List.mem_filter.mp he).1
      rw [Function.comp_apply, assignment, hget]
    rw [groupsFrom, planFrom, List.map_singleton, group, ← hassignments]
    rfl
  | cons file fs ih =>
    have hnames : site.unassigned assigned file = site.due earlier file := by
      refine List.filter_congr fun name _ => ?_
      cases hreserved : site.reserved.contains name with
      | true => rfl
      | false =>
        rw [← Bool.not_eq_true, NameSet.contains_iff] at hreserved
        rw [Bool.eq_iff_iff]
        simp [hassigned, hreserved]
    have hassigned' : ∀ name, name ∈ assigned ++ site.due earlier file ↔
        DeclaredIn (earlier ++ [file]) name ∧ name ∉ site.reserved := by
      intro name
      rw [declaredIn_concat, List.mem_append, hassigned, mem_due]
      by_cases hreserved : name ∈ site.reserved <;>
        by_cases hearlier : DeclaredIn earlier name <;>
        simp [hreserved, hearlier]
    rw [groupsFrom, planFrom, List.map_cons, hnames, ih hassigned']
    rfl

/-- The groups of a call site are those of its plan. -/
theorem groups_eq_plan (hsite : site ∈ (Content.ofText t).callSites.values) :
    site.groups fs = (site.plan fs).map site.group :=
  groupsFrom_eq_planFrom hsite (by simp [DeclaredIn])

theorem map_name_plan (hsite : site ∈ (Content.ofText t).callSites.values) :
    (site.assignments fs).map Assignment.name = (site.plan fs).flatMap PlannedGroup.names := by
  rw [assignments, assignmentsFrom, ← groups, groups_eq_plan hsite, List.flatMap_map,
    List.map_flatMap]
  exact List.flatMap_congr fun g _ => map_name_assignment site g.names

/-! ### The lines of the plan -/

/-- What is recorded has lines. -/
theorem isEmpty_lines_assignment (hsite : site ∈ (Content.ofText t).callSites.values)
    (name : Text) : (site.assignment name).lines.isEmpty = (site.settings.get? name).isNone := by
  rcases hs : site.settings.get? name with _ | s
  · rw [assignment, hs]
    rfl
  · obtain ⟨first, further, hlines, -⟩ := (Content.noted_ofText hsite hs).lines
    rw [assignment, hs, Assignment.ofSetting?, hlines]
    rfl

theorem isCommented_assignment (site : CallSite) (name : Text) :
    (site.assignment name).isCommented = (site.settings.get? name).any Setting.isCommented := by
  rw [assignment]
  cases site.settings.get? name <;> rfl

theorem filter_assignments {p : Assignment → Bool} {q : Text → Bool}
    (h : ∀ name, p (site.assignment name) = q name) (names : List Text) :
    (names.map site.assignment).filter p = (names.filter q).map site.assignment := by
  rw [List.filter_map]
  exact congrArg _ (List.filter_congr fun name _ => h name)

/-- A group is written in the order of its plan. -/
theorem ordered_assignments (hsite : site ∈ (Content.ofText t).callSites.values)
    (names : List Text) : AssignmentGroup.ordered (names.map site.assignment) =
      (site.writtenOrder names).map site.assignment := by
  have hlive : ∀ name, (site.assignment name).isLive =
      (site.settings.get? name).any fun s => !s.isCommented := by
    intro name
    rw [Assignment.isLive, isEmpty_lines_assignment hsite, isCommented_assignment]
    cases site.settings.get? name <;> simp
  have hpass : ∀ name, (site.assignment name).isPassThrough =
      (site.settings.get? name).isNone := by
    intro name
    rw [Assignment.isPassThrough, isEmpty_lines_assignment hsite, isCommented_assignment]
    cases site.settings.get? name <;> simp
  rw [AssignmentGroup.ordered, filter_assignments hlive, filter_assignments hpass,
    filter_assignments (isCommented_assignment site), writtenOrder, List.map_append,
    List.map_append]

/-- The lines of an assignment are those of its variable. -/
theorem exists_writesEntry (hsite : site ∈ (Content.ofText t).callSites.values) (name : Text)
    (width : Nat) : ∃ ls, site.WritesEntry name ls ∧
      decide (1 < ls.length) = (site.assignment name).isMultiLine ∧
      ∀ b, Page.layoutFrom b ((site.assignment name).page width) = ls := by
  obtain ⟨pad, hpad, hlayout⟩ := (spaced_assignment hsite name).exists_layoutFrom_page width
  refine ⟨_, ?_, ?_, hlayout⟩
  · rcases hs : site.settings.get? name with _ | s
    · have hwrites := WritesEntry.passThrough hpad hs
      rw [assignment, hs]
      simpa [Assignment.ofSetting?, Entry.written, Assignment.displayName] using hwrites
    · obtain ⟨first, further, hlines, -⟩ := (Content.noted_ofText hsite hs).lines
      have hwrites := WritesEntry.recorded hpad hs hlines
      rw [assignment, hs]
      cases hcommented : s.isCommented with
      | true =>
        rw [hcommented] at hwrites
        simpa [Assignment.ofSetting?, Entry.written, Assignment.displayName, hlines, hcommented]
          using hwrites
      | false =>
        rw [hcommented] at hwrites
        simpa [Assignment.ofSetting?, Entry.written, Assignment.displayName, hlines, hcommented]
          using hwrites
  · rw [Assignment.isMultiLine]
    rcases (site.assignment name).lines with _ | ⟨first, further⟩ <;> rfl

theorem writesRows (hsite : site ∈ (Content.ofText t).callSites.values) (names : List Text)
    (width : Bool → Nat) (b : Bool) : site.WritesRows names
      (Page.layoutFrom b (AssignmentGroup.rows width (names.map site.assignment))) := by
  induction names generalizing b with
  | nil =>
    rw [List.map_nil, AssignmentGroup.rows, Page.layoutFrom_nil]
    exact .nil
  | cons name names ih =>
    obtain ⟨ls, hentry, hmulti, hlayout⟩ :=
      exists_writesEntry hsite name (width (site.assignment name).isCommented)
    rw [List.map_cons, AssignmentGroup.layoutFrom_rows_cons (spaced_assignment hsite name).last,
      hlayout, ← hmulti, List.isEmpty_map]
    exact .cons hentry (ih _)

theorem writesGroup (hsite : site ∈ (Content.ofText t).callSites.values) {g : PlannedGroup}
    (hg : g.names ≠ []) : site.WritesGroup g (site.group g).page.layout := by
  have hne : (site.group g).assignments.isEmpty = false := by
    simpa [group] using hg
  have hordered : AssignmentGroup.ordered (site.group g).assignments =
      (site.writtenOrder g.names).map site.assignment := ordered_assignments hsite g.names
  have hrows := writesRows hsite (site.writtenOrder g.names)
    (AssignmentGroup.width (site.group g).assignments)
  rw [AssignmentGroup.page, hne, if_neg Bool.false_ne_true, hordered, Page.layout,
    Page.layoutFrom_append, AssignmentGroup.layoutFrom_front]
  exact ⟨_, hrows _, rfl⟩

/-- The groups of a plan that have variables are written one behind the other. -/
theorem exists_blocks (hsite : site ∈ (Content.ofText t).callSites.values)
    (gs : List PlannedGroup) : ∃ blocks,
      List.Forall₂ site.WritesGroup (gs.filter fun g => !g.names.isEmpty) blocks ∧
      (gs.flatMap fun g => (site.group g).page.layout) = blocks.flatten := by
  induction gs with
  | nil => exact ⟨[], .nil, rfl⟩
  | cons g gs ih =>
    obtain ⟨blocks, hblocks, hlayout⟩ := ih
    rw [List.flatMap_cons, hlayout]
    by_cases hg : g.names = []
    · refine ⟨blocks, ?_, ?_⟩
      · simpa [hg] using hblocks
      · rw [group, hg]
        rfl
    · refine ⟨(site.group g).page.layout :: blocks, ?_, rfl⟩
      rw [List.filter_cons_of_pos (by simpa using hg)]
      exact .cons (writesGroup hsite hg) hblocks

/-- **Assignments follow the plan.**  For every call site of a text and all variable files, the
lines that are written for the call site are those of the groups of its plan that have
variables, one group behind the other.  Over all groups the variables are distinct, and they are
those that the files declare and the call site does not reserve, and those with a value given
by hand that no file declares. -/
theorem page_follows_plan {t : Text} {site : CallSite}
    (hsite : site ∈ (Content.ofText t).callSites.values) (fs : List VariableFile) :
    (∃ blocks, List.Forall₂ site.WritesGroup
        ((site.plan fs).filter fun g => !g.names.isEmpty) blocks ∧
      (site.page fs).layout = blocks.flatten) ∧
    ((site.plan fs).flatMap PlannedGroup.names).Nodup ∧
    ∀ name, name ∈ (site.plan fs).flatMap PlannedGroup.names ↔
      DeclaredIn fs name ∧ name ∉ site.reserved ∨
        ¬DeclaredIn fs name ∧ ∃ s, site.settings.get? name = some s ∧ s.isCustom = true := by
  refine ⟨?_, ?_, fun name => ?_⟩
  · have hlayout : (site.page fs).layout =
        (site.plan fs).flatMap fun g => (site.group g).page.layout := by
      rw [page, Page.layout_flatMap fun _ hg =>
        AssignmentGroup.endsBlank_page (spaced_of_mem_groups hsite hg), groups_eq_plan hsite,
        List.flatMap_map]
    rw [hlayout]
    exact exists_blocks hsite _
  · rw [← map_name_plan hsite]
    exact nodup_names_assignments site fs
  · rw [← map_name_plan hsite, mem_names_assignments]
    by_cases hdeclared : DeclaredIn fs name
    · refine ⟨fun h => .inl ⟨hdeclared, ?_⟩, fun h => h.imp id And.right⟩
      rcases h with ⟨-, hfree⟩ | ⟨s, hs, hcustom⟩
      · exact hfree
      · exact not_mem_reserved hsite hs hcustom
    · simp [hdeclared]

/-- A variable that two files declare, one that is commented out, and a value on several lines
for one that no file declares. -/
theorem page_follows_plan_network :
    let t : Text := ("module \"network\" \x7b\n  cidr = 1\n  # zone = 2\n  old = [\n    3\n" ++
      "  ]\n\x7d\n").toList
    let fs := (ModuleFiles.ofTexts [("network".toList, [
      ("variables.tf".toList, "variable \"zone\" \x7b\x7d\nvariable \"size\" \x7b\x7d\n".toList),
      ("variables-lan.tf".toList,
        "variable \"cidr\" \x7b\x7d\nvariable \"size\" \x7b\x7d\n".toList)])]).of "network".toList
    ∃ site ∈ (Content.ofText t).callSites.values,
      (site.plan fs = [
        { label := none, names := ["zone".toList, "size".toList] },
        { label := some "lan".toList, names := ["cidr".toList] },
        { label := none, names := ["old".toList] }]) ∧
      ∃ blocks, List.Forall₂ site.WritesGroup (site.plan fs) blocks ∧
        (site.page fs).layout = blocks.flatten := by
  intro t fs
  have hfound : ∃ site ∈ (Content.ofText t).callSites.values, site.plan fs = [
      { label := none, names := ["zone".toList, "size".toList] },
      { label := some "lan".toList, names := ["cidr".toList] },
      { label := none, names := ["old".toList] }] := by
    decide
  obtain ⟨site, hsite, hplan⟩ := hfound
  obtain ⟨blocks, hblocks, hlayout⟩ := (page_follows_plan hsite fs).1
  have hall : (site.plan fs).filter (fun g => !g.names.isEmpty) = site.plan fs := by
    rw [hplan]
    rfl
  rw [hall] at hblocks
  exact ⟨site, hsite, hplan, blocks, hblocks, hlayout⟩

end CallSite

end ModuleWiring

/-
Which assignments a call site gets.

The groups are made file by file, each leaving out what an earlier one has assigned, and
the last one takes what is left of the values given by hand.  Over all groups no variable
is assigned twice, and whether one is assigned does not depend on the order of the files:

* `assignments` — the assignments over all groups;
* `eq_assignment_of_mem` — each is what the call site says of its variable;
* `infix_page` — each is written on the page of its group;
* `mem_names_assignments`, `nodup_names_assignments` — the variables that are assigned.
-/
import ModuleWiring.Assignment
import ModuleWiring.Proofs.OrderedMap

namespace ModuleWiring

/-- Whether one of some variable files declares a variable. -/
def DeclaredIn (fs : List VariableFile) (name : Text) : Prop :=
  ∃ file ∈ fs, name ∈ file.content.declarations.keys

/-- Assignments in order, some of them left out or moved, are the same assignments. -/
theorem AssignmentGroup.perm_ordered (as : List Assignment) : (ordered as).Perm as := by
  induction as with
  | nil => exact .nil
  | cons a as ih =>
    -- an assignment is of just one of the three kinds
    rcases hc : a.isCommented with _ | _ <;> rcases hl : a.lines.isEmpty with _ | _ <;>
      simp only [ordered, List.filter_cons, Assignment.isLive, Assignment.isPassThrough, hc, hl,
        Bool.not_false, Bool.not_true, Bool.and_true, Bool.and_false, Bool.false_eq_true, if_true,
        if_false]
    · exact ih.cons a
    · rw [List.append_assoc, List.cons_append]
      refine List.perm_middle.trans ((?_ : List.Perm _ _).cons a)
      rw [← List.append_assoc]
      exact ih
    · exact List.perm_middle.trans (ih.cons a)
    · exact List.perm_middle.trans (ih.cons a)

namespace AssignmentGroup

theorem infix_rows {as : List Assignment} {a : Assignment} (ha : a ∈ as) (width : Bool → Nat) :
    a.page (width a.isCommented) <:+: rows width as := by
  induction as with
  | nil => simp at ha
  | cons b as ih =>
    rw [rows]
    rcases List.mem_cons.mp ha with rfl | ha
    · rw [List.append_assoc]
      exact (List.prefix_append _ _).isInfix
    · exact (ih ha).trans (List.suffix_append _ _).isInfix

/-- What is written for an assignment stands on the page of its group. -/
theorem infix_page {g : AssignmentGroup} {a : Assignment} (ha : a ∈ g.assignments) :
    a.page (width g.assignments a.isCommented) <:+: g.page := by
  have hne : g.assignments.isEmpty = false := by
    rw [List.isEmpty_eq_false_iff]
    exact List.ne_nil_of_mem ha
  rw [page, hne, if_neg Bool.false_ne_true]
  exact (infix_rows ((perm_ordered g.assignments).mem_iff.mpr ha) _).trans
    (List.suffix_append _ _).isInfix

end AssignmentGroup

namespace CallSite

variable {site : CallSite} {assigned : List Text} {fs : List VariableFile} {name : Text}

/-- The assignment of a variable, given what a call site says of it. -/
def assignment (site : CallSite) (name : Text) : Assignment :=
  .ofSetting? name (site.settings.get? name)

/-- The assignments over all groups that are left. -/
def assignmentsFrom (site : CallSite) (assigned : List Text) (fs : List VariableFile) :
    List Assignment :=
  (site.groupsFrom assigned fs).flatMap AssignmentGroup.assignments

/-- The assignments over all groups. -/
def assignments (site : CallSite) (fs : List VariableFile) : List Assignment :=
  site.assignmentsFrom [] fs

@[simp] theorem name_ofSetting? (name : Text) (s : Option Setting) :
    (Assignment.ofSetting? name s).name = name := by
  cases s <;> rfl

@[simp] theorem name_assignment (site : CallSite) (name : Text) :
    (site.assignment name).name = name :=
  name_ofSetting? name _

theorem map_name_assignment (site : CallSite) (names : List Text) :
    (names.map site.assignment).map Assignment.name = names := by
  rw [List.map_map]
  exact List.map_id'' (name_assignment site) names

theorem assignmentsFrom_cons {file : VariableFile} :
    site.assignmentsFrom assigned (file :: fs) =
      (site.unassigned assigned file).map site.assignment ++
        site.assignmentsFrom (assigned ++ site.unassigned assigned file) fs := by
  rw [assignmentsFrom, groupsFrom, List.flatMap_cons]
  rfl

theorem assignmentsFrom_nil : site.assignmentsFrom assigned [] =
    (site.leftovers assigned).assignments := by
  simp [assignmentsFrom, groupsFrom]

theorem mem_unassigned {file : VariableFile} : name ∈ site.unassigned assigned file ↔
    name ∈ file.content.declarations.keys ∧ name ∉ site.reserved ∧ name ∉ assigned := by
  rw [unassigned, List.mem_filter, Bool.and_eq_true, Bool.not_eq_true', Bool.not_eq_true',
    ← Bool.not_eq_true, ← Bool.not_eq_true, NameSet.contains_iff, List.contains_iff_mem]

theorem mem_names_leftovers :
    name ∈ (site.leftovers assigned).assignments.map Assignment.name ↔
      name ∉ assigned ∧ ∃ s, site.settings.get? name = some s ∧ s.isCustom = true := by
  simp only [leftovers, List.mem_map, List.mem_filter, Bool.and_eq_true, Bool.not_eq_true',
    ← Bool.not_eq_true, List.contains_iff_mem, OrderedMap.get?_eq_some_iff]
  constructor
  · rintro ⟨a, ⟨⟨key, s⟩, ⟨hs, hcustom, hnot⟩, rfl⟩, rfl⟩
    rw [name_ofSetting?]
    exact ⟨hnot, s, hs, hcustom⟩
  · rintro ⟨hnot, s, hs, hcustom⟩
    exact ⟨_, ⟨(name, s), ⟨hs, hcustom, hnot⟩, rfl⟩, name_ofSetting? name _⟩

theorem names_leftovers_sublist :
    ((site.leftovers assigned).assignments.map Assignment.name).Sublist site.settings.keys := by
  have hnames : (site.leftovers assigned).assignments.map Assignment.name =
      (site.settings.entries.filter fun e =>
        e.2.isCustom && !assigned.contains e.1).map Prod.fst := by
    rw [leftovers, List.map_map]
    exact List.map_congr_left fun e _ => name_ofSetting? _ _
  rw [hnames]
  exact List.filter_sublist.map _

/-- Every assignment is what the call site says of its variable. -/
theorem eq_assignment_of_mem {a : Assignment} (h : a ∈ site.assignmentsFrom assigned fs) :
    a = site.assignment a.name := by
  induction fs generalizing assigned with
  | nil =>
    rw [assignmentsFrom_nil, leftovers] at h
    obtain ⟨⟨key, s⟩, hs, rfl⟩ := List.mem_map.mp h
    have hget := OrderedMap.get?_eq_some_iff.mpr (List.mem_filter.mp hs).1
    rw [name_ofSetting?, assignment, hget]
  | cons file fs ih =>
    rw [assignmentsFrom_cons] at h
    rcases List.mem_append.mp h with h | h
    · obtain ⟨name, -, rfl⟩ := List.mem_map.mp h
      rw [name_assignment]
    · exact ih h

theorem mem_names_assignmentsFrom :
    name ∈ (site.assignmentsFrom assigned fs).map Assignment.name ↔ name ∉ assigned ∧
      (DeclaredIn fs name ∧ name ∉ site.reserved ∨
        ∃ s, site.settings.get? name = some s ∧ s.isCustom = true) := by
  induction fs generalizing assigned with
  | nil =>
    rw [assignmentsFrom_nil, mem_names_leftovers]
    simp [DeclaredIn]
  | cons file fs ih =>
    have hdeclared : DeclaredIn (file :: fs) name ↔
        name ∈ file.content.declarations.keys ∨ DeclaredIn fs name := by
      simp [DeclaredIn]
    rw [assignmentsFrom_cons, List.map_append, List.mem_append, map_name_assignment, ih,
      mem_unassigned, hdeclared, List.mem_append, mem_unassigned]
    -- the file at hand gets the variable, or it has no say in it
    by_cases hassigned : name ∈ assigned
    · simp [hassigned]
    by_cases hfile : name ∈ file.content.declarations.keys ∧ name ∉ site.reserved
    · simp [hassigned, hfile.1, hfile.2]
    · have hkeys : name ∉ site.reserved → name ∉ file.content.declarations.keys :=
        fun hr hk => hfile ⟨hk, hr⟩
      by_cases hreserved : name ∈ site.reserved
      · simp [hassigned, hreserved]
      · simp [hassigned, hreserved, hkeys hreserved]

/-- No variable is assigned twice. -/
theorem nodup_names_assignmentsFrom (site : CallSite) (assigned : List Text)
    (fs : List VariableFile) :
    ((site.assignmentsFrom assigned fs).map Assignment.name).Nodup := by
  induction fs generalizing assigned with
  | nil =>
    rw [assignmentsFrom_nil]
    exact site.settings.nodup_keys.sublist names_leftovers_sublist
  | cons file fs ih =>
    rw [assignmentsFrom_cons, List.map_append, map_name_assignment]
    refine List.nodup_append.mpr ⟨?_, ih _, ?_⟩
    · exact file.content.declarations.nodup_keys.sublist List.filter_sublist
    · rintro a ha b hb rfl
      exact (mem_names_assignmentsFrom.mp hb).1 (List.mem_append_right assigned ha)

theorem mem_names_assignments : name ∈ (site.assignments fs).map Assignment.name ↔
    DeclaredIn fs name ∧ name ∉ site.reserved ∨
      ∃ s, site.settings.get? name = some s ∧ s.isCustom = true := by
  rw [assignments, mem_names_assignmentsFrom]
  simp

theorem nodup_names_assignments (site : CallSite) (fs : List VariableFile) :
    ((site.assignments fs).map Assignment.name).Nodup :=
  nodup_names_assignmentsFrom site [] fs

theorem mem_assignments {a : Assignment} : a ∈ site.assignments fs ↔
    a = site.assignment a.name ∧ a.name ∈ (site.assignments fs).map Assignment.name := by
  constructor
  · intro h
    exact ⟨eq_assignment_of_mem h, List.mem_map_of_mem h⟩
  · rintro ⟨ha, hname⟩
    obtain ⟨b, hb, hba⟩ := List.mem_map.mp hname
    rw [ha, ← hba, ← eq_assignment_of_mem hb]
    exact hb

end CallSite

end ModuleWiring

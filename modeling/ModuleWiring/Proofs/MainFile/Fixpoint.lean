/-
Assignments that are written anew do not change any more.

A call site that is read with its assignments written anew is written as before: the files
get the same assignments, and what is left for the last group is what was left before, in
the order in which it has been written.

* `groupsFrom_eq` — the groups of the files, and the last group;
* `leftovers_rewired` — the last group of a rewired call site;
* `page_rewired` — a rewired call site has the same page;
* `render_rewired` — and a main file the same text.
-/
import ModuleWiring.Proofs.MainFile.RoundTrip

namespace ModuleWiring

/-! ### The order of a group -/

namespace AssignmentGroup

theorem filter_filter_of_exclusive {p q : Assignment → Bool} (h : ∀ a, (p a && q a) = false)
    (as : List Assignment) : (as.filter q).filter p = [] := by
  rw [List.filter_filter, List.filter_eq_nil_iff]
  intro a _
  rw [h]
  exact Bool.false_ne_true

/-- No assignment is of two kinds, so putting them in order again changes nothing. -/
theorem ordered_ordered (as : List Assignment) : ordered (ordered as) = ordered as := by
  have hsame : ∀ p : Assignment → Bool, (as.filter p).filter p = as.filter p := by
    simp [List.filter_filter]
  have hlive : ∀ a : Assignment, (a.isLive && a.isPassThrough) = false := by
    intro a
    cases hl : a.lines.isEmpty <;> simp [Assignment.isLive, Assignment.isPassThrough, hl]
  have hpass : ∀ a : Assignment, (a.isPassThrough && a.isCommented) = false := by
    intro a
    cases hc : a.isCommented <;> simp [Assignment.isPassThrough, hc]
  have hcommented : ∀ a : Assignment, (a.isCommented && a.isLive) = false := by
    intro a
    cases hc : a.isCommented <;> simp [Assignment.isLive, hc]
  have swap : ∀ {p q : Assignment → Bool}, (∀ a, (p a && q a) = false) →
      ∀ a, (q a && p a) = false := fun h a => (Bool.and_comm _ _).trans (h a)
  simp only [ordered, List.filter_append, hsame, filter_filter_of_exclusive hlive,
    filter_filter_of_exclusive hpass, filter_filter_of_exclusive hcommented,
    filter_filter_of_exclusive (swap hlive), filter_filter_of_exclusive (swap hpass),
    filter_filter_of_exclusive (swap hcommented), List.append_nil, List.nil_append]

theorem width_perm {as bs : List Assignment} (h : as.Perm bs) (isCommented : Bool) :
    width as isCommented = width bs isCommented := by
  have hmax : RightCommutative (max : Nat → Nat → Nat) := ⟨fun a b c => by omega⟩
  exact ((h.filter _).map _).foldl_eq 0

/-- A group whose assignments are in order is written as before. -/
theorem page_ordered (as : List Assignment) :
    page { label := none, assignments := ordered as } =
      page { label := none, assignments := as } := by
  -- whether a group is empty and how wide it is do not depend on the order
  have hperm := perm_ordered as
  have hempty : (ordered as).isEmpty = as.isEmpty := by
    rw [Bool.eq_iff_iff, List.isEmpty_iff, List.isEmpty_iff]
    constructor
    · intro h
      exact List.nil_perm.mp (h ▸ hperm)
    · rintro rfl
      rfl
  have hwidth : width (ordered as) = width as := funext fun c => width_perm hperm c
  simp only [page, hempty, hwidth, ordered_ordered]

end AssignmentGroup

namespace CallSite

variable {site : CallSite} {assigned : List Text} {fs : List VariableFile}

/-- The groups of the files, without the last one. -/
def fileGroups (site : CallSite) : (assigned : List Text) → List VariableFile →
    List AssignmentGroup
  | _, [] => []
  | assigned, file :: files =>
    { label := VariableFile.label? file.name
      assignments := (site.unassigned assigned file).map site.assignment } ::
      fileGroups site (assigned ++ site.unassigned assigned file) files

/-- The variables that are assigned once all files have had their turn. -/
def assignedBy (site : CallSite) : (assigned : List Text) → List VariableFile → List Text
  | assigned, [] => assigned
  | assigned, file :: files => assignedBy site (assigned ++ site.unassigned assigned file) files

theorem groupsFrom_eq : site.groupsFrom assigned fs =
    site.fileGroups assigned fs ++ [site.leftovers (site.assignedBy assigned fs)] := by
  induction fs generalizing assigned with
  | nil => rfl
  | cons file fs ih =>
    rw [groupsFrom, fileGroups, assignedBy, List.cons_append, ih]
    rfl

theorem mem_assignedBy {name : Text} (h : name ∈ assigned) :
    name ∈ site.assignedBy assigned fs := by
  induction fs generalizing assigned with
  | nil => exact h
  | cons file fs ih =>
    rw [assignedBy]
    exact ih (List.mem_append_left _ h)

theorem name_mem_assignedBy {g : AssignmentGroup} (hg : g ∈ site.fileGroups assigned fs)
    {a : Assignment} (ha : a ∈ g.assignments) : a.name ∈ site.assignedBy assigned fs := by
  induction fs generalizing assigned with
  | nil => simp [fileGroups] at hg
  | cons file fs ih =>
    rw [fileGroups] at hg
    rw [assignedBy]
    rcases List.mem_cons.mp hg with rfl | hg
    · obtain ⟨name, hname, rfl⟩ := List.mem_map.mp ha
      rw [name_assignment]
      exact mem_assignedBy (List.mem_append_right _ hname)
    · exact ih hg

/-- The groups of the files depend on what the call site reserves and on what it says of
the variables that the files declare. -/
theorem fileGroups_congr {site' : CallSite} (hreserved : site'.reserved = site.reserved)
    (hsettings : ∀ name, DeclaredIn fs name → name ∉ site.reserved →
      site'.settings.get? name = site.settings.get? name) :
    site'.fileGroups assigned fs = site.fileGroups assigned fs ∧
      site'.assignedBy assigned fs = site.assignedBy assigned fs := by
  induction fs generalizing assigned with
  | nil => exact ⟨rfl, rfl⟩
  | cons file fs ih =>
    have hnames : site'.unassigned assigned file = site.unassigned assigned file := by
      rw [unassigned, unassigned, hreserved]
    have hassignments : (site.unassigned assigned file).map site'.assignment =
        (site.unassigned assigned file).map site.assignment := by
      refine List.map_congr_left fun name hname => ?_
      obtain ⟨hkey, hnot, -⟩ := mem_unassigned.mp hname
      rw [assignment, assignment, hsettings name ⟨file, List.mem_cons_self, hkey⟩ hnot]
    have hrest : ∀ name, DeclaredIn fs name → name ∉ site.reserved →
        site'.settings.get? name = site.settings.get? name := by
      rintro name ⟨file', hfile', hkey⟩ hnot
      exact hsettings name ⟨file', List.mem_cons_of_mem file hfile', hkey⟩ hnot
    rw [fileGroups, fileGroups, assignedBy, assignedBy, hnames, hassignments, (ih hrest).1,
      (ih hrest).2]
    exact ⟨rfl, rfl⟩

theorem written_eq : site.written fs =
    (site.fileGroups [] fs).flatMap (fun g => AssignmentGroup.ordered g.assignments) ++
      AssignmentGroup.ordered (site.leftovers (site.assignedBy [] fs)).assignments := by
  rw [written, groups, groupsFrom_eq, List.flatMap_append]
  simp

/-- What entries leave for the last group. -/
def leftoversOf (assigned : List Text) (entries : List (Text × Setting)) : List Assignment :=
  (entries.filter fun e => e.2.isCustom && !assigned.contains e.1).map fun e =>
    Assignment.ofSetting? e.1 (some e.2)

theorem assignments_leftovers (site : CallSite) (assigned : List Text) :
    (site.leftovers assigned).assignments = leftoversOf assigned site.settings.entries := rfl

theorem leftoversOf_append (assigned : List Text) (xs ys : List (Text × Setting)) :
    leftoversOf assigned (xs ++ ys) = leftoversOf assigned xs ++ leftoversOf assigned ys := by
  simp [leftoversOf]

/-- Assignments of variables that have been assigned leave nothing. -/
theorem leftoversOf_assigned {as : List Assignment} (h : ∀ a ∈ as, a.name ∈ assigned) :
    leftoversOf assigned (as.filterMap Assignment.entry?) = [] := by
  rw [leftoversOf, List.map_eq_nil_iff, List.filter_eq_nil_iff]
  intro e he
  obtain ⟨a, ha, hentry⟩ := List.mem_filterMap.mp he
  obtain ⟨s, -, rfl⟩ := Option.map_eq_some_iff.mp hentry
  simp [h a ha]

/-- Assignments that have been left are left again. -/
theorem leftoversOf_left {as : List Assignment} (h : ∀ a ∈ as, ∃ s, a.setting? = some s ∧
      s.isCustom = true ∧ a.name ∉ assigned ∧ Assignment.ofSetting? a.name (some s) = a) :
    leftoversOf assigned (as.filterMap Assignment.entry?) = as := by
  induction as with
  | nil => rfl
  | cons a as ih =>
    obtain ⟨s, hs, hcustom, hnot, heq⟩ := h a List.mem_cons_self
    have hentry : a.entry? = some (a.name, s) := by rw [Assignment.entry?, hs, Option.map_some]
    rw [List.filterMap_cons_some hentry, ← List.singleton_append, leftoversOf_append,
      ih fun a' ha' => h a' (List.mem_cons_of_mem a ha')]
    simp [leftoversOf, hcustom, hnot, heq]

theorem Sound.left_of_mem_leftovers (h : site.Sound) {a : Assignment}
    (ha : a ∈ (site.leftovers assigned).assignments) : ∃ s, a.setting? = some s ∧
      s.isCustom = true ∧ a.name ∉ assigned ∧ Assignment.ofSetting? a.name (some s) = a := by
  obtain ⟨⟨name, s⟩, he, rfl⟩ := List.mem_map.mp
    (assignments_leftovers site assigned ▸ ha)
  obtain ⟨hentry, hp⟩ := List.mem_filter.mp he
  have hget : site.settings.get? name = some s := OrderedMap.get?_eq_some_iff.mpr hentry
  have hassignment : Assignment.ofSetting? name (some s) = site.assignment name := by
    rw [assignment, hget]
  rw [Bool.and_eq_true, Bool.not_eq_true', ← Bool.not_eq_true, List.contains_iff_mem] at hp
  refine ⟨s, ?_, hp.1, ?_, ?_⟩
  · rw [hassignment, h.setting?_assignment, hget]
  · rw [name_ofSetting?]
    exact hp.2
  · rw [name_ofSetting?]

/-- What is left for the last group of a rewired call site. -/
theorem Sound.leftovers_rewired (h : site.Sound) :
    ((site.rewired fs).leftovers (site.assignedBy [] fs)).assignments =
      AssignmentGroup.ordered (site.leftovers (site.assignedBy [] fs)).assignments := by
  have hentries : (site.rewired fs).settings.entries = site.writtenSettings fs :=
    OrderedMap.entries_ofList (nodup_writtenSettings site fs)
  have hfiles : ∀ a ∈ (site.fileGroups [] fs).flatMap
      (fun g => AssignmentGroup.ordered g.assignments), a.name ∈ site.assignedBy [] fs := by
    intro a ha
    obtain ⟨g, hg, hmem⟩ := List.mem_flatMap.mp ha
    exact name_mem_assignedBy hg ((AssignmentGroup.perm_ordered _).mem_iff.mp hmem)
  -- settings that the files have taken leave nothing, those left before are left again
  rw [assignments_leftovers, hentries, writtenSettings, written_eq, List.filterMap_append,
    leftoversOf_append, leftoversOf_assigned hfiles, List.nil_append]
  exact leftoversOf_left fun a ha =>
    h.left_of_mem_leftovers ((AssignmentGroup.perm_ordered _).mem_iff.mp ha)

/-- A rewired call site has the same page. -/
theorem Sound.page_rewired (h : site.Sound) (fs : List VariableFile) :
    (site.rewired fs).page fs = site.page fs := by
  have hsettings : ∀ name, DeclaredIn fs name → name ∉ site.reserved →
      (site.rewired fs).settings.get? name = site.settings.get? name :=
    fun _ hdeclared hnot => h.get?_rewired_of_declared hdeclared hnot
  obtain ⟨hgroups, hassigned⟩ : (site.rewired fs).fileGroups [] fs = site.fileGroups [] fs ∧
      (site.rewired fs).assignedBy [] fs = site.assignedBy [] fs := fileGroups_congr rfl hsettings
  -- only the last group changes, and it is put in the order that it is written in
  have hlast := AssignmentGroup.page_ordered (site.leftovers (site.assignedBy [] fs)).assignments
  rw [← h.leftovers_rewired] at hlast
  rw [page, page, groups, groups, groupsFrom_eq, groupsFrom_eq, hgroups, hassigned,
    List.flatMap_append, List.flatMap_append]
  congr 1
  rw [List.flatMap_singleton, List.flatMap_singleton]
  exact hlast

end CallSite

namespace MainFile

variable {t : Text} {files : ModuleFiles}

theorem endingCallSite?_rewired (c : Content) (l : Line) :
    endingCallSite? (c.rewired files) l = (endingCallSite? c l).map (rewire files) := by
  rw [endingCallSite?, endingCallSite?]
  rcases l.closes with _ | ⟨kind, name⟩
  · rfl
  · cases kind with
    | callSite =>
      rcases hget : c.callSites.get? name with _ | site <;>
        simp [Content.block?, Content.rewired, hget]
    | declaration =>
      rcases hget : c.declarations.get? name with _ | d <;>
        simp [Content.block?, Content.rewired, hget]

/-- A main file whose assignments are written anew is written as before. -/
theorem render_rewired (ht : t.Regular) (hf : files.Assignable) :
    render ((Content.ofText t).rewired files) files = render (Content.ofText t) files := by
  rw [render, render, page, page]
  congr 1
  refine List.flatMap_congr fun l hl => ?_
  rw [linePage, linePage, endingCallSite?_rewired]
  rcases hend : endingCallSite? (Content.ofText t) l with _ | site
  · rfl
  · have hsound := sound_callSites ht hf site (mem_values_of_endingCallSite? hend)
    have hpage := hsound.page_rewired (files.of site.name)
    rw [Option.map_some]
    exact congrArg _ hpage

end MainFile

end ModuleWiring

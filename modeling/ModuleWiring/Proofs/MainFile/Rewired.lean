/-
Call sites whose assignments are written anew.

What a reading makes of the assignments that are written in a call site is known without
reading them: the settings that are written, in the order in which they stand.

* `rewired` — a call site with these settings;
* `get?_rewired` — they are the settings of the call site, less the commented assignments
  `v = var.v` that have no place any more;
* `foldl_assign` — reading the assignments gives the rewired call site.
-/
import Mathlib.Data.List.Perm.Basic
import ModuleWiring.Proofs.MainFile.CallSitePage

namespace ModuleWiring

open Reading

/-- Whether all settings of a call site are noted as they should be, and read as written. -/
structure CallSite.Sound (site : CallSite) : Prop where
  noted : ∀ e ∈ site.settings.entries, e.2.Noted e.1
  replays : ∀ e ∈ site.settings.entries, e.2.Replays e.1

/-- A variable that is passed through in a comment refers to nothing. -/
theorem Setting.Noted.references_eq_nil {name : Text} {s : Setting} (h : s.Noted name)
    (hc : s.isCustom = false) : s.references = [] := by
  obtain ⟨first, further, hlines, -, -, -, -, hfurther⟩ := h.lines
  rw [references, hlines, hfurther hc, hc]
  rfl

namespace CallSite

variable {site : CallSite} {fs : List VariableFile} {name : Text} {s : Setting}

/-- The settings that are written in a call site, in their order. -/
def writtenSettings (site : CallSite) (fs : List VariableFile) : List (Text × Setting) :=
  (site.written fs).filterMap Assignment.entry?

/-- A call site as it is read once its assignments are written anew. -/
def rewired (site : CallSite) (fs : List VariableFile) : CallSite :=
  { site with settings := .ofList (site.writtenSettings fs) }

theorem written_perm (site : CallSite) (fs : List VariableFile) :
    (site.written fs).Perm (site.assignments fs) :=
  List.Perm.flatMap_left _ fun g _ => AssignmentGroup.perm_ordered g.assignments

theorem Sound.setting?_assignment (h : site.Sound) (name : Text) :
    (site.assignment name).setting? = site.settings.get? name := by
  rw [assignment]
  rcases hget : site.settings.get? name with _ | s
  · rfl
  · obtain ⟨first, further, hlines, -, -, hcustom, -⟩ :=
      (h.noted _ (OrderedMap.get?_eq_some_iff.mp hget)).lines
    have hs : s = { isCommented := s.isCommented, isCustom := first != passThrough name,
                    lines := s.lines } := by
      rw [← hcustom]
    rw [Assignment.setting?, Assignment.ofSetting?, hlines]
    simp only [Option.some.injEq]
    rw [hs, hlines]

theorem Sound.setting?_of_mem_written (h : site.Sound) {a : Assignment}
    (ha : a ∈ site.written fs) : a.setting? = site.settings.get? a.name := by
  rw [← h.setting?_assignment, ← eq_assignment_of_mem ((site.written_perm fs).mem_iff.mp ha)]

/-- What is written: the settings of variables that the files declare and the call site does
not reserve, and all values given by hand. -/
theorem Sound.mem_writtenSettings (h : site.Sound) : (name, s) ∈ site.writtenSettings fs ↔
    site.settings.get? name = some s ∧
      (DeclaredIn fs name ∧ name ∉ site.reserved ∨ s.isCustom = true) := by
  simp only [writtenSettings, List.mem_filterMap, Assignment.entry?, (site.written_perm fs).mem_iff,
    Option.map_eq_some_iff, Prod.mk.injEq]
  constructor
  · rintro ⟨a, ha, s', hs, rfl, rfl⟩
    have hget : site.settings.get? a.name = some s' := by
      rw [← h.setting?_assignment, ← eq_assignment_of_mem ha]
      exact hs
    refine ⟨hget, (mem_names_assignments.mp (List.mem_map_of_mem ha)).imp id ?_⟩
    rintro ⟨s, hs, hcustom⟩
    rw [hget, Option.some.injEq] at hs
    exact hs ▸ hcustom
  · rintro ⟨hget, hwritten⟩
    have hname : name ∈ (site.assignments fs).map Assignment.name :=
      mem_names_assignments.mpr (hwritten.imp id fun hc => ⟨s, hget, hc⟩)
    refine ⟨site.assignment name, ?_, s, ?_, name_assignment site name, rfl⟩
    · rw [mem_assignments, name_assignment]
      exact ⟨rfl, hname⟩
    · rw [h.setting?_assignment, hget]

theorem nodup_writtenSettings (site : CallSite) (fs : List VariableFile) :
    ((site.writtenSettings fs).map Prod.fst).Nodup := by
  have hnames : ((site.written fs).map Assignment.name).Nodup :=
    ((site.written_perm fs).map _).nodup_iff.mpr (site.nodup_names_assignments fs)
  -- some assignments are no settings, the others keep their order
  refine hnames.sublist ?_
  rw [writtenSettings]
  induction site.written fs with
  | nil => exact .slnil
  | cons a as ih =>
    rcases hs : a.setting? with _ | s
    · simpa [Assignment.entry?, hs] using ih.cons a.name
    · simpa [Assignment.entry?, hs] using ih.cons_cons a.name

/-- The settings of a rewired call site. -/
theorem Sound.get?_rewired (h : site.Sound) : (site.rewired fs).settings.get? name = some s ↔
    site.settings.get? name = some s ∧
      (DeclaredIn fs name ∧ name ∉ site.reserved ∨ s.isCustom = true) := by
  rw [OrderedMap.get?_eq_some_iff, rewired,
    OrderedMap.entries_ofList (nodup_writtenSettings site fs)]
  exact h.mem_writtenSettings

/-- What a call site says of a variable that it is asked for stays the same. -/
theorem Sound.get?_rewired_of_declared (h : site.Sound) (hdeclared : DeclaredIn fs name)
    (hreserved : name ∉ site.reserved) :
    (site.rewired fs).settings.get? name = site.settings.get? name := by
  refine Option.ext fun s => ?_
  rw [h.get?_rewired]
  exact and_iff_left (.inl ⟨hdeclared, hreserved⟩)

/-- Whether a setting has no place any more: it is a commented assignment `v = var.v` of a
variable that the files do not declare or that the call site reserves. -/
def Drops (site : CallSite) (fs : List VariableFile) (name : Text) (s : Setting) : Prop :=
  s.isCommented = true ∧ s.isCustom = false ∧ (¬DeclaredIn fs name ∨ name ∈ site.reserved)

theorem not_drops_iff (h : s.Noted name) : ¬site.Drops fs name s ↔
    DeclaredIn fs name ∧ name ∉ site.reserved ∨ s.isCustom = true := by
  have hrecorded := h.recorded
  rw [Bool.or_eq_true] at hrecorded
  cases hcustom : s.isCustom with
  | true => simp [Drops, hcustom]
  | false =>
    have hcommented : s.isCommented = true := by simpa [hcustom] using hrecorded
    simp [Drops, hcustom, hcommented]

/-! ### Reading the assignments -/

/-- What the settings of a call site refer to. -/
def Mentions (site : CallSite) (name : Text) : Prop :=
  ∃ e ∈ site.settings.entries, name ∈ e.2.references

/-- What the settings of a call site refer to, their own variables apart. -/
def MentionsOther (site : CallSite) (name : Text) : Prop :=
  ∃ e ∈ site.settings.entries, name ∈ e.2.references ∧ e.1 ≠ name

theorem foldl_assign_eq (bare : CallSite) (as : List Assignment) :
    as.foldl assign bare = { bare with
      settings := bare.settings.insertAll (as.filterMap Assignment.entry?)
      referenced := bare.referenced.insertAll
        (as.flatMap fun a => a.references.filter fun n => some a.name ≠ some n) } := by
  induction as generalizing bare with
  | nil => rfl
  | cons a as ih =>
    rw [List.foldl_cons, ih, List.flatMap_cons, ← NameSet.insertAll_append, assign,
      Assignment.references]
    rcases hs : a.setting? with _ | s
    · simp [Assignment.entry?, hs, NameSet.insertAll]
    · simp [Assignment.entry?, hs, refer, set, OrderedMap.insertAll]

theorem Sound.references_of_mem (h : site.Sound) {a : Assignment} (ha : a ∈ site.written fs)
    (hn : name ∈ a.references) :
    ∃ s, site.settings.get? a.name = some s ∧ name ∈ s.references := by
  rw [Assignment.references, h.setting?_of_mem_written ha] at hn
  rcases hget : site.settings.get? a.name with _ | s
  · rw [hget] at hn
    simp at hn
  · rw [hget] at hn
    exact ⟨s, rfl, hn⟩

/-- A setting that refers to a variable is given by hand, so it is written. -/
theorem Sound.exists_written (h : site.Sound) (hget : site.settings.get? name = some s)
    {other : Text} (hn : other ∈ s.references) :
    ∃ a ∈ site.written fs, a.name = name ∧ other ∈ a.references := by
  have hcustom : s.isCustom = true := by
    rw [← Bool.not_eq_false]
    intro hc
    rw [(h.noted _ (OrderedMap.get?_eq_some_iff.mp hget)).references_eq_nil hc] at hn
    simp at hn
  have hname : name ∈ (site.assignments fs).map Assignment.name :=
    mem_names_assignments.mpr (.inr ⟨s, hget, hcustom⟩)
  refine ⟨site.assignment name, ?_, name_assignment site name, ?_⟩
  · rw [(site.written_perm fs).mem_iff, mem_assignments, name_assignment]
    exact ⟨rfl, hname⟩
  · rw [Assignment.references, h.setting?_assignment, hget]
    exact hn

theorem Sound.mem_references_written (h : site.Sound) :
    name ∈ (site.written fs).flatMap Assignment.references ↔ site.Mentions name := by
  rw [List.mem_flatMap]
  constructor
  · rintro ⟨a, ha, hn⟩
    obtain ⟨s, hget, hs⟩ := h.references_of_mem ha hn
    exact ⟨_, OrderedMap.get?_eq_some_iff.mp hget, hs⟩
  · rintro ⟨e, he, hn⟩
    obtain ⟨a, ha, -, hmem⟩ := h.exists_written (OrderedMap.get?_eq_some_iff.mpr he) hn
    exact ⟨a, ha, hmem⟩

theorem Sound.mem_referenced_written (h : site.Sound) :
    name ∈ ((site.written fs).flatMap fun a =>
      a.references.filter fun n => some a.name ≠ some n) ↔ site.MentionsOther name := by
  simp only [List.mem_flatMap, List.mem_filter, ne_eq, Option.some.injEq, decide_not,
    Bool.not_eq_true', decide_eq_false_iff_not]
  constructor
  · rintro ⟨a, ha, hn, hne⟩
    obtain ⟨s, hget, hs⟩ := h.references_of_mem ha hn
    exact ⟨_, OrderedMap.get?_eq_some_iff.mp hget, hs, hne⟩
  · rintro ⟨e, he, hn, hne⟩
    obtain ⟨a, ha, hname, hmem⟩ := h.exists_written (OrderedMap.get?_eq_some_iff.mpr he) hn
    exact ⟨a, ha, hmem, fun heq => hne (hname ▸ heq)⟩

/-- Reading the assignments of a call site into one that knows all but its settings. -/
theorem Sound.foldl_assign (h : site.Sound) {bare : CallSite} (hname : bare.name = site.name)
    (hsource : bare.source = site.source) (hreserved : bare.reserved = site.reserved)
    (hsettings : bare.settings = .empty)
    (hreferenced : ∀ name, name ∈ site.referenced ↔
      name ∈ bare.referenced ∨ site.MentionsOther name) :
    (site.written fs).foldl assign bare = site.rewired fs := by
  -- sets are the same however their elements have come
  have hset : bare.referenced.insertAll ((site.written fs).flatMap fun a =>
      a.references.filter fun n => some a.name ≠ some n) = site.referenced := by
    refine NameSet.ext fun name => ?_
    rw [NameSet.mem_insertAll, h.mem_referenced_written, hreferenced]
    exact Or.comm
  rw [foldl_assign_eq, hset, hname, hsource, hreserved, hsettings]
  rfl

/-- What is written for a variable that a file declares and the call site does not set. -/
theorem legible_assignment_of_none (hid : isIdentifier name = true)
    (hget : site.settings.get? name = none) : (site.assignment name).Legible := by
  have hnone : site.assignment name = .ofSetting? name none := by rw [assignment, hget]
  rw [hnone]
  refine ⟨hid, fun _ => rfl, ?_, ?_, ?_⟩ <;>
    simp [Assignment.ofSetting?, Assignment.setting?]

/-- What is written for a setting. -/
theorem Sound.legible_assignment_of_some (h : site.Sound)
    (hget : site.settings.get? name = some s) : (site.assignment name).Legible := by
  have hentry := OrderedMap.get?_eq_some_iff.mp hget
  have hsetting : (site.assignment name).setting? = some s := by
    rw [h.setting?_assignment, hget]
  have hlines : (site.assignment name).lines = s.lines := by
    rw [assignment, hget]
    rfl
  obtain ⟨first, further, hs, -, hfirst, -, hfurther, -⟩ := (h.noted _ hentry).lines
  rw [hs] at hlines
  refine ⟨?_, fun hnil => ?_, ?_, ?_, ?_⟩
  · rw [name_assignment]
    exact (h.noted _ hentry).identifier
  · rw [hlines] at hnil
    exact absurd hnil (by simp)
  · rw [hlines]
    intro l hl
    rcases List.mem_cons.mp hl with rfl | hl
    · exact hfirst
    · exact (hfurther l hl).noFeed
  · rw [hlines]
    exact hfurther
  · rw [hsetting, name_assignment]
    intro s' hs'
    rw [← Option.some.inj hs']
    exact h.replays _ hentry

theorem Sound.legible_written (h : site.Sound)
    (hfs : ∀ file ∈ fs, ∀ name ∈ file.content.declarations.keys, isIdentifier name = true) :
    ∀ a ∈ site.written fs, a.Legible := by
  intro a ha
  have hmem := (site.written_perm fs).mem_iff.mp ha
  rw [eq_assignment_of_mem hmem]
  rcases hget : site.settings.get? a.name with _ | s
  · -- the name comes from a file, for the call site says nothing of the variable
    refine legible_assignment_of_none ?_ hget
    rcases mem_names_assignments.mp (List.mem_map_of_mem hmem) with hd | ⟨s, hs, -⟩
    · obtain ⟨file, hfile, hkey⟩ := hd.1
      exact hfs file hfile _ hkey
    · rw [hget] at hs
      exact absurd hs (by simp)
  · exact h.legible_assignment_of_some hget

end CallSite

end ModuleWiring

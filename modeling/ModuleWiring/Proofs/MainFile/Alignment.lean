/-
Assignments in columns.

The equals signs of a group stand in two columns, one for the assignments in force and one for
those commented out.  The longest name of a column sets it, also when its value goes on over
more lines and is not aligned itself.

* `AssignmentGroup.isGreatest_width` — the width of a column is the length of its longest name;
* `Assignment.WritesAligned` — the lines of an assignment whose column is `width` wide;
* `Assignment.WritesAligned.getElem?_line` — its equals sign stands behind the column;
* `AssignmentGroup.setOff` — the lines of assignments behind one another;
* `AssignmentGroup.page_aligned` — the lines of a group.
-/
import Mathlib.Order.Bounds.Basic
import ModuleWiring.Proofs.MainFile.Layout

namespace ModuleWiring

/-- Trimming may take a value away and the blank in front of it, but not the equals sign. -/
theorem Text.trimEnd_separator (t value : Text) :
    trimEnd (t ++ " = ".toList ++ value) = t ++ " =".toList ++ trimEnd (' ' :: value) := by
  have hsplit : t ++ " = ".toList ++ value = (t ++ [' ']) ++ '=' :: ' ' :: value := by simp
  rw [hsplit, trimEnd_append_cons (by decide)]
  simp

namespace Assignment

/-- The lines of an assignment in a column of names `width` wide.  A value on several lines is
not aligned, and its further lines only lose the blanks at their ends. -/
inductive WritesAligned (a : Assignment) (width : Nat) : List Text → Prop
  | passThrough (hlines : a.lines = []) : WritesAligned a width
      ["  ".toList ++ Text.padRight width a.displayName ++ " =".toList ++
        Text.trimEnd (' ' :: ModuleWiring.passThrough a.name)]
  | oneLine {value} (hlines : a.lines = [value]) : WritesAligned a width
      ["  ".toList ++ Text.padRight width a.displayName ++ " =".toList ++
        Text.trimEnd (' ' :: value)]
  | goingOn {first further} (hlines : a.lines = first :: further) (hne : further ≠ []) :
    WritesAligned a width
      (("  ".toList ++ a.displayName ++ " =".toList ++ Text.trimEnd (' ' :: first)) ::
        further.map Text.trimEnd)

variable {a : Assignment} {width : Nat} {ls : List Text}

theorem writesAligned (a : Assignment) (width : Nat) (b : Bool) :
    a.WritesAligned width (Page.layoutFrom b (a.page width)) := by
  rw [page]
  rcases hlines : a.lines with _ | ⟨first, _ | ⟨second, further⟩⟩
  · rw [Page.layoutFrom_line, Page.layoutFrom_nil, Text.trimEnd_separator]
    exact .passThrough hlines
  · rw [Page.layoutFrom_line, Page.layoutFrom_nil, Text.trimEnd_separator]
    exact .oneLine hlines
  · rw [Page.layoutFrom_line, Page.layoutFrom_lines, Text.trimEnd_separator]
    exact .goingOn hlines (List.cons_ne_nil second further)

/-- The equals sign of a value on one line, behind a name that fits into its column. -/
theorem WritesAligned.getElem?_line (h : a.WritesAligned width ls)
    (hname : a.displayName.length ≤ width) (hone : a.isMultiLine = false) :
    ∃ l, ls = [l] ∧ l[width + 3]? = some '=' := by
  have hsign : ∀ rest : Text, ("  ".toList ++ Text.padRight width a.displayName ++ " =".toList ++
      rest)[width + 3]? = some '=' := by
    intro rest
    have hlength : ("  ".toList ++ Text.padRight width a.displayName ++ [' ']).length =
        width + 3 := by
      simp [Text.padRight]
      omega
    have hsplit : "  ".toList ++ Text.padRight width a.displayName ++ " =".toList ++ rest =
        ("  ".toList ++ Text.padRight width a.displayName ++ [' ']) ++ '=' :: rest := by simp
    rw [hsplit, ← hlength, List.getElem?_append_right (Nat.le_refl _), Nat.sub_self,
      List.getElem?_cons_zero]
  cases h with
  | passThrough => exact ⟨_, rfl, hsign _⟩
  | oneLine => exact ⟨_, rfl, hsign _⟩
  | goingOn hlines hne => simp [isMultiLine, hlines, hne] at hone

/-- The last of the further lines is the last line of a value on several. -/
theorem mem_getLast?_lines {l : Text} (h : l ∈ a.lines.tail.getLast?) :
    a.isMultiLine = true ∧ l ∈ a.lines.getLast? := by
  rw [isMultiLine]
  rcases hlines : a.lines with _ | ⟨first, _ | ⟨second, further⟩⟩
  · simp [hlines] at h
  · simp [hlines] at h
  · rw [hlines, List.tail_cons] at h
    exact ⟨by simp, by rwa [List.getLast?_cons_cons]⟩

end Assignment

namespace AssignmentGroup

variable {as : List Assignment}

/-- The width of a column is the length of its longest name. -/
theorem isGreatest_width {a : Assignment} (ha : a ∈ as) :
    IsGreatest {n | ∃ a' ∈ as, a'.isCommented = a.isCommented ∧ a'.displayName.length = n}
      (width as a.isCommented) := by
  have hmem : ∀ n, n ∈ (as.filter fun a' => a'.isCommented == a.isCommented).map
      (fun a' => a'.displayName.length) ↔
      ∃ a' ∈ as, a'.isCommented = a.isCommented ∧ a'.displayName.length = n := by
    intro n
    simp only [List.mem_map, List.mem_filter, beq_iff_eq, and_assoc]
  obtain ⟨m, hm⟩ := Option.isSome_iff_exists.mp
    (List.isSome_max?_of_mem ((hmem _).mpr ⟨a, ha, rfl, rfl⟩))
  have hwidth : width as a.isCommented = m := by
    rw [width, List.foldl_max, hm, Option.getD_some, Nat.zero_max]
  obtain ⟨hin, hle⟩ := List.max?_eq_some_iff.mp hm
  rw [hwidth]
  exact ⟨(hmem m).mp hin, fun n hn => hle n ((hmem n).mpr hn)⟩

/-- The lines of assignments behind one another, given those of each.  A blank line sets off
a value on several lines, unless nothing follows. -/
def setOff : List (Assignment × List Text) → List Text
  | [] => []
  | (a, ls) :: written =>
    ls ++ (if a.isMultiLine && !written.isEmpty then [[]] else []) ++ setOff written

theorem exists_written (width : Bool → Nat)
    (hlast : ∀ a ∈ as, ∀ l ∈ a.lines.tail.getLast?, Text.isBlank l = false) (b : Bool) :
    ∃ written : List (Assignment × List Text), written.map Prod.fst = as ∧
      (∀ r ∈ written, r.1.WritesAligned (width r.1.isCommented) r.2) ∧
      Page.layoutFrom b (rows width as) = setOff written := by
  induction as generalizing b with
  | nil => exact ⟨[], rfl, by simp, Page.layoutFrom_nil b⟩
  | cons a as ih =>
    obtain ⟨written, rfl, hwrites, hlayout⟩ := ih
      (fun a' ha' => hlast a' (List.mem_cons_of_mem a ha'))
      (a.isMultiLine && !as.isEmpty)
    refine ⟨(a, Page.layoutFrom b (a.page (width a.isCommented))) :: written, rfl, ?_, ?_⟩
    · rintro r (- | ⟨-, hr⟩)
      · exact a.writesAligned (width a.isCommented) b
      · exact hwrites r hr
    · rw [layoutFrom_rows_cons (hlast a List.mem_cons_self), hlayout, setOff, List.isEmpty_map]

/-- **Groups are aligned.**  For every group that has assignments, none of them with a value on
several lines that ends with a blank one: a column is as wide as its longest name, be its value
on one line or on several; behind the blank line and the label of the group stand the lines of
the assignments, with a blank line behind each value on several lines but the last, and behind
no other; and a value on one line has its equals sign behind its column. -/
theorem page_aligned (g : AssignmentGroup) (hne : g.assignments ≠ [])
    (hlast : ∀ a ∈ g.assignments, a.isMultiLine = true →
      ∀ l ∈ a.lines.getLast?, Text.isBlank l = false) :
    (∀ a ∈ g.assignments, IsGreatest
      {n | ∃ a' ∈ g.assignments, a'.isCommented = a.isCommented ∧ a'.displayName.length = n}
      (width g.assignments a.isCommented)) ∧
    (ordered g.assignments).Perm g.assignments ∧
    ∀ b, ∃ written : List (Assignment × List Text),
      written.map Prod.fst = ordered g.assignments ∧
      (∀ r ∈ written, r.1.WritesAligned (width g.assignments r.1.isCommented) r.2 ∧
        (r.1.isMultiLine = false →
          ∃ l, r.2 = [l] ∧ l[width g.assignments r.1.isCommented + 3]? = some '=')) ∧
      Page.layoutFrom b g.page = (if b then [] else [[]]) ++
        (g.label.map fun label =>
          Text.trimEnd ("  ".toList ++ labelMark ++ ' ' :: label)).toList ++ setOff written := by
  have hperm := perm_ordered g.assignments
  have hlast' : ∀ a ∈ ordered g.assignments, ∀ l ∈ a.lines.tail.getLast?,
      Text.isBlank l = false := by
    intro a ha l hl
    obtain ⟨hmulti, hl'⟩ := Assignment.mem_getLast?_lines hl
    exact hlast a (hperm.mem_iff.mp ha) hmulti l hl'
  refine ⟨fun a ha => isGreatest_width ha, hperm, fun b => ?_⟩
  obtain ⟨written, hwritten, hwrites, hlayout⟩ := exists_written (width g.assignments) hlast'
    (Page.endsBlank b ([.gap] ++ (g.label.map fun label =>
      PageItem.line ("  ".toList ++ labelMark ++ ' ' :: label)).toList))
  refine ⟨written, hwritten, fun r hr => ?_, ?_⟩
  · have hr' : r.1 ∈ ordered g.assignments := hwritten ▸ List.mem_map_of_mem hr
    have ha : r.1 ∈ g.assignments := hperm.mem_iff.mp hr'
    have hname : r.1.displayName.length ≤ width g.assignments r.1.isCommented :=
      (isGreatest_width ha).2 ⟨r.1, ha, rfl, rfl⟩
    exact ⟨hwrites r hr, (hwrites r hr).getElem?_line hname⟩
  · rw [page, if_neg (by simpa using hne), Page.layoutFrom_append, layoutFrom_front, hlayout]

/-- Values on one line and on several, in force and commented out, behind a label.  The longest
name in force has a value on several lines, and one value is empty. -/
theorem page_aligned_lan :
    let g : AssignmentGroup := {
      label := some "lan".toList
      assignments := [
        { name := "zone".toList, isCommented := true, lines := ["2 ".toList] },
        { name := "cidr".toList, isCommented := false, lines := [] },
        { name := "ports".toList, isCommented := false,
          lines := ["[".toList, "    80, ".toList, "  ]".toList] },
        { name := "mtu".toList, isCommented := false, lines := [[]] }] }
    g.assignments ≠ [] ∧
    (∀ a ∈ g.assignments, a.isMultiLine = true →
      ∀ l ∈ a.lines.getLast?, Text.isBlank l = false) ∧
    ∃ written : List (Assignment × List Text),
      (∀ r ∈ written, r.1.WritesAligned (if r.1.isCommented then 6 else 5) r.2) ∧
      setOff written = ["  ports = [".toList, "    80,".toList, "  ]".toList, [],
        "  mtu   =".toList, "  cidr  = var.cidr".toList, "  # zone = 2".toList] := by
  intro g
  have hne : g.assignments ≠ [] := by simp [g]
  have hlast : ∀ a ∈ g.assignments, a.isMultiLine = true →
      ∀ l ∈ a.lines.getLast?, Text.isBlank l = false := by
    decide
  refine ⟨hne, hlast, ?_⟩
  obtain ⟨-, -, hpage⟩ := page_aligned g hne hlast
  obtain ⟨written, -, hwrites, hlayout⟩ := hpage false
  have hwidth : ∀ c, width g.assignments c = if c then 6 else 5 := by decide
  refine ⟨written, fun r hr => ?_, ?_⟩
  · rw [← hwidth]
    exact (hwrites r hr).1
  · have hlines : Page.layoutFrom false g.page = [] :: "  #~ lan".toList :: [
        "  ports = [".toList, "    80,".toList, "  ]".toList, [], "  mtu   =".toList,
        "  cidr  = var.cidr".toList, "  # zone = 2".toList] := by
      decide
    have hall := hlayout.symm.trans hlines
    exact List.cons_inj_right _ |>.mp (List.cons_inj_right _ |>.mp hall)

end AssignmentGroup

end ModuleWiring

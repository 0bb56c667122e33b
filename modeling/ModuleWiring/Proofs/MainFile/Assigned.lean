/-
What becomes of the assignments of a call site.

The main file assigns a variable at the end of a call site by what the call site records of
it, and that is the last of its assignments that is recorded at all.  Two kinds of
assignments are lost on this way.  One in force gives way to a commented one that comes
behind it, or to any commented one if it passes the variable through; and where a call site
has no variable files, what it passes through is not assigned any more.

* `Assigns` — the assignments that the main file makes at the end of a call site;
* `Assigns.infix_layout` — they stand in it line by line;
* `live_iff_of_declared` — when the main file keeps an assignment in force;
* `live_iff_of_unlisted` — what it keeps where no variable file is found.
-/
import ModuleWiring.Proofs.MainFile.CallSitePage
import ModuleWiring.Proofs.Reading.Given
import ModuleWiring.Proofs.VariableFile

namespace ModuleWiring

namespace Assignment

/-- The lines of the value that an assignment gives to its variable. -/
def value (a : Assignment) : List Text :=
  if a.lines.isEmpty then [passThrough a.name] else a.lines

theorem value_of_lines_ne_nil {a : Assignment} (h : a.lines ≠ []) : a.value = a.lines := by
  rw [value, if_neg]
  simpa using h

theorem exists_page_eq_value (a : Assignment) (width : Nat) : ∃ pad first further,
    Text.isBlank pad = true ∧ a.value = first :: further ∧
      a.page width = (Entry.written a pad first :: further).map .line := by
  obtain ⟨n, hpage⟩ := a.exists_page_eq width
  refine ⟨List.replicate n ' ', a.lines.headD (passThrough a.name), a.lines.tail,
    Text.isBlank_replicate n, ?_, hpage⟩
  rw [value]
  rcases a.lines with _ | ⟨first, further⟩ <;> rfl

end Assignment

namespace MainFile

variable {main : Content} {files : ModuleFiles} {site : CallSite} {a : Assignment}
  {t name v : Text} {before body after : List Text}

/-- Whether the main file makes an assignment at the end of a call site. -/
def Assigns (main : Content) (files : ModuleFiles) (site : CallSite) (a : Assignment) : Prop :=
  ∃ l ∈ main.lines, endingCallSite? main l = some site ∧
    ∃ g ∈ site.groups (files.of site.name), a ∈ g.assignments

/-- What the main file assigns stands in it line by line. -/
theorem Assigns.infix_layout (h : Assigns main files site a) : ∃ pad first further,
    Text.isBlank pad = true ∧ a.value = first :: further ∧
      (Entry.written a pad first :: further).map Text.trimEnd <:+: (page main files).layout := by
  obtain ⟨l, hl, hend, g, hg, ha⟩ := h
  obtain ⟨pad, first, further, hpad, hvalue, hpage⟩ :=
    a.exists_page_eq_value (AssignmentGroup.width g.assignments a.isCommented)
  refine ⟨pad, first, further, hpad, hvalue, Page.infix_layout ?_⟩
  have hgroup : g.page <:+: site.page (files.of site.name) :=
    List.infix_of_mem_flatten (List.mem_map_of_mem hg)
  have hline : linePage main files l <:+: page main files :=
    List.infix_of_mem_flatten (List.mem_map_of_mem hl)
  have hsite : site.page (files.of site.name) <:+: linePage main files l := by
    rw [linePage, hend]
    exact (List.suffix_cons _ _).isInfix
  rw [← hpage]
  exact (AssignmentGroup.infix_page ha).trans (hgroup.trans (hsite.trans hline))

/-- What the main file assigns is what the call site says of the variables that are
declared and not reserved, and of those that it gives a value by hand. -/
theorem assigns_iff (hsite : site ∈ (Content.ofText t).callSites.values) :
    Assigns (Content.ofText t) files site a ↔ a = site.assignment a.name ∧
      (DeclaredIn (files.of site.name) a.name ∧ a.name ∉ site.reserved ∨
        ∃ s, site.settings.get? a.name = some s ∧ s.isCustom = true) := by
  rw [← CallSite.mem_names_assignments, ← CallSite.mem_assignments]
  constructor
  · rintro ⟨-, -, -, g, hg, ha⟩
    exact List.mem_flatMap.mpr ⟨g, hg, ha⟩
  · intro ha
    obtain ⟨l, hl, hend⟩ := Content.exists_endingCallSite hsite
    obtain ⟨g, hg, ha⟩ := List.mem_flatMap.mp ha
    exact ⟨l, hl, hend, g, hg, ha⟩

/-- Whether the main file gives a value to a variable, in force, at the end of a call site. -/
def AssignsLive (main : Content) (files : ModuleFiles) (site : CallSite) (v : Text)
    (lines : List Text) : Prop :=
  ∃ a, Assigns main files site a ∧ a.name = v ∧ a.isCommented = false ∧ a.value = lines

/-- A value in force stands in the main file behind its variable. -/
theorem AssignsLive.infix_layout {lines : List Text} (h : AssignsLive main files site v lines) :
    ∃ pad first further, Text.isBlank pad = true ∧ lines = first :: further ∧
      (("  ".toList ++ (v ++ pad) ++ " = ".toList ++ first) :: further).map Text.trimEnd <:+:
        (page main files).layout := by
  obtain ⟨a, ha, rfl, hlive, rfl⟩ := h
  obtain ⟨pad, first, further, hpad, hvalue, hinfix⟩ := ha.infix_layout
  refine ⟨pad, first, further, hpad, hvalue, ?_⟩
  rw [Entry.written, Assignment.displayName, hlive] at hinfix
  exact hinfix

theorem isCommented_assignment {settings : OrderedMap Setting} (h : site.settings = settings) :
    (site.assignment v).isCommented = false ↔
      ∀ s, settings.get? v = some s → s.isCommented = false := by
  rw [CallSite.assignment, h]
  cases settings.get? v <;> simp [Assignment.ofSetting?]

theorem value_assignment_of_some {s : Setting}
    (hsite : site ∈ (Content.ofText t).callSites.values)
    (h : site.settings.get? v = some s) : (site.assignment v).value = s.lines := by
  obtain ⟨first, further, hlines, -⟩ := (Content.noted_ofText hsite h).lines
  rw [CallSite.assignment, h, Assignment.value_of_lines_ne_nil]
  · rfl
  · simp [Assignment.ofSetting?, hlines]

theorem value_assignment_of_none (h : site.settings.get? v = none) :
    (site.assignment v).value = [passThrough v] := by
  rw [CallSite.assignment, h]
  rfl

/-- What is given by hand is another value than the variable itself. -/
theorem lines_ne_passThrough {s : Setting} (hsite : site ∈ (Content.ofText t).callSites.values)
    (h : site.settings.get? v = some s) (hcustom : s.isCustom = true) :
    s.lines ≠ [passThrough v] := by
  obtain ⟨first, further, hlines, -, -, hne, -⟩ := (Content.noted_ofText hsite h).lines
  rw [hlines]
  intro hpass
  rw [hcustom, (List.cons.inj hpass).1] at hne
  simp at hne

/-! ### Commented assignments -/

/-- **A commented assignment may put one in force out of it.**  Where all assignments of a
variable that are in force give it the same value, on one line, the main file assigns the
variable once.  That assignment is in force, and then has this value, exactly when behind
every commented assignment of the variable one in force follows that has a value of its own. -/
theorem live_iff_of_declared {x : Text} (h : t.CallSiteAt name before body after)
    (hunique : ((Reading.ofText t).1.callSites.map CallSite.name).count name = 1)
    (hdeclared : DeclaredIn (files.of name) v)
    (hreserved : ∀ site, (Content.ofText t).callSites.get? name = some site →
      v ∉ site.reserved)
    (hlive : ∃ s, (v, s) ∈ CallSite.given body ∧ s.isCommented = false)
    (hvalue : ∀ s, (v, s) ∈ CallSite.given body → s.isCommented = false → s.lines = [x]) :
    ∃ site a, (Content.ofText t).callSites.get? name = some site ∧
      (∀ b, Assigns (Content.ofText t) files site b ∧ b.name = v ↔ b = a) ∧
      (a.isCommented = false ↔ ∀ xs s ys, CallSite.given body = xs ++ (v, s) :: ys →
        s.isCommented = true →
        ∃ s', (v, s') ∈ ys ∧ s'.isCommented = false ∧ s'.isCustom = true) ∧
      (a.isCommented = false → AssignsLive (Content.ofText t) files site v [x] ∧
        ∃ pad, Text.isBlank pad = true ∧
          Text.trimEnd ("  ".toList ++ (v ++ pad) ++ " = ".toList ++ x) ∈
            (page (Content.ofText t) files).layout) := by
  obtain ⟨site, hget, hname, hsettings⟩ := h.exists_get? hunique
  have hsite := OrderedMap.mem_values_of_get? hget
  have hassigns : Assigns (Content.ofText t) files site (site.assignment v) := by
    rw [assigns_iff hsite, CallSite.name_assignment, hname]
    exact ⟨rfl, .inl ⟨hdeclared, hreserved site hget⟩⟩
  refine ⟨site, site.assignment v, hget, fun b => ⟨?_, ?_⟩, ?_, fun hlive' => ?_⟩
  · rintro ⟨hb, rfl⟩
    exact ((assigns_iff hsite).mp hb).1
  · rintro rfl
    exact ⟨hassigns, CallSite.name_assignment site v⟩
  · rw [isCommented_assignment hsettings, CallSite.live_recorded_iff]
  · have hx : AssignsLive (Content.ofText t) files site v [x] := by
      refine ⟨_, hassigns, CallSite.name_assignment site v, hlive', ?_⟩
      rcases hrecorded : site.settings.get? v with _ | s
      · -- nothing is recorded, so what is in force passes the variable through
        rw [value_assignment_of_none hrecorded]
        rw [hsettings, CallSite.get?_recorded_eq_none_iff] at hrecorded
        obtain ⟨s, hs, hcommented⟩ := hlive
        rw [← hvalue s hs hcommented]
        exact (CallSite.lines_of_mem_givenFrom (by simp) hs (hrecorded s hs)).symm
      · rw [value_assignment_of_some hsite hrecorded]
        have hcommented := (isCommented_assignment rfl).mp hlive' s hrecorded
        rw [hsettings, CallSite.get?_recorded_eq_some_iff] at hrecorded
        obtain ⟨xs, ys, hgiven, -⟩ := hrecorded
        exact hvalue s (hgiven ▸ by simp) hcommented
    obtain ⟨pad, first, further, hpad, hlines, hinfix⟩ := hx.infix_layout
    obtain ⟨rfl, rfl⟩ := List.cons.inj hlines
    exact ⟨hx, pad, hpad, hinfix.subset (by simp)⟩

/-- A value that has been tried out before the one in force. -/
theorem live_iff_of_declared_size :
    let t : Text :=
      "module \"m\" \x7b\n  source = \"./m\"\n  # size = 2\n  size = 1\n\x7d\n".toList
    let body := ["  source = \"./m\"", "  # size = 2", "  size = 1"].map String.toList
    let files := ModuleFiles.ofTexts
      [("m".toList, [("variables.tf".toList, "variable \"size\" \x7b\x7d\n".toList)])]
    t.CallSiteAt "m".toList [] body [] ∧
      DeclaredIn (files.of "m".toList) "size".toList ∧
      ∃ pad, Text.isBlank pad = true ∧
        Text.trimEnd ("  ".toList ++ ("size".toList ++ pad) ++ " = ".toList ++ "1".toList) ∈
          (page (Content.ofText t) files).layout := by
  intro t body files
  have hat : t.CallSiteAt "m".toList [] body [] :=
    ⟨⟨"module \"m\" \x7b".toList, by decide, by decide⟩, by decide, by decide⟩
  have hdeclared : DeclaredIn (files.of "m".toList) "size".toList := by
    unfold DeclaredIn
    decide
  have hreserved : ∀ site, (Content.ofText t).callSites.get? "m".toList = some site →
      "size".toList ∉ site.reserved := by
    intro site hget
    have hnot : ((Content.ofText t).callSites.get? "m".toList).map
        (fun site => site.reserved.contains "size".toList) = some false := by decide
    rw [hget, Option.map_some, Option.some.injEq] at hnot
    rw [← NameSet.contains_iff, hnot]
    exact Bool.false_ne_true
  have hgiven : CallSite.given body =
      [("size".toList, { isCommented := true, isCustom := true, lines := ["2".toList] }),
        ("size".toList, { isCommented := false, isCustom := true, lines := ["1".toList] })] := by
    decide
  obtain ⟨site, a, -, -, hlive, hvalue⟩ := live_iff_of_declared hat (by decide) hdeclared
    hreserved (x := "1".toList) (by rw [hgiven]; simp) (by rw [hgiven]; simp)
  have hlast : (OrderedMap.ofList (CallSite.recorded (CallSite.given body))).get? "size".toList =
      some { isCommented := false, isCustom := true, lines := ["1".toList] } := by decide
  refine ⟨hat, hdeclared, (hvalue (hlive.mpr (CallSite.live_recorded_iff.mp fun s hs => ?_))).2⟩
  rw [hlast] at hs
  exact Option.some.inj hs ▸ rfl

/-- A commented assignment behind one in force takes its place, and any takes the place of a
variable that is passed through. -/
theorem commented_disables :
    let t : Text := ("module \"m\" \x7b\n  source = \"./m\"\n  size = 1\n  # size = 2\n" ++
      "  zone = var.zone\n  # zone = \"a\"\n\x7d\n").toList
    let body := ["  source = \"./m\"", "  size = 1", "  # size = 2", "  zone = var.zone",
      "  # zone = \"a\""].map String.toList
    let files := ModuleFiles.ofTexts [("m".toList, [("variables.tf".toList,
      "variable \"size\" \x7b\x7d\nvariable \"zone\" \x7b\x7d\n".toList)])]
    CallSite.given body = [
        ("size".toList, { isCommented := false, isCustom := true, lines := ["1".toList] }),
        ("size".toList, { isCommented := true, isCustom := true, lines := ["2".toList] }),
        ("zone".toList, { isCommented := false, isCustom := false, lines := ["var.zone".toList] }),
        ("zone".toList, { isCommented := true, isCustom := true, lines := ["\"a\"".toList] })] ∧
      t.lines.map Text.trimEnd =
        "module \"m\" \x7b".toList :: (body ++ ["\x7d".toList]) ∧
      (page (Content.ofText t) files).layout = ["module \"m\" \x7b", "  source = \"./m\"", "",
        "  # size = 2", "  # zone = \"a\"", "\x7d"].map String.toList := by
  decide

/-! ### Call sites without variable files -/

/-- **Without variable files only values given by hand are kept.**  Of a call site whose
module has no variable file the main file keeps an assignment in force, with its value,
exactly when it has a value of its own and is the last one of its variable that is recorded;
what is passed through is lost. -/
theorem live_iff_of_unlisted (h : t.CallSiteAt name before body after)
    (hunique : ((Reading.ofText t).1.callSites.map CallSite.name).count name = 1)
    (hfiles : files.of name = []) :
    ∃ site, (Content.ofText t).callSites.get? name = some site ∧
      ∀ v s, (v, s) ∈ CallSite.given body → s.isCommented = false →
        (AssignsLive (Content.ofText t) files site v s.lines ↔ s.isCustom = true ∧
          ∃ xs ys, CallSite.given body = xs ++ (v, s) :: ys ∧
            ∀ s', (v, s') ∈ ys → s'.isRecorded = false) ∧
        (AssignsLive (Content.ofText t) files site v s.lines → ∃ pad first further,
          Text.isBlank pad = true ∧ s.lines = first :: further ∧
            (("  ".toList ++ (v ++ pad) ++ " = ".toList ++ first) :: further).map Text.trimEnd <:+:
              (page (Content.ofText t) files).layout) := by
  obtain ⟨site, hget, hname, hsettings⟩ := h.exists_get? hunique
  have hsite := OrderedMap.mem_values_of_get? hget
  refine ⟨site, hget, fun v s hs hlive => ⟨⟨?_, ?_⟩, AssignsLive.infix_layout⟩⟩
  · rintro ⟨a, ha, rfl, hlive', hvalue⟩
    rw [assigns_iff hsite, hname, hfiles] at ha
    obtain ⟨heq, hwhy⟩ := ha
    obtain ⟨s', hs', hcustom'⟩ : ∃ s', site.settings.get? a.name = some s' ∧
        s'.isCustom = true :=
      hwhy.resolve_left fun h => by simp [DeclaredIn] at h
    have hlines : s'.lines = s.lines := by
      rw [← hvalue, ← value_assignment_of_some hsite hs', ← heq]
    have hcommented' : s'.isCommented = false := by
      rw [heq] at hlive'
      exact (isCommented_assignment rfl).mp hlive' s' hs'
    have hcustom : s.isCustom = true := by
      rw [← Bool.not_eq_false]
      intro hcustom
      have hnot : s.isRecorded = false := by rw [Setting.isRecorded, hlive, hcustom, Bool.or_self]
      have hpass := CallSite.lines_of_mem_givenFrom (by simp) hs hnot
      exact lines_ne_passThrough hsite hs' hcustom' (hlines.trans hpass)
    obtain rfl : s' = s :=
      Setting.ext (hcommented'.trans hlive.symm) (hcustom'.trans hcustom.symm) hlines
    rw [hsettings, CallSite.get?_recorded_eq_some_iff] at hs'
    obtain ⟨xs, ys, hgiven, -, hys⟩ := hs'
    exact ⟨hcustom, xs, ys, hgiven, hys⟩
  · rintro ⟨hcustom, xs, ys, hgiven, hys⟩
    have hrecorded : s.isRecorded = true := by rw [Setting.isRecorded, hcustom, Bool.or_true]
    have hs' : site.settings.get? v = some s := by
      rw [hsettings, CallSite.get?_recorded_eq_some_iff]
      exact ⟨xs, ys, hgiven, hrecorded, hys⟩
    refine ⟨site.assignment v, ?_, CallSite.name_assignment site v, ?_,
      value_assignment_of_some hsite hs'⟩
    · rw [assigns_iff hsite, CallSite.name_assignment]
      exact ⟨rfl, .inr ⟨s, hs', hcustom⟩⟩
    · rw [CallSite.assignment, hs']
      exact hlive

/-- A value given by hand in a call site whose module is not at hand. -/
theorem live_iff_of_unlisted_cidr :
    let t : Text := ("module \"vpc\" \x7b\n  source = \"./vpc\"\n" ++
      "  cidr = \"10.0.0.0/16\"\n  region = var.region\n\x7d\n").toList
    let body := ["  source = \"./vpc\"", "  cidr = \"10.0.0.0/16\"",
      "  region = var.region"].map String.toList
    t.CallSiteAt "vpc".toList [] body [] ∧
      ∃ site, (Content.ofText t).callSites.get? "vpc".toList = some site ∧
        AssignsLive (Content.ofText t) .empty site "cidr".toList ["\"10.0.0.0/16\"".toList] ∧
        ¬AssignsLive (Content.ofText t) .empty site "region".toList ["var.region".toList] := by
  intro t body
  have hat : t.CallSiteAt "vpc".toList [] body [] :=
    ⟨⟨"module \"vpc\" \x7b".toList, by decide, by decide⟩, by decide, by decide⟩
  let cidr : Setting :=
    { isCommented := false, isCustom := true, lines := ["\"10.0.0.0/16\"".toList] }
  let region : Setting :=
    { isCommented := false, isCustom := false, lines := ["var.region".toList] }
  have hgiven : CallSite.given body = [("cidr".toList, cidr), ("region".toList, region)] := by
    decide
  have hfiles : ModuleFiles.of .empty "vpc".toList = [] := rfl
  obtain ⟨site, hget, hsite⟩ := live_iff_of_unlisted hat (by decide) hfiles
  refine ⟨hat, site, hget, ?_, fun hregion => ?_⟩
  · refine (hsite "cidr".toList cidr (by rw [hgiven]; simp) rfl).1.mpr ⟨rfl, [], _, hgiven, ?_⟩
    intro s' hs'
    obtain rfl := (Prod.mk.inj (List.mem_singleton.mp hs')).2
    rfl
  · exact absurd ((hsite "region".toList region (by rw [hgiven]; simp) rfl).1.mp hregion).1
      Bool.false_ne_true

/-- Where no variable file is found, what is passed through is lost. -/
theorem passThrough_lost :
    let t : Text := ("module \"vpc\" \x7b\n  source = \"./vpc\"\n" ++
      "  region = var.region\n\x7d\n").toList
    let body := ["  source = \"./vpc\"", "  region = var.region"].map String.toList
    CallSite.given body = [("region".toList,
        { isCommented := false, isCustom := false, lines := ["var.region".toList] })] ∧
      t.lines.map Text.trimEnd =
        "module \"vpc\" \x7b".toList :: (body ++ ["\x7d".toList]) ∧
      (page (Content.ofText t) .empty).layout = ["module \"vpc\" \x7b",
        "  source = \"./vpc\"", "\x7d"].map String.toList := by
  decide

end MainFile

end ModuleWiring

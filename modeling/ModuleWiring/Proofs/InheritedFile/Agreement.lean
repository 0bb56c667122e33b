/-
The main file and the inherited file agree on which variables exist.

Which variables are passed through is decided group by group at the end of a call site,
and which are inherited file by file over all call sites.  Both come down to the same
question, what a call site says of a variable:

* `passesThrough_iff` — the main file passes on what a module declares and its call site
  neither sets nor reserves;
* `PassesThrough.exists_line` — what is passed on has its line in the main file;
* `mem_names_wanted` — the inherited file declares such variables, and those referred to;
* `agreement` — so whatever is used has exactly one declaration.
-/
import ModuleWiring.Proofs.InheritedFile.RoundTrip
import ModuleWiring.Proofs.MainFile.Assigned

namespace ModuleWiring

namespace MainFile

variable {files : ModuleFiles} {site : CallSite} {name t : Text}

/-- Whether the main file passes a variable through at the end of a call site: one of the
groups that it writes there assigns the variable to itself. -/
def PassesThrough (main : Content) (files : ModuleFiles) (site : CallSite) (name : Text) : Prop :=
  ∃ l ∈ main.lines, endingCallSite? main l = some site ∧
    ∃ g ∈ site.groups (files.of site.name), ∃ a ∈ g.assignments,
      a.name = name ∧ a.isPassThrough = true

theorem passesThrough_iff_assigns {main : Content} : PassesThrough main files site name ↔
    ∃ a, Assigns main files site a ∧ a.name = name ∧ a.isPassThrough = true := by
  constructor
  · rintro ⟨l, hl, hend, g, hg, a, ha, hname, hpass⟩
    exact ⟨a, ⟨l, hl, hend, g, hg, ha⟩, hname, hpass⟩
  · rintro ⟨a, ⟨l, hl, hend, g, hg, ha⟩, hname, hpass⟩
    exact ⟨l, hl, hend, g, hg, a, ha, hname, hpass⟩

/-- The main file passes a variable on exactly when the module declares it and the call
site neither reserves nor sets it. -/
theorem passesThrough_iff (hsite : site ∈ (Content.ofText t).callSites.values) :
    PassesThrough (Content.ofText t) files site name ↔ DeclaredIn (files.of site.name) name ∧
      name ∉ site.reserved ∧ site.settings.get? name = none := by
  rw [passesThrough_iff_assigns]
  constructor
  · rintro ⟨a, ha, rfl, hpass⟩
    obtain ⟨heq, hwhy⟩ := (assigns_iff hsite).mp ha
    have hget : site.settings.get? a.name = none := by
      rcases hs : site.settings.get? a.name with _ | s
      · rfl
      · -- what a call site sets has a value of its own
        obtain ⟨first, further, hlines, -⟩ := (Content.noted_ofText hsite hs).lines
        rw [heq, CallSite.assignment, hs] at hpass
        simp [Assignment.isPassThrough, Assignment.ofSetting?, hlines] at hpass
    rcases hwhy with ⟨hdeclared, hreserved⟩ | ⟨s, hs, -⟩
    · exact ⟨hdeclared, hreserved, hget⟩
    · rw [hget] at hs
      exact absurd hs (by simp)
  · rintro ⟨hdeclared, hreserved, hget⟩
    refine ⟨site.assignment name, ?_, CallSite.name_assignment site name, ?_⟩
    · rw [assigns_iff hsite, CallSite.name_assignment]
      exact ⟨rfl, .inl ⟨hdeclared, hreserved⟩⟩
    · rw [CallSite.assignment, hget]
      rfl

/-- A variable that is passed through has a line of its own in the main file. -/
theorem PassesThrough.exists_line {main : Content} (h : PassesThrough main files site name) :
    ∃ pad, Text.isBlank pad = true ∧
      Text.trimEnd ("  ".toList ++ (name ++ pad) ++ " = ".toList ++ passThrough name) ∈
        (page main files).layout := by
  obtain ⟨a, ha, rfl, hpass⟩ := passesThrough_iff_assigns.mp h
  rw [Assignment.isPassThrough, Bool.and_eq_true, Bool.not_eq_true'] at hpass
  have hlive : AssignsLive main files site a.name [passThrough a.name] :=
    ⟨a, ha, rfl, hpass.1, by rw [Assignment.value, if_pos hpass.2]⟩
  obtain ⟨pad, first, further, hpad, hvalue, hinfix⟩ := hlive.infix_layout
  obtain ⟨rfl, rfl⟩ := List.cons.inj hvalue
  exact ⟨pad, hpad, hinfix.subset (by simp)⟩

end MainFile

namespace InheritedFile

open Reading MainFile

variable {main : Content} {files : ModuleFiles} {site : CallSite} {name t : Text}

theorem isInherited_iff : isInherited main site name = true ↔
    name ∈ main.references ∨ site.settings.get? name = none ∧ name ∉ site.reserved := by
  rw [isInherited, Bool.or_eq_true, NameSet.contains_iff, Bool.not_eq_true',
    Bool.or_eq_false_iff, OrderedMap.contains_eq_false_iff, ← Bool.not_eq_true,
    NameSet.contains_iff]

/-- The variables that the inherited file has to declare. -/
theorem mem_names_wanted (hf : files.AreRead) :
    name ∈ (wanted main files).map Declaration.name ↔ name ∉ main.declarations.keys ∧
      ∃ site ∈ main.callSites.values, DeclaredIn (files.of site.name) name ∧
        isInherited main site name = true := by
  have hmain : main.declarations.contains name = false ↔ name ∉ main.declarations.keys := by
    rw [← Bool.not_eq_true, OrderedMap.contains_iff]
  simp only [wanted, List.mem_map, List.mem_flatMap, List.mem_filter, Bool.and_eq_true,
    Bool.not_eq_true']
  constructor
  · rintro ⟨d, ⟨site, hsite, file, hfile, hd, hinherited, hnot⟩, rfl⟩
    have hkey := (hf.declaresLegibly hfile).name_mem_keys hd
    rw [← OrderedMap.contains_iff, Bool.not_eq_true]
    exact ⟨hnot, site, hsite, ⟨file, hfile, hkey⟩, hinherited⟩
  · rintro ⟨hnot, site, hsite, ⟨file, hfile, hkey⟩, hinherited⟩
    rw [← (hf.declaresLegibly hfile).map_name] at hkey
    obtain ⟨d, hd, rfl⟩ := List.mem_map.mp hkey
    exact ⟨d, ⟨site, hsite, file, hfile, hd, hinherited, hmain.mpr hnot⟩, rfl⟩

/-- The names that a written inherited file declares, block by block. -/
theorem names_written (main : Text) (previous : Option Text) (hf : files.AreRead) :
    ((Reading.ofText (written main previous files)).1.declarations.reverse.map Declaration.name) =
      (firsts (wanted (Content.ofText main) files)).map Declaration.name := by
  rw [(declares_written main previous hf).declarations, List.map_map]
  exact List.map_congr_left fun d _ => name_inForce _ d

theorem mem_keys_written (main : Text) (previous : Option Text) (hf : files.AreRead) :
    name ∈ (Content.ofText (written main previous files)).declarations.keys ↔
      name ∈ (wanted (Content.ofText main) files).map Declaration.name := by
  have hdeclares := declares_written main previous hf
  have hentries := (hdeclares.content (nodup_map_name_inForce _ _)).2.2
  rw [OrderedMap.keys, hentries, ← mem_map_name_firsts]
  simp [name_inForce]

/-- A variable is used when the main file passes it through, or when it refers to it and a
module declares it. -/
def Used (main : Content) (files : ModuleFiles) (name : Text) : Prop :=
  (∃ site, PassesThrough main files site name) ∨
    name ∈ main.references ∧
      ∃ site ∈ main.callSites.values, DeclaredIn (files.of site.name) name

theorem declared_of_used (hf : files.AreRead) (h : Used (Content.ofText t) files name) :
    name ∈ (Content.ofText t).declarations.keys ∨
      name ∈ (wanted (Content.ofText t) files).map Declaration.name := by
  by_cases hmain : name ∈ (Content.ofText t).declarations.keys
  · exact .inl hmain
  refine .inr ((mem_names_wanted hf).mpr ⟨hmain, ?_⟩)
  -- both kinds of use make the variable an inherited one
  rcases h with ⟨site, hpass⟩ | ⟨href, site, hsite, hdeclared⟩
  · obtain ⟨l, -, hend, -⟩ := id hpass
    have hsite := mem_values_of_endingCallSite? hend
    obtain ⟨hdeclared, hreserved, hget⟩ := (passesThrough_iff hsite).mp hpass
    exact ⟨site, hsite, hdeclared, isInherited_iff.mpr (.inr ⟨hget, hreserved⟩)⟩
  · exact ⟨site, hsite, hdeclared, isInherited_iff.mpr (.inl href)⟩

/-- **The two files agree on which variables exist.**  A written inherited file declares a
variable exactly when the main file does not, a module does, and the main file refers to it
or passes it through.  Whatever is used has one declaration in the two files together, and
what is passed through stands in the main file as the assignment of a variable to itself. -/
theorem agreement (main : Text) (previous : Option Text) (hf : files.AreRead) (name : Text) :
    (name ∈ (Content.ofText (written main previous files)).declarations.keys ↔
      name ∉ (Content.ofText main).declarations.keys ∧
      (∃ site ∈ (Content.ofText main).callSites.values,
        DeclaredIn (files.of site.name) name) ∧
      (name ∈ (Content.ofText main).references ∨
        ∃ site ∈ (Content.ofText main).callSites.values,
          DeclaredIn (files.of site.name) name ∧
          PassesThrough (Content.ofText main) files site name)) ∧
    (Used (Content.ofText main) files name →
      ((Content.ofText main).declarations.keys ++
        (Reading.ofText (written main previous files)).1.declarations.map
          Declaration.name).count name = 1) ∧
    ∀ site, PassesThrough (Content.ofText main) files site name →
      ∃ pad, Text.isBlank pad = true ∧
        Text.trimEnd ("  ".toList ++ (name ++ pad) ++ " = ".toList ++ passThrough name) ∈
          (MainFile.page (Content.ofText main) files).layout := by
  refine ⟨?_, fun hused => ?_, fun site hpass => hpass.exists_line⟩
  · rw [mem_keys_written main previous hf, mem_names_wanted hf]
    constructor
    · rintro ⟨hmain, site, hsite, hdeclared, hinherited⟩
      refine ⟨hmain, ⟨site, hsite, hdeclared⟩, ?_⟩
      rcases isInherited_iff.mp hinherited with href | ⟨hget, hreserved⟩
      · exact .inl href
      · exact .inr ⟨site, hsite, hdeclared,
          (passesThrough_iff hsite).mpr ⟨hdeclared, hreserved, hget⟩⟩
    · rintro ⟨hmain, ⟨site, hsite, hdeclared⟩,
          href | ⟨site', hsite', hdeclared', hpass⟩⟩
      · exact ⟨hmain, site, hsite, hdeclared, isInherited_iff.mpr (.inl href)⟩
      · obtain ⟨-, hreserved, hget⟩ := (passesThrough_iff hsite').mp hpass
        exact ⟨hmain, site', hsite', hdeclared',
          isInherited_iff.mpr (.inr ⟨hget, hreserved⟩)⟩
  · -- neither file declares a variable twice, and just one of them declares this one
    have hcount : ((Reading.ofText (written main previous files)).1.declarations.map
        Declaration.name).count name =
        ((firsts (wanted (Content.ofText main) files)).map Declaration.name).count name := by
      rw [← names_written main previous hf, List.map_reverse, List.count_reverse]
    rw [List.count_append, hcount]
    have hkeys : (Content.ofText main).declarations.keys.Nodup :=
      (Content.ofText main).declarations.nodup_keys
    have hfirsts := nodup_map_name_firsts (wanted (Content.ofText main) files)
    rcases declared_of_used hf hused with hmain | hwanted
    · have hnot : name ∉ (firsts (wanted (Content.ofText main) files)).map Declaration.name := by
        rw [mem_map_name_firsts, mem_names_wanted hf]
        exact fun h => h.1 hmain
      rw [hkeys.count, if_pos hmain, List.count_eq_zero_of_not_mem hnot]
    · have hnot := ((mem_names_wanted hf).mp hwanted).1
      rw [List.count_eq_zero_of_not_mem hnot, hfirsts.count,
        if_pos (mem_map_name_firsts.mpr hwanted)]

/-- Two variables of the module `network`: the main file refers to one of them, and the other
it only passes through. -/
theorem agreement_network :
    let main := "module \"network\" \x7b\n\x7d\nzone = var.zone\n".toList
    let files := ModuleFiles.ofTexts [("network".toList, [("variables.tf".toList,
      "variable \"zone\" \x7b\x7d\nvariable \"size\" \x7b\x7d\n".toList)])]
    files.AreRead ∧ "zone".toList ∈ (Content.ofText main).references ∧
      "size".toList ∉ (Content.ofText main).references ∧
      (∀ name ∈ ["zone".toList, "size".toList], Used (Content.ofText main) files name ∧
        name ∈ (Content.ofText (written main none files)).declarations.keys ∧
        ((Content.ofText main).declarations.keys ++
          (Reading.ofText (written main none files)).1.declarations.map
            Declaration.name).count name = 1) ∧
      ∃ pad, Text.isBlank pad = true ∧
        Text.trimEnd ("  ".toList ++ ("size".toList ++ pad) ++ " = ".toList ++
          "var.size".toList) ∈ (MainFile.page (Content.ofText main) files).layout := by
  intro main files
  have hf : files.AreRead := ModuleFiles.areRead_ofTexts (by decide)
  have hsite : ∃ site ∈ (Content.ofText main).callSites.values,
      DeclaredIn (files.of site.name) "zone".toList ∧
      DeclaredIn (files.of site.name) "size".toList ∧
      "size".toList ∉ site.reserved ∧ site.settings.get? "size".toList = none := by
    unfold DeclaredIn
    decide
  obtain ⟨site, hsite, hzone, hsize, hreserved, hget⟩ := hsite
  have href : "zone".toList ∈ (Content.ofText main).references := by decide
  have hpass : PassesThrough (Content.ofText main) files site "size".toList :=
    (passesThrough_iff hsite).mpr ⟨hsize, hreserved, hget⟩
  obtain ⟨hzoneDeclared, hzoneCount, -⟩ := agreement main none hf "zone".toList
  obtain ⟨hsizeDeclared, hsizeCount, hline⟩ := agreement main none hf "size".toList
  have hzoneUsed : Used (Content.ofText main) files "zone".toList :=
    .inr ⟨href, site, hsite, hzone⟩
  have hsizeUsed : Used (Content.ofText main) files "size".toList := .inl ⟨site, hpass⟩
  refine ⟨hf, href, by decide, fun name hname => ?_, hline site hpass⟩
  rcases List.mem_pair.mp hname with rfl | rfl
  · exact ⟨hzoneUsed, hzoneDeclared.mpr ⟨by decide, ⟨site, hsite, hzone⟩, .inl href⟩,
      hzoneCount hzoneUsed⟩
  · exact ⟨hsizeUsed, hsizeDeclared.mpr ⟨by decide, ⟨site, hsite, hsize⟩,
      .inr ⟨site, hsite, hsize, hpass⟩⟩, hsizeCount hsizeUsed⟩

end InheritedFile

end ModuleWiring

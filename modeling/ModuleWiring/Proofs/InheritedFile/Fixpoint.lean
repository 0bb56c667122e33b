/-
An update changes nothing the second time.

The inherited file is made from the main file and from the inherited file before.  Writing
the main file anew drops only settings that say nothing about which variables are
inherited, and the overrides of the written inherited file are those it was made with.

* `sections_rewired` — the sections for a main file whose assignments are written anew;
* `inheritedPage_written` — what takes the place of a declaration, in the second round;
* `update_fixpoint` — both files are written as before.
-/
import ModuleWiring.Proofs.InheritedFile.Agreement
import ModuleWiring.Proofs.MainFile.Fixpoint

namespace ModuleWiring.InheritedFile

open Reading MainFile

variable {t : Text} {previous : Option Content} {files : ModuleFiles} {site : CallSite}

/-- Whether a declared variable is inherited does not depend on settings that are dropped. -/
theorem isInherited_rewired {c : Content} (hsite : site.Sound) {name : Text}
    (h : DeclaredIn (files.of site.name) name) :
    isInherited (c.rewired files) (rewire files site) name = isInherited c site name := by
  rw [Bool.eq_iff_iff, isInherited_iff, isInherited_iff]
  -- the call site may reserve the variable, and then its settings do not matter
  refine or_congr_right (and_congr_left fun hnot => ?_)
  have hget : (rewire files site).settings.get? name = site.settings.get? name :=
    hsite.get?_rewired_of_declared h hnot
  rw [hget]

theorem undeclared_rewired {c : Content} (hf : files.AreRead) (hsite : site.Sound)
    {file : VariableFile} (hfile : file ∈ files.of site.name) (declared : List Text) :
    undeclared (c.rewired files) declared (rewire files site) file =
      undeclared c declared site file := by
  refine List.filter_congr fun d hd => ?_
  have hkey := (hf.declaresLegibly hfile).name_mem_keys hd
  rw [isInherited_rewired hsite ⟨file, hfile, hkey⟩]

/-- A section for a call site whose assignments are written anew. -/
def Section.rewired (files : ModuleFiles) (sec : Section) : Section :=
  { sec with site := rewire files sec.site }

theorem sectionsFrom_rewired {c : Content} (hf : files.AreRead)
    {srcs : List (CallSite × VariableFile)}
    (hsrcs : ∀ src ∈ srcs, src.1.Sound ∧ src.2 ∈ files.of src.1.name)
    (declared : List Text) :
    sectionsFrom (c.rewired files) declared (srcs.map fun src => (rewire files src.1, src.2)) =
      (sectionsFrom c declared srcs).map (Section.rewired files) := by
  induction srcs generalizing declared with
  | nil => rfl
  | cons src srcs ih =>
    obtain ⟨site, file⟩ := src
    obtain ⟨hsite, hfile⟩ := hsrcs _ List.mem_cons_self
    have ih := ih fun src hsrc => hsrcs src (List.mem_cons_of_mem _ hsrc)
    rw [List.map_cons, sectionsFrom, sectionsFrom, undeclared_rewired hf hsite hfile, ih]
    split
    · rfl
    · rw [List.map_cons]
      rfl

/-- The sections for a main file whose assignments are written anew. -/
theorem sections_rewired (ht : t.Regular) (hf : files.AreRead) (ha : files.Assignable) :
    sections ((Content.ofText t).rewired files) files =
      (sections (Content.ofText t) files).map (Section.rewired files) := by
  have hsources : sources ((Content.ofText t).rewired files) files =
      (sources (Content.ofText t) files).map fun src => (rewire files src.1, src.2) := by
    rw [sources, sources, Content.rewired, OrderedMap.values_mapValues, List.flatMap_map,
      List.map_flatMap]
    refine List.flatMap_congr fun site _ => ?_
    rw [List.map_map]
    rfl
  rw [sections, sections, hsources]
  refine sectionsFrom_rewired hf (fun src hsrc => ?_) _
  obtain ⟨hsite, hfile⟩ := mem_sources hsrc
  exact ⟨sound_callSites ht ha _ hsite, hfile⟩

/-- What a written inherited file says of a declaration that it holds. -/
theorem override?_written (main : Text) (previous : Option Text) (hf : files.AreRead)
    {d : Declaration} (hd : d ∈ firsts (wanted (Content.ofText main) files)) :
    override? (some (Content.ofText (written main previous files))) d.name =
      override? (previous.map Content.ofText) d.name := by
  have hentries := ((declares_written main previous hf).content (nodup_map_name_inForce _ _)).2.2
  have hget : (Content.ofText (written main previous files)).declarations.get? d.name =
      some (inForce (previous.map Content.ofText) d) := by
    rw [OrderedMap.get?_eq_some_iff, hentries, List.map_map]
    exact List.mem_map.mpr ⟨d, hd, Prod.ext (name_inForce _ d) rfl⟩
  rw [override?, override?, Option.bind_some, hget, inForce]
  -- the written declaration bears the mark exactly if the previous one does
  cases hp : (previous.map Content.ofText).bind fun c => c.declarations.get? d.name with
  | none => rfl
  | some p =>
    obtain ⟨c, hc, hpget⟩ := Option.bind_eq_some_iff.mp hp
    obtain ⟨u, -, rfl⟩ := Option.map_eq_some_iff.mp hc
    have hname := ((Content.declaresLegibly_ofText u).of_get? hpget).1
    cases hov : p.isOverride with
    | true =>
      simp only [hov, reduceIte]
      rw [Option.filter_some_pos rfl, Option.filter_some_pos hov, ← hname, ← hov]
    | false =>
      simp only [hov, Bool.false_eq_true, reduceIte]
      rw [Option.filter_some_neg rfl, Option.filter_some_neg hov]

theorem page_section_rewired (previous : Option Text) (hf : files.AreRead) {sec : Section}
    (hsec : sec ∈ sections (Content.ofText t) files) :
    (sec.rewired files).page (some (Content.ofText (written t previous files))) =
      sec.page (previous.map Content.ofText) := by
  have hpages : sec.declarations.map
      (inheritedPage (some (Content.ofText (written t previous files)))) =
        sec.declarations.map (inheritedPage (previous.map Content.ofText)) := by
    refine List.map_congr_left fun d hd => ?_
    have hfirst : d ∈ firsts (wanted (Content.ofText t) files) := by
      rw [← flatMap_sections fun _ _ hfile => hf.declaresLegibly hfile]
      exact List.mem_flatMap.mpr ⟨sec, hsec, hd⟩
    rw [inheritedPage, inheritedPage, override?_written t previous hf hfirst]
  rw [Section.page, Section.page, ← hpages]
  rfl

theorem render_rewired (ht : t.Regular) (hf : files.AreRead) (ha : files.Assignable)
    (previous : Option Text) :
    render ((Content.ofText t).rewired files) (some (Content.ofText (written t previous files)))
        files =
      render (Content.ofText t) (previous.map Content.ofText) files := by
  have hpages : (sections ((Content.ofText t).rewired files) files).map
      (Section.page (some (Content.ofText (written t previous files)))) =
        (sections (Content.ofText t) files).map
          (Section.page (previous.map Content.ofText)) := by
    rw [sections_rewired ht hf ha, List.map_map]
    exact List.map_congr_left fun sec hsec => page_section_rewired previous hf hsec
  rw [render, render, page, page, hpages]

/-- **One update reaches a fixpoint of both files.**  Written again from what has been
written, the main file and the inherited file stay the same, character by character. -/
theorem update_fixpoint (ht : t.Regular) (hf : files.AreRead) (ha : files.Assignable)
    (previous : Option Text) :
    MainFile.written (MainFile.written t files) files = MainFile.written t files ∧
      written (MainFile.written t files) (some (written t previous files)) files =
        written t previous files := by
  constructor
  · rw [MainFile.written, content_written_eq ht ha, MainFile.render_rewired ht ha]
    rfl
  · rw [written, content_written_eq ht ha, Option.map_some, render_rewired ht hf ha]
    rfl

/-- A call site with a comment that is dropped and a variable that is passed through. -/
theorem update_fixpoint_network :
    let t : Text := ("module \"network\" \x7b\n  source = \"./network\"\n" ++
      "  # zone = var.zone\n  size = [\n    var.base,\n  ]\n\x7d\n").toList
    let previous : Option Text :=
      some "# override\nvariable \"kind\" \x7b\n  default = 1\n\x7d\n".toList
    let files := ModuleFiles.ofTexts [("network".toList, [("variables.tf".toList,
      "variable \"size\" \x7b\x7d\nvariable \"kind\" \x7b\x7d\n".toList)])]
    Text.Regular t ∧ files.AreRead ∧ files.Assignable ∧ MainFile.written t files ≠ t ∧
      MainFile.written (MainFile.written t files) files = MainFile.written t files ∧
      written (MainFile.written t files) (some (written t previous files)) files =
        written t previous files := by
  intro t previous files
  have ht : Text.Regular t := ⟨by decide, by decide, by decide⟩
  have hf : files.AreRead := ModuleFiles.areRead_ofTexts (by decide)
  have ha : files.Assignable := ⟨by decide, by decide⟩
  exact ⟨ht, hf, ha, by decide, update_fixpoint ht hf ha previous⟩

end ModuleWiring.InheritedFile

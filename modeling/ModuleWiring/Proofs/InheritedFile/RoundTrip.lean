/-
The inherited file, read back.

A reading that goes through a written inherited file stands outside of blocks whenever
a piece of the page ends, and has come to just the declarations written so far:

* `Declares` — where such a reading stands;
* `Declares.declarationPage`, `Declares.inheritedPage`, `declares_section` — what a
  declaration, what takes its place, and a whole section add;
* `content_written` — the content of the text.
-/
import ModuleWiring.Proofs.InheritedFile.Sections
import ModuleWiring.Proofs.Page
import ModuleWiring.Proofs.VariableFile

namespace ModuleWiring

open Reading

/-- A reading that stands outside of blocks, behind an override mark or not, and has come
to certain declarations and to no call site. -/
structure Reading.Declares (override : Bool) (ds : List Declaration) (s : Reading × List Line) :
    Prop where
  region : s.1.region = .outside override
  declarations : s.1.declarations.reverse = ds
  callSites : s.1.callSites = []

namespace InheritedFile

/-- The lines of a declaration. -/
def declarationLines (d : Declaration) : List Text :=
  if d.body.isEmpty then [Heading.opening d.name ++ ['\x7d']]
  else Heading.opening d.name :: (d.body ++ [blockEnd])

theorem declarationPage_eq (d : Declaration) :
    declarationPage d = (declarationLines d).map .line := by
  rw [declarationPage, declarationLines]
  split
  · rfl
  · simp [Heading.opening, blockEnd]

/-- There is a gap behind every page but the last. -/
theorem spaced_cons_cons (p q : Page) (pages : List Page) :
    spaced (p :: q :: pages) = p ++ ([.gap] ++ spaced (q :: pages)) := by
  simp [spaced]

/-- The declaration that is in force for an inherited one: its override in the previous
file, if there is one. -/
def inForce (previous : Option Content) (d : Declaration) : Declaration :=
  match previous.bind fun c => c.declarations.get? d.name with
  | some p =>
    if p.isOverride then { name := d.name, isOverride := true, body := p.body }
    else { d with isOverride := false }
  | none => { d with isOverride := false }

theorem name_inForce (previous : Option Content) (d : Declaration) :
    (inForce previous d).name = d.name := by
  rw [inForce]
  split
  · split <;> rfl
  · rfl

end InheritedFile

namespace Reading.Declares

variable {s : Reading × List Line} {o : Bool} {ds : List Declaration} {b : Bool}

theorem label {line : Text} (h : Declares o ds s) (hl : isLabelLine line = true) :
    Declares o ds (visit.step s line) := by
  obtain ⟨⟨g, n, cs, dcl, rs⟩, kept⟩ := s
  rw [(Step.label hl).eq]
  exact ⟨h.region, h.declarations, h.callSites⟩

theorem gap (h : Declares o ds s) : Declares o ds (run s (Page.layoutFrom b [.gap])) := by
  cases b with
  | true => exact h
  | false =>
    obtain ⟨⟨g, n, cs, dcl, rs⟩, kept⟩ := s
    obtain ⟨rfl, hds, hcs⟩ := h
    have hstep : visit.step (⟨.outside o, n, cs, dcl, rs⟩, kept) [] =
        (⟨.outside o, n + 1, cs, dcl, rs⟩, keep [] kept) := (Step.outsideBlank rfl rfl rfl).eq
    show Declares o ds (visit.step (⟨.outside o, n, cs, dcl, rs⟩, kept) [])
    rw [hstep]
    exact ⟨rfl, hds, hcs⟩

theorem overrideMark (h : Declares o ds s) :
    Declares true ds (visit.step s ModuleWiring.overrideMark) := by
  obtain ⟨⟨g, n, cs, dcl, rs⟩, kept⟩ := s
  obtain ⟨rfl, hds, hcs⟩ := h
  rw [(Step.overrideMark rfl rfl).eq]
  exact ⟨rfl, hds, hcs⟩

/-- The lines of a body go into the declaration, by induction on them. -/
theorem run_body {body : List Text} (hbody : ∀ l ∈ body, IsBodyLine l) (d : Declaration)
    (m n : Nat) (cs : List CallSite) (dcl : List Declaration) (rs : NameSet) (kept : List Line) :
    ∃ n' kept', run (⟨.declaration d m, n, cs, dcl, rs⟩, kept) body =
      (⟨.declaration { d with body := d.body ++ body } m, n', cs, dcl, rs⟩, kept') := by
  induction body generalizing d n kept with
  | nil => exact ⟨n, kept, by simp⟩
  | cons l body ih =>
    have hl := hbody l List.mem_cons_self
    rw [run_cons, (Step.declarationLine hl.notLabel hl.notEnd hl.notBlank).eq]
    obtain ⟨n', kept', h⟩ := ih (fun l' hl' => hbody l' (List.mem_cons_of_mem l hl'))
      { d with body := d.body ++ [l] } (n + 1) ({ text := l } :: kept)
    exact ⟨n', kept', by rw [h]; simp⟩

/-- A written declaration is come to as it is, but for the override mark in front. -/
theorem declarationPage {d : Declaration} (hd : d.Legible) (h : Declares o ds s) :
    Declares false (ds ++ [{ d with isOverride := o }])
      (run s (Page.layoutFrom b (InheritedFile.declarationPage d))) := by
  obtain ⟨⟨g, n, cs, dcl, rs⟩, kept⟩ := s
  obtain ⟨rfl, rfl, hcs⟩ := h
  rw [InheritedFile.declarationPage_eq, Page.layoutFrom_lines, InheritedFile.declarationLines]
  split
  · next hempty =>
    have htrim : Text.trimEnd (Heading.opening d.name ++ ['\x7d']) =
        Heading.opening d.name ++ ['\x7d'] := Text.trimEnd_concat_of_not_blank rfl
    have hbody : d.body = [] := List.isEmpty_iff.mp hempty
    rw [List.map_singleton, run_singleton, htrim, (Step.emptyDeclaration
      (Heading.isLabelLine_opening _ _) (Heading.ofLine?_emptyDeclaration hd.isName)).eq]
    exact ⟨rfl, by simp [hbody], hcs⟩
  · have hlabel := Heading.isLabelLine_opening d.name []
    rw [List.append_nil] at hlabel
    obtain ⟨n', kept', hrun⟩ := run_body hd.body { name := d.name, isOverride := o } (n + 1)
      (n + 1) cs dcl rs (keep (Heading.opening d.name) kept)
    have hbody : d.body.map Text.trimEnd = d.body :=
      Text.map_trimEnd_eq_self fun l hl => (hd.body l hl).isLine.trimmed
    rw [List.map_cons, Heading.trimEnd_opening, List.map_append, hbody, run_cons,
      (Step.declarationHeading hlabel (Heading.ofLine?_opening hd.isName)).eq, run_append, hrun]
    show Declares _ _ (visit.step _ blockEnd)
    rw [Step.declarationEnd.eq]
    exact ⟨rfl, by simp, hcs⟩

theorem layoutFrom_overrideMark (b : Bool) (p : Page) :
    Page.layoutFrom b (.line ModuleWiring.overrideMark :: p) =
      ModuleWiring.overrideMark :: Page.layoutFrom false p := by
  rw [Page.layoutFrom_line]
  rfl

/-- What takes the place of a declaration is come to, marked as an override if it is
one. -/
theorem inheritedPage {previous : Option Content} {d : Declaration} (hd : d.Legible)
    (hp : ∀ c ∈ previous, c.DeclaresLegibly) (h : Declares false ds s) :
    Declares false (ds ++ [InheritedFile.inForce previous d])
      (run s (Page.layoutFrom b (InheritedFile.inheritedPage previous d))) := by
  rw [InheritedFile.inheritedPage, InheritedFile.override?, InheritedFile.inForce]
  cases hget : previous.bind fun c => c.declarations.get? d.name with
  | none => exact h.declarationPage hd
  | some p =>
    -- a declaration of the previous file counts only if it is marked
    obtain ⟨c, hc, hpget⟩ := Option.bind_eq_some_iff.mp hget
    obtain ⟨hname, hlegible⟩ := (hp c hc).of_get? hpget
    by_cases hov : p.isOverride = true
    · have hpage := h.overrideMark.declarationPage (b := false) hlegible
      rw [hname] at hpage
      rw [Option.filter_some_pos hov]
      simp only [hov, if_true]
      rwa [layoutFrom_overrideMark, run_cons]
    · rw [Option.filter_some_neg (Bool.eq_false_iff.mpr hov)]
      simp only [hov]
      exact h.declarationPage hd

/-- Pages with gaps between them, by induction on the pages. -/
theorem spaced {α : Type} {xs : List α} {page : α → Page} {effect : α → List Declaration}
    (hpage : ∀ x ∈ xs, ∀ s ds b, Declares false ds s →
      Declares false (ds ++ effect x) (run s (Page.layoutFrom b (page x))))
    (h : Declares false ds s) :
    Declares false (ds ++ xs.flatMap effect)
      (run s (Page.layoutFrom b (InheritedFile.spaced (xs.map page)))) := by
  induction xs generalizing s ds b with
  | nil => simpa [InheritedFile.spaced] using h
  | cons x xs ih =>
    have hx := hpage x List.mem_cons_self s ds b h
    rcases xs with _ | ⟨y, ys⟩
    · simpa [InheritedFile.spaced] using hx
    · rw [List.map_cons, List.map_cons, InheritedFile.spaced_cons_cons, Page.layoutFrom_append,
        Page.layoutFrom_append, run_append, run_append, List.flatMap_cons, ← List.append_assoc]
      exact ih (fun y hy => hpage y (List.mem_cons_of_mem x hy)) hx.gap

/-- The content of a text whose reading has come to declarations of distinct names. -/
theorem content {t : Text} (h : Declares false ds (ofText t))
    (hnodup : (ds.map Declaration.name).Nodup) :
    (Content.ofText t).unclosed = none ∧ (Content.ofText t).callSites.entries = [] ∧
      (Content.ofText t).declarations.entries = ds.map fun d => (d.name, d) := by
  obtain ⟨hregion, hds, hcs⟩ := h
  refine ⟨?_, ?_, ?_⟩
  · rw [Content.ofText_eq, Reading.content, Reading.unclosed, hregion]
  · rw [Content.ofText_eq, Reading.content, hcs]
    rfl
  · rw [Content.ofText_eq, Reading.content, hds]
    exact OrderedMap.entries_ofList (by simpa [Function.comp_def] using hnodup)

end Reading.Declares

namespace InheritedFile

open Reading

variable {main : Content} {previous : Option Content} {files : ModuleFiles}

theorem not_feed_withoutHere {t : Text} (h : '\n' ∉ t) : '\n' ∉ withoutHere t := by
  induction t using withoutHere.induct with
  | case1 t ih =>
    rw [withoutHere]
    exact ih fun hm => h (List.mem_cons_of_mem _ (List.mem_cons_of_mem _ hm))
  | case2 t hne =>
    rw [withoutHere]
    · exact h
    · exact hne

theorem not_feed_sourcePath {source name : Text} (hs : '\n' ∉ source) (hn : '\n' ∉ name) :
    '\n' ∉ sourcePath source name := by
  have hfolder : '\n' ∉ withoutHere (source.reverse.dropWhile (· == '/')).reverse := by
    refine not_feed_withoutHere fun hm => hs ?_
    exact List.mem_reverse.mp ((List.dropWhile_suffix _).subset (List.mem_reverse.mp hm))
  rw [sourcePath]
  split
  · exact hn
  · intro hm
    rcases List.mem_append.mp hm with hm | hm
    · exact hfolder hm
    · rcases List.mem_cons.mp hm with hm | hm
      · exact absurd hm (by decide)
      · exact hn hm

theorem isLabelLine_heading (sec : Section) : isLabelLine (Text.trimEnd sec.heading) = true := by
  rw [Section.heading, List.append_assoc, List.append_assoc, List.append_assoc]
  exact isLabelLine_written (b := []) rfl

/-- The page of a section is read as the declarations in force for its own. -/
theorem declares_section {sec : Section} {s : Reading × List Line} {ds : List Declaration}
    {b : Bool} (hsec : ∀ d ∈ sec.declarations, d.Legible)
    (hp : ∀ c ∈ previous, c.DeclaresLegibly) (h : Declares false ds s) :
    Declares false (ds ++ sec.declarations.map (inForce previous))
      (run s (Page.layoutFrom b (sec.page previous))) := by
  rw [Section.page, Page.layoutFrom_line, run_cons, List.map_eq_flatMap (f := inForce previous)]
  exact (h.label (isLabelLine_heading sec)).spaced fun d hd s ds b hs =>
    hs.inheritedPage (hsec d hd) hp

theorem mem_sectionsFrom {declared : List Text} {srcs : List (CallSite × VariableFile)}
    {sec : Section} (h : sec ∈ sectionsFrom main declared srcs) :
    (sec.site, sec.file) ∈ srcs ∧ ∀ d ∈ sec.declarations,
      d ∈ sec.file.content.declarations.values := by
  induction srcs generalizing declared with
  | nil => simp [sectionsFrom] at h
  | cons src srcs ih =>
    obtain ⟨site, file⟩ := src
    rw [sectionsFrom] at h
    split at h
    · exact (ih h).imp (List.mem_cons_of_mem _) id
    · rcases List.mem_cons.mp h with rfl | h
      · exact ⟨List.mem_cons_self, fun d hd => (List.mem_filter.mp hd).1⟩
      · exact (ih h).imp (List.mem_cons_of_mem _) id

/-- The reading of a written inherited file. -/
theorem declares_layout (main : Content)
    (hfiles : ∀ name, ∀ file ∈ files.of name, file.content.DeclaresLegibly)
    (hp : ∀ c ∈ previous, c.DeclaresLegibly) :
    Declares false ((firsts (wanted main files)).map (inForce previous))
      (run ({}, []) (page main previous files).layout) := by
  have hsections : (firsts (wanted main files)).map (inForce previous) =
      (sections main files).flatMap fun sec => sec.declarations.map (inForce previous) := by
    rw [← flatMap_sections hfiles, List.map_flatMap]
  have hstart : Declares false [] (({}, []) : Reading × List Line) := ⟨rfl, rfl, rfl⟩
  rw [hsections, ← List.nil_append (List.flatMap _ _)]
  refine hstart.spaced fun sec hsec s ds b hs => declares_section (fun d hd => ?_) hp hs
  obtain ⟨hsrc, hvalues⟩ := mem_sectionsFrom hsec
  exact (hfiles _ _ (mem_sources hsrc).2).legible (hvalues d hd)

/-! ### The text -/

theorem onLines_spaced {pages : List Page} (h : ∀ p ∈ pages, p.OnLines) :
    (spaced pages).OnLines := by
  induction pages with
  | nil => exact Page.onLines_nil
  | cons p pages ih =>
    have hp := h p List.mem_cons_self
    rcases pages with _ | ⟨q, pages⟩
    · simpa [spaced] using hp
    · rw [spaced_cons_cons]
      exact hp.append (Page.onLines_gap.append (ih fun r hr => h r (List.mem_cons_of_mem p hr)))

theorem nodup_map_name_inForce (previous : Option Content) (ds : List Declaration) :
    (((firsts ds).map (inForce previous)).map Declaration.name).Nodup := by
  have hname : Declaration.name ∘ inForce previous = Declaration.name :=
    funext (name_inForce previous)
  rw [List.map_map, hname]
  exact nodup_map_name_firsts ds

theorem onLines_declarationPage {d : Declaration} (hd : d.Legible) :
    (declarationPage d).OnLines := by
  have hopening := Heading.not_feed_opening hd.nameOnLine
  rw [declarationPage_eq]
  refine Page.onLines_lines fun l hl => ?_
  rw [declarationLines] at hl
  split at hl
  · rw [List.mem_singleton.mp hl]
    simpa using hopening
  · rcases List.mem_cons.mp hl with rfl | hl
    · exact hopening
    · rcases List.mem_append.mp hl with hl | hl
      · exact (hd.body l hl).isLine.noFeed
      · rw [List.mem_singleton.mp hl]
        decide

theorem onLines_inheritedPage {d : Declaration} (hd : d.Legible)
    (hp : ∀ c ∈ previous, c.DeclaresLegibly) : (inheritedPage previous d).OnLines := by
  rw [inheritedPage]
  split
  · next o ho =>
    obtain ⟨hbind, -⟩ := Option.filter_eq_some_iff.mp ho
    obtain ⟨c, hc, hget⟩ := Option.bind_eq_some_iff.mp hbind
    have hmark : Page.OnLines [.line overrideMark] := Page.onLines_line (by decide)
    exact hmark.append (onLines_declarationPage ((hp c hc).of_get? hget).2)
  · exact onLines_declarationPage hd

theorem onLines_page {main : Text} (hf : files.AreRead)
    (hp : ∀ c ∈ previous, c.DeclaresLegibly) :
    (page (Content.ofText main) previous files).OnLines := by
  refine onLines_spaced fun p hpage => ?_
  obtain ⟨sec, hsec, rfl⟩ := List.mem_map.mp hpage
  obtain ⟨hsrc, hvalues⟩ := mem_sectionsFrom hsec
  obtain ⟨hsite, hfile⟩ := mem_sources hsrc
  have hline := Content.onLine_callSites hsite
  have hpath := not_feed_sourcePath hline.source (hf.not_feed hfile)
  have hheading : Page.OnLines [.line sec.heading] := by
    have hfront : '\n' ∉ labelMark ++ " MODULE ".toList := by decide
    have hmiddle : '\n' ∉ " FILE ".toList := by decide
    refine Page.onLines_line ?_
    rw [Section.heading, List.mem_append, List.mem_append, List.mem_append]
    exact fun h => h.elim (fun h => h.elim (fun h => h.elim hfront hline.name) hmiddle) hpath
  refine hheading.append (onLines_spaced fun q hq => ?_)
  obtain ⟨d, hd, rfl⟩ := List.mem_map.mp hq
  exact onLines_inheritedPage ((hf.declaresLegibly hfile).legible (hvalues d hd)) hp

/-- The inherited file that is written for a main file and the previous inherited file. -/
def written (main : Text) (previous : Option Text) (files : ModuleFiles) : Text :=
  render (Content.ofText main) (previous.map Content.ofText) files

theorem declaresLegibly_previous (previous : Option Text) :
    ∀ c ∈ previous.map Content.ofText, c.DeclaresLegibly := by
  intro c hc
  obtain ⟨t, -, rfl⟩ := Option.map_eq_some_iff.mp hc
  exact Content.declaresLegibly_ofText t

/-- The reading of a written inherited file comes to the declarations in force. -/
theorem declares_written (main : Text) (previous : Option Text) (hf : files.AreRead) :
    Declares false ((firsts (wanted (Content.ofText main) files)).map
      (inForce (previous.map Content.ofText))) (Reading.ofText (written main previous files)) := by
  have hp := declaresLegibly_previous previous
  have hread := declares_layout (Content.ofText main) (fun _ _ hfile => hf.declaresLegibly hfile) hp
  rw [← Reading.ofText_render (onLines_page hf hp)] at hread
  rw [written, render]
  exact hread

/-- **A written inherited file is read back as what it means.**  It leaves no block open
and holds no call site, and its declarations are, in order, the first occurrences of what
is wanted, each with its override in the previous file in force. -/
theorem content_written (main : Text) (previous : Option Text) (hf : files.AreRead) :
    (Content.ofText (written main previous files)).unclosed = none ∧
      (Content.ofText (written main previous files)).callSites.entries = [] ∧
      (Content.ofText (written main previous files)).declarations.entries =
        (firsts (wanted (Content.ofText main) files)).map fun d =>
          (d.name, inForce (previous.map Content.ofText) d) := by
  have hentries : ((firsts (wanted (Content.ofText main) files)).map fun d =>
      (d.name, inForce (previous.map Content.ofText) d)) =
      ((firsts (wanted (Content.ofText main) files)).map
        (inForce (previous.map Content.ofText))).map fun d => (d.name, d) := by
    rw [List.map_map]
    refine List.map_congr_left fun d _ => ?_
    rw [Function.comp_apply, name_inForce]
  rw [hentries]
  exact (declares_written main previous hf).content (nodup_map_name_inForce _ _)

/-- A declaration of the module `network`, for which the previous file holds an override. -/
theorem content_written_override :
    let main := "module \"network\" \x7b\n  source = \"./network\"\n\x7d\n".toList
    let previous := some "# override\nvariable \"zone\" \x7b\n  default = 1\n\x7d\n".toList
    let files := ModuleFiles.ofTexts
      [("network".toList, [("variables.tf".toList, "variable \"zone\" \x7b\x7d\n".toList)])]
    files.AreRead ∧
      (Content.ofText (written main previous files)).declarations.entries =
        [("zone".toList, { name := "zone".toList, isOverride := true,
                           body := ["  default = 1".toList] })] := by
  intro main previous files
  have hf : files.AreRead := ModuleFiles.areRead_ofTexts (by decide)
  refine ⟨hf, ?_⟩
  rw [(content_written main previous hf).2.2]
  decide

end InheritedFile

end ModuleWiring

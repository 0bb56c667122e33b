/-
The spacing of the texts that are written.

Whatever the main file, the previous inherited file and the variable files hold, what is written
for them has no stray blanks and no blank lines in a row.  The main file owes this to what is
kept and recorded of it, for a page guards only its own gaps; the inherited file is made of
lines with more than blanks:

* `Text.CleanlySpaced` — the lines of a text, one by one and next to each other;
* `Page.cleanlySpaced_render` — such is the text of a page with its blank lines set apart;
* `InheritedFile.stands_page` — the inherited file begins and ends with a line of more than
  blanks;
* `cleanlySpaced_written` — both files together.
-/
import ModuleWiring.Proofs.InheritedFile.RoundTrip
import ModuleWiring.Proofs.MainFile.Spacing

namespace ModuleWiring

open Reading

/-- A text whose lines do not end in blanks, in which no empty line follows another one, and
which ends with its last line. -/
structure Text.CleanlySpaced (t : Text) : Prop where
  trimmed : ∀ l ∈ t.lines, ∀ c ∈ l.getLast?, isBlankChar c = false
  apart : t.lines.IsChain fun l m => ¬(l = [] ∧ m = [])
  ended : t ≠ [] → t.getLast? = some '\n'

theorem Text.getLast?_ofLines {ls : List Text} (h : ofLines ls ≠ []) :
    (ofLines ls).getLast? = some '\n' := by
  rcases List.eq_nil_or_concat ls with rfl | ⟨ls, l, rfl⟩
  · exact absurd rfl h
  · rw [List.concat_eq_append, ofLines_append]
    simp [ofLines]

theorem Page.cleanlySpaced_render {p : Page} (h : p.OnLines) (ha : p.SetApart false) :
    p.render.CleanlySpaced := by
  refine ⟨fun l hl c hc => ?_, ?_, Text.getLast?_ofLines⟩
  · rw [Page.lines_render h] at hl
    obtain ⟨l, rfl⟩ := List.getLast?_eq_some_iff.mp hc
    simpa using Text.trimEnd_eq_self_iff.mp (Page.trimEnd_of_mem_layoutFrom hl) (by simp)
  · rw [Page.lines_render h]
    exact ha.isChain

namespace InheritedFile

variable {previous : Option Content} {files : ModuleFiles}

theorem stands_spaced {pages : List Page} (h : ∀ p ∈ pages, p.Stands) (hne : pages ≠ []) :
    (spaced pages).Stands := by
  induction pages with
  | nil => exact absurd rfl hne
  | cons p pages ih =>
    have hp := h p List.mem_cons_self
    rcases pages with _ | ⟨q, pages⟩
    · simpa [spaced] using hp
    · rw [spaced_cons_cons]
      exact hp.append_gap (ih (fun r hr => h r (List.mem_cons_of_mem p hr)) (by simp))

/-- A body has no blank lines, so a declaration has none. -/
theorem stands_declarationPage {d : Declaration} (hd : d.Legible) : (declarationPage d).Stands := by
  have hopening := Heading.not_blank_opening d.name []
  rw [List.append_nil] at hopening
  rw [declarationPage_eq, declarationLines]
  split
  · exact .of_line (Heading.not_blank_opening d.name _)
  · refine Page.stands_of_not_blank (by simp) fun l hl => ?_
    rcases List.mem_cons.mp hl with rfl | hl
    · exact hopening
    · rcases List.mem_append.mp hl with hl | hl
      · exact (hd.body l hl).notBlank
      · rw [List.mem_singleton.mp hl]
        exact isBlank_blockEnd

theorem stands_inheritedPage {d : Declaration} (hd : d.Legible)
    (hp : ∀ c ∈ previous, c.DeclaresLegibly) : (inheritedPage previous d).Stands := by
  rw [inheritedPage]
  split
  · next o ho =>
    obtain ⟨hbind, -⟩ := Option.filter_eq_some_iff.mp ho
    obtain ⟨c, hc, hget⟩ := Option.bind_eq_some_iff.mp hbind
    exact (stands_declarationPage ((hp c hc).of_get? hget).2).cons_line rfl
  · exact stands_declarationPage hd

theorem stands_section {sec : Section} (hsec : ∀ d ∈ sec.declarations, d.Legible)
    (hp : ∀ c ∈ previous, c.DeclaresLegibly) : (sec.page previous).Stands := by
  have hheading : Text.isBlank sec.heading = false := rfl
  rw [Section.page]
  by_cases hnil : sec.declarations = []
  · rw [hnil]
    exact .of_line hheading
  · refine (stands_spaced (fun p hpage => ?_) (by simpa using hnil)).cons_line hheading
    obtain ⟨d, hd, rfl⟩ := List.mem_map.mp hpage
    exact stands_inheritedPage (hsec d hd) hp

/-- The page of an inherited file holds nothing, or it begins and ends with a line of more than
blanks. -/
theorem stands_page (main : Content) (hf : files.AreRead)
    (hp : ∀ c ∈ previous, c.DeclaresLegibly) :
    page main previous files = [] ∨ (page main previous files).Stands := by
  rw [page]
  by_cases hnil : sections main files = []
  · rw [hnil]
    exact .inl rfl
  · refine .inr (stands_spaced (fun p hpage => ?_) (by simpa using hnil))
    obtain ⟨sec, hsec, rfl⟩ := List.mem_map.mp hpage
    obtain ⟨hsrc, hvalues⟩ := mem_sectionsFrom hsec
    exact stands_section
      (fun d hd => (hf.declaresLegibly (mem_sources hsrc).2).legible (hvalues d hd)) hp

end InheritedFile

/-- **What is written is cleanly spaced.**  In the main file and in the inherited file that are
written for any texts, no line ends in blanks, no empty line follows another one, and the text
ends with its last line.  In the main file no brace right behind an empty line ends a block, and
the inherited file neither begins nor ends with an empty line. -/
theorem cleanlySpaced_written (main : Text) (previous : Option Text) {files : ModuleFiles}
    (hf : files.AreRead) :
    (MainFile.written main files).CleanlySpaced ∧
    (InheritedFile.written main previous files).CleanlySpaced ∧
    Text.SetOff (MainFile.written main files).lines ∧
    (∀ l ∈ (InheritedFile.written main previous files).lines.head?, l ≠ []) ∧
    ∀ l ∈ (InheritedFile.written main previous files).lines.getLast?, l ≠ [] := by
  have hp := InheritedFile.declaresLegibly_previous previous
  have hmain : (MainFile.page (Content.ofText main) files).OnLines :=
    MainFile.onLines_page_of_areRead hf
  have hinherited : (InheritedFile.page (Content.ofText main) (previous.map Content.ofText)
      files).OnLines := InheritedFile.onLines_page hf hp
  refine ⟨Page.cleanlySpaced_render hmain (MainFile.setApart_page main files), ?_⟩
  rw [MainFile.written, MainFile.render, Page.lines_render hmain, InheritedFile.written,
    InheritedFile.render, Page.lines_render hinherited]
  have hsetOff := MainFile.setOff_page main files
  rcases InheritedFile.stands_page (Content.ofText main) hf hp with hnil | hstands
  · have hempty : (InheritedFile.page (Content.ofText main) (previous.map Content.ofText)
        files).layout = [] := by
      rw [hnil]
      rfl
    exact ⟨Page.cleanlySpaced_render hinherited (hnil ▸ trivial), hsetOff, by simp [hempty],
      by simp [hempty]⟩
  · exact ⟨Page.cleanlySpaced_render hinherited hstands.apart, hsetOff,
      fun _ => hstands.ne_nil_of_head?, fun _ => hstands.ne_nil_of_getLast?⟩

/-- A call site with empty lines everywhere, and a file with a label that ends in a blank. -/
theorem cleanlySpaced_written_network :
    let main : Text := ("\n\nmodule \"network\" \x7b  \n\n\n  source = \"./network\"\n" ++
      "  zones = [\n\n\n    1\n  ]\n\n\n\x7d\n\n\n").toList
    let files := ModuleFiles.ofTexts [("network".toList, [
      ("variables-lan .tf".toList, "variable \"size\" \x7b\n\n\x7d\n".toList)])]
    files.AreRead ∧ (MainFile.written main files).CleanlySpaced ∧
      Text.SetOff (MainFile.written main files).lines ∧
      (MainFile.written main files).lines = [[], "module \"network\" \x7b".toList, [],
        "  source = \"./network\"".toList, [], "  #~ lan".toList, "  size = var.size".toList, [],
        "  zones = [".toList, [], "    1".toList, "  ]".toList, "\x7d".toList, []] ∧
      (InheritedFile.written main none files).CleanlySpaced := by
  intro main files
  have hf : files.AreRead := ModuleFiles.areRead_ofTexts (by decide)
  obtain ⟨hmain, hinherited, hsetOff, -, -⟩ := cleanlySpaced_written main none hf
  have hlines : (MainFile.written main files).lines = [[], "module \"network\" \x7b".toList, [],
      "  source = \"./network\"".toList, [], "  #~ lan".toList, "  size = var.size".toList, [],
      "  zones = [".toList, [], "    1".toList, "  ]".toList, "\x7d".toList, []] := by
    decide
  exact ⟨hf, hmain, hsetOff, hlines, hinherited⟩

end ModuleWiring

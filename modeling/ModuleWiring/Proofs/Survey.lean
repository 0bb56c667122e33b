/-
A survey stops at a block that is left open.

Every block that a text opens either ends behind a kept line or is left open by the end of
the text.  So where a block lacks its end the content says so, and a survey of a project
with that main file gives a fault and no project: the file is not written anew.

* `project?_of_unclosed` — the fault of a main file with an open block;
* `blocks_accounted` — what becomes of the blocks that a main file opens;
* `headings_absorbed` — a heading in a block is a line of that block and opens none.
-/
import ModuleWiring.Project.Survey
import ModuleWiring.Proofs.Reading.Openings
import ModuleWiring.Proofs.Reading.Recorded

namespace ModuleWiring

/-- The blocks that lines read like the first lines of, wherever they stand; only lines of
values are left out. -/
def Reading.headings : Reading × List Line → List Text → List BlockEnd
  | _, [] => []
  | s, line :: ls =>
    (if s.1.current?.isSome then [] else (Heading.opens? line).toList) ++
      headings (visit.step s line) ls

namespace Survey

variable {s : Survey} {options : Options} {t : Text} {u : Unclosed}

/-- A start that fails gives no project. -/
theorem project?_of_start? {fault : Fault}
    (h : start? s.options s.main s.inherited = .error fault) : s.project? = .error fault := by
  rw [project?, h]
  rfl

/-- An inherited file that is there has to be readable. -/
theorem start?_of_unreadable {f : Fault} (hf : f.isMissing = false) :
    start? options (.ok t) (.error f) = .error f := by
  simp [start?, hf, bind, Except.bind]

/-- A main file with an open block is not written anew. -/
theorem start?_of_unclosed {inherited : Except Fault Text}
    (hu : (Content.ofText t).unclosed = some u)
    (hinherited : ∀ f, inherited = .error f → f.isMissing = true) :
    start? options (.ok t) inherited = .error (.unclosed u options.mainPath) := by
  rcases inherited with f | text
  · simp [start?, hu, hinherited f rfl, bind, Except.bind, pure, Except.pure]
  · simp [start?, hu, bind, Except.bind, pure, Except.pure]

/-- The fault of a main file with an open block.  Only an inherited file that is there and
cannot be read comes before it. -/
theorem project?_of_unclosed (hmain : s.main = .ok t) (hu : (Content.ofText t).unclosed = some u) :
    ∃ fault, s.project? = .error fault ∧
      ((∀ f, s.inherited = .error f → f.isMissing = true) →
        fault = .unclosed u s.options.mainPath) := by
  by_cases hfault : ∃ f, s.inherited = .error f ∧ f.isMissing = false
  · obtain ⟨f, hf, hmissing⟩ := hfault
    have hstart : start? s.options s.main s.inherited = .error f := by
      rw [hmain, hf, start?_of_unreadable hmissing]
    refine ⟨f, project?_of_start? hstart, fun h => ?_⟩
    exact absurd (hmissing.symm.trans (h f hf)) Bool.false_ne_true
  · have hinherited : ∀ f, s.inherited = .error f → f.isMissing = true := by
      intro f hf
      rw [← Bool.not_eq_false]
      exact fun hmissing => hfault ⟨f, hf, hmissing⟩
    exact ⟨_, project?_of_start? (hmain ▸ start?_of_unclosed hu hinherited), fun _ => rfl⟩

/-- **No block is lost on the way.**  The blocks that a main file opens are those that its
content says have ended, in the same order, and then the one that is left open.  So if none
is, there are as many ends of either kind as lines that open a block; and if a block lacks
its end, it is the last one, and a survey gives no project. -/
theorem blocks_accounted (t : Text) :
    t.openings = (Content.ofText t).closings ++
      (Content.ofText t).unclosed.toList.map Unclosed.block ∧
    ((Content.ofText t).unclosed = none → ∀ kind : BlockKind,
      t.openings.countP (·.kind = kind) = (Content.ofText t).closings.countP (·.kind = kind)) ∧
    (t.openings ≠ (Content.ofText t).closings → ∃ u, (Content.ofText t).unclosed = some u ∧
      t.openings = (Content.ofText t).closings ++ [u.block] ∧
      ∀ s : Survey, s.main = .ok t → ∃ fault, s.project? = .error fault ∧
        ((∀ f, s.inherited = .error f → f.isMissing = true) →
          fault = .unclosed u s.options.mainPath)) := by
  have hopenings := Content.openings_eq t
  refine ⟨hopenings, fun hclosed kind => ?_, fun hne => ?_⟩
  · rw [hopenings, hclosed]
    simp
  · rcases hu : (Content.ofText t).unclosed with _ | u
    · rw [hu] at hopenings
      exact absurd (hopenings.trans (List.append_nil _)) hne
    · rw [hu] at hopenings
      exact ⟨u, rfl, hopenings, fun s hmain => project?_of_unclosed hmain hu⟩

/-- A call site that ends, and one behind it that does not. -/
theorem blocks_accounted_unclosed :
    let closed : Text := "module \"a\" \x7b\n\x7d\n".toList
    let t : Text := closed ++ "module \"b\" \x7b\n  source = \"./b\"\n".toList
    let s : Survey := { options := { root := ⟨"p".toList⟩ }, main := .ok t, modules := []
                        inherited := .error (.missing ⟨"p/variables-inherited.tf".toList⟩) }
    (Content.ofText closed).unclosed = none ∧
      closed.openings.countP (·.kind = .callSite) =
        (Content.ofText closed).closings.countP (·.kind = .callSite) ∧
      t.openings ≠ (Content.ofText t).closings ∧ ∃ u, (Content.ofText t).unclosed = some u ∧
        s.project? = .error (.unclosed u s.options.mainPath) := by
  intro closed t s
  have hclosed : (Content.ofText closed).unclosed = none := by decide
  have hne : t.openings ≠ (Content.ofText t).closings := by decide
  obtain ⟨u, hu, -, hproject⟩ := (blocks_accounted t).2.2 hne
  obtain ⟨fault, hfault, hunclosed⟩ := hproject s rfl
  have hmissing : ∀ f, s.inherited = .error f → f.isMissing = true := by
    intro f hf
    obtain rfl := Except.error.inj hf
    rfl
  exact ⟨hclosed, (blocks_accounted closed).2.1 hclosed _, hne, u, hu,
    hunclosed hmissing ▸ hfault⟩

/-- A heading in a block is a line of that block: two blocks of either kind lack their ends
here, and neither is noticed. -/
theorem headings_absorbed :
    let t : Text := ("module \"a\" \x7b\n  source = \"./a\"\nmodule \"b\" \x7b\n" ++
      "  source = \"./b\"\n\x7d\nvariable \"c\" \x7b\nvariable \"d\" \x7b\n\x7d\n").toList
    (Content.ofText t).unclosed = none ∧
      (Reading.headings ({}, []) (t.lines.map Text.trimEnd)).countP (·.kind = .callSite) = 2 ∧
      (Reading.headings ({}, []) (t.lines.map Text.trimEnd)).countP (·.kind = .declaration) = 2 ∧
      (Content.ofText t).closings = [{ kind := .callSite, name := "a".toList },
        { kind := .declaration, name := "c".toList }] := by
  decide

end Survey

end ModuleWiring

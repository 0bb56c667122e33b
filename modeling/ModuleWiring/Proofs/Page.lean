/-
The lines of a page.

A page is laid out piece by piece: only whether a blank line has just been written
matters for what follows.

* `layoutFrom_append` — pages behind one another;
* `infix_layout` — lines of a page stand in its layout;
* `lines_render` — the text of a page has the lines of its layout;
* `trimEnd_of_mem_layoutFrom` — no line of a layout ends in blanks.
-/
import ModuleWiring.Page
import ModuleWiring.Proofs.Text.Blank
import ModuleWiring.Proofs.Text.Lines

namespace ModuleWiring.Page

/-- Whether the last line written is blank, given whether the one before the page is. -/
def endsBlank (afterBlank : Bool) : Page → Bool
  | [] => afterBlank
  | .line t :: items => endsBlank (Text.trimEnd t).isEmpty items
  | .gap :: items => endsBlank true items

@[simp] theorem layoutFrom_nil (b : Bool) : layoutFrom b [] = [] := by
  cases b <;> rfl

@[simp] theorem layoutFrom_line (b : Bool) (t : Text) (items : Page) :
    layoutFrom b (.line t :: items) =
      Text.trimEnd t :: layoutFrom (Text.trimEnd t).isEmpty items := by
  cases b <;> rfl

theorem layoutFrom_append (b : Bool) (p q : Page) :
    layoutFrom b (p ++ q) = layoutFrom b p ++ layoutFrom (endsBlank b p) q := by
  induction p generalizing b with
  | nil => simp [endsBlank]
  | cons item p ih =>
    cases item with
    | line t => simp [endsBlank, ih]
    | gap => cases b <;> simp [layoutFrom, endsBlank, ih]

theorem endsBlank_append (b : Bool) (p q : Page) :
    endsBlank b (p ++ q) = endsBlank (endsBlank b p) q := by
  induction p generalizing b with
  | nil => rfl
  | cons item p ih =>
    cases item with
    | line t => exact ih _
    | gap => exact ih true

theorem layoutFrom_lines (b : Bool) (ls : List Text) :
    layoutFrom b (ls.map .line) = ls.map Text.trimEnd := by
  induction ls generalizing b with
  | nil => simp
  | cons l ls ih => simp [ih]

/-- The lines of a part of a page stand in its layout as they are. -/
theorem infix_layout {p : Page} {ls : List Text} (h : ls.map .line <:+: p) :
    ls.map Text.trimEnd <:+: p.layout := by
  obtain ⟨before, after, rfl⟩ := h
  rw [layout, layoutFrom_append, layoutFrom_append, layoutFrom_lines]
  exact List.infix_append _ _ _

/-- A line of a layout is a gap or stands on the page. -/
theorem mem_layoutFrom {b : Bool} {p : Page} {l : Text} (h : l ∈ layoutFrom b p) :
    l = [] ∨ ∃ t, .line t ∈ p ∧ l = Text.trimEnd t := by
  induction p generalizing b with
  | nil => simp at h
  | cons item p ih =>
    cases item with
    | line t =>
      rw [layoutFrom_line] at h
      rcases List.mem_cons.mp h with rfl | h
      · exact .inr ⟨t, List.mem_cons_self, rfl⟩
      · exact (ih h).imp id fun ⟨u, hu, hl⟩ => ⟨u, List.mem_cons_of_mem _ hu, hl⟩
    | gap =>
      have hp : l = [] ∨ l ∈ layoutFrom true p := by
        cases b
        · exact List.mem_cons.mp h
        · exact .inr h
      rcases hp with hp | hp
      · exact .inl hp
      · exact (ih hp).imp id fun ⟨u, hu, hl⟩ => ⟨u, List.mem_cons_of_mem _ hu, hl⟩

theorem trimEnd_of_mem_layoutFrom {b : Bool} {p : Page} {l : Text} (h : l ∈ layoutFrom b p) :
    Text.trimEnd l = l := by
  rcases mem_layoutFrom h with rfl | ⟨t, -, rfl⟩
  · rfl
  · exact Text.trimEnd_trimEnd t

/-- Whether every line of a page is indeed one line. -/
def OnLines (p : Page) : Prop :=
  ∀ t, .line t ∈ p → '\n' ∉ t

theorem onLines_nil : OnLines [] := by simp [OnLines]

theorem onLines_gap : OnLines [.gap] := by simp [OnLines]

theorem onLines_line {t : Text} (h : '\n' ∉ t) : OnLines [.line t] := by
  intro u hu
  obtain rfl := PageItem.line.inj (List.mem_singleton.mp hu)
  exact h

theorem onLines_lines {ls : List Text} (h : ∀ l ∈ ls, '\n' ∉ l) : OnLines (ls.map .line) := by
  intro t ht
  obtain ⟨l, hl, hlt⟩ := List.mem_map.mp ht
  obtain rfl := PageItem.line.inj hlt
  exact h l hl

theorem OnLines.append {p q : Page} (hp : p.OnLines) (hq : q.OnLines) : OnLines (p ++ q) := by
  intro t ht
  rcases List.mem_append.mp ht with h | h
  · exact hp t h
  · exact hq t h

theorem OnLines.flatMap {α : Type} {xs : List α} {f : α → Page}
    (h : ∀ x ∈ xs, (f x).OnLines) : OnLines (xs.flatMap f) := by
  intro t ht
  obtain ⟨x, hx, hm⟩ := List.mem_flatMap.mp ht
  exact h x hx t hm

theorem lines_render {p : Page} (h : p.OnLines) : Text.lines p.render = p.layout := by
  refine Text.lines_ofLines fun l hl => ?_
  rcases mem_layoutFrom hl with rfl | ⟨t, ht, rfl⟩
  · simp
  · exact fun hm => h t ht (Text.mem_of_mem_trimEnd hm)

end ModuleWiring.Page

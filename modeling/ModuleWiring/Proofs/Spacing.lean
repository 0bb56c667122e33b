/-
Blank lines on pages.

A gap is never laid out behind a blank line, so blank lines pile up only where the lines of a
page do so themselves.  A page that begins and ends with a line of more than blanks can be put
next to any other one.

* `SetApart` — whether the blank lines of a page stand behind others; then they do in its
  layout (`SetApart.isChain`);
* `layout_flatMap` — pages that end in a line of more than blanks are laid out one by one;
* `Stands` — a page that can stand anywhere, and how such pages are made of others.
-/
import Mathlib.Data.List.Chain
import Mathlib.Data.List.Induction
import ModuleWiring.Proofs.Page

namespace ModuleWiring.Page

theorem endsBlank_lines {ls : List Text} {l : Text} (h : l ∈ ls.getLast?) (b : Bool) :
    endsBlank b (ls.map .line) = Text.isBlank l := by
  obtain ⟨ls', rfl⟩ := List.getLast?_eq_some_iff.mp h
  rw [List.map_append, endsBlank_append]
  exact Text.isEmpty_trimEnd l

/-- The last line that is laid out is the blank one that `endsBlank` tells of, or none. -/
theorem isEmpty_of_getLast?_layout {p : Page} {l : Text} (h : l ∈ p.layout.getLast?) :
    l.isEmpty = endsBlank false p := by
  rw [layout] at h
  induction p using List.reverseRecOn with
  | nil => simp at h
  | append_singleton p item ih =>
    rw [layoutFrom_append] at h
    rw [endsBlank_append]
    cases item with
    | line t =>
      rw [layoutFrom_line, layoutFrom_nil, List.getLast?_concat, Option.mem_some_iff] at h
      rw [← h]
      rfl
    | gap =>
      cases hb : endsBlank false p with
      | true =>
        rw [hb] at h ih
        exact ih (by simpa [layoutFrom] using h)
      | false =>
        rw [hb, layoutFrom, layoutFrom_nil, List.getLast?_concat, Option.mem_some_iff] at h
        rw [← h]
        rfl

/-! ### Blank lines -/

/-- Whether the lines of a page that are blank stand behind others, given whether the line in
front of the page is blank.  Gaps do so by themselves. -/
def SetApart : (afterBlank : Bool) → Page → Prop
  | _, [] => True
  | b, .line t :: items => (b && Text.isBlank t) = false ∧ SetApart (Text.isBlank t) items
  | _, .gap :: items => SetApart true items

theorem SetApart.append {b : Bool} {p q : Page} (hp : SetApart b p)
    (hq : SetApart (endsBlank b p) q) : SetApart b (p ++ q) := by
  induction p generalizing b with
  | nil => exact hq
  | cons item p ih =>
    cases item with
    | line t =>
      rw [endsBlank, Text.isEmpty_trimEnd] at hq
      exact ⟨hp.1, ih hp.2 hq⟩
    | gap => exact ih hp hq

theorem setApart_lines {ls : List Text} {b : Bool}
    (hfirst : b = true → ∀ l ∈ ls.head?, Text.isBlank l = false)
    (h : ls.IsChain fun l m => ¬(Text.isBlank l = true ∧ Text.isBlank m = true)) :
    SetApart b (ls.map .line) := by
  induction ls generalizing b with
  | nil => trivial
  | cons l ls ih =>
    refine ⟨?_, ih (fun hb m hm => ?_) h.of_cons⟩
    · cases b with
      | false => rfl
      | true => exact hfirst rfl l rfl
    · rw [← Bool.not_eq_true]
      exact fun hm' => h.rel_head? hm ⟨hb, hm'⟩

theorem SetApart.isChain_cons {b : Bool} {p : Page} {l : Text} (h : SetApart b p)
    (hl : l.isEmpty = b) : (l :: layoutFrom b p).IsChain fun l m => ¬(l = [] ∧ m = []) := by
  induction p generalizing b l with
  | nil => simp
  | cons item p ih =>
    cases item with
    | line t =>
      rw [layoutFrom_line, List.isChain_cons_cons, Text.isEmpty_trimEnd]
      refine ⟨fun hboth => ?_, ih h.2 (Text.isEmpty_trimEnd t)⟩
      have hapart := h.1
      rw [← hl, Text.isBlank_iff_trimEnd.mpr hboth.2, hboth.1] at hapart
      exact absurd hapart (by simp)
    | gap =>
      cases b with
      | true => exact ih h hl
      | false =>
        rw [layoutFrom, List.isChain_cons_cons]
        refine ⟨fun hboth => ?_, ih h rfl⟩
        rw [hboth.1] at hl
        exact absurd hl (by simp)

/-- In the layout of such a page no blank line stands behind a blank one. -/
theorem SetApart.isChain {p : Page} (h : SetApart false p) :
    p.layout.IsChain fun l m => ¬(l = [] ∧ m = []) :=
  (h.isChain_cons (l := ['#']) rfl).of_cons

/-! ### Pages that end in a line with more than blanks -/

section FlatMap

variable {α : Type} {xs : List α} {f : α → Page}

theorem endsBlank_flatMap (h : ∀ x ∈ xs, endsBlank false (f x) = false) :
    endsBlank false (xs.flatMap f) = false := by
  induction xs with
  | nil => rfl
  | cons x xs ih =>
    rw [List.flatMap_cons, endsBlank_append, h x List.mem_cons_self]
    exact ih fun y hy => h y (List.mem_cons_of_mem x hy)

/-- Such pages are laid out one behind the other, each as if it stood alone. -/
theorem layout_flatMap (h : ∀ x ∈ xs, endsBlank false (f x) = false) :
    layout (xs.flatMap f) = xs.flatMap fun x => layout (f x) := by
  rw [layout]
  induction xs with
  | nil => rfl
  | cons x xs ih =>
    rw [List.flatMap_cons, layoutFrom_append, h x List.mem_cons_self,
      ih fun y hy => h y (List.mem_cons_of_mem x hy)]
    rfl

theorem setApart_flatMap (h : ∀ x ∈ xs, endsBlank false (f x) = false)
    (hx : ∀ x ∈ xs, SetApart false (f x)) : SetApart false (xs.flatMap f) := by
  induction xs with
  | nil => trivial
  | cons x xs ih =>
    refine (hx x List.mem_cons_self).append ?_
    rw [h x List.mem_cons_self]
    exact ih (fun y hy => h y (List.mem_cons_of_mem x hy))
      fun y hy => hx y (List.mem_cons_of_mem x hy)

end FlatMap

/-! ### Pages that can stand anywhere -/

/-- A page that begins and ends with a line of more than blanks and sets its blank lines
apart. -/
structure Stands (p : Page) : Prop where
  first : ∃ t items, p = .line t :: items ∧ Text.isBlank t = false
  last : endsBlank false p = false
  apart : SetApart false p

namespace Stands

variable {p q : Page}

theorem endsBlank (h : p.Stands) (b : Bool) : p.endsBlank b = false := by
  obtain ⟨t, items, rfl, -⟩ := h.first
  exact h.last

theorem setApart (h : p.Stands) (b : Bool) : SetApart b p := by
  obtain ⟨t, items, rfl, ht⟩ := h.first
  exact ⟨by rw [ht, Bool.and_false], h.apart.2⟩

theorem append (hp : p.Stands) (hq : q.Stands) : (p ++ q).Stands := by
  obtain ⟨t, items, hitems, ht⟩ := hp.first
  refine ⟨⟨t, items ++ q, by rw [hitems, List.cons_append], ht⟩, ?_, hp.apart.append ?_⟩
  · rw [endsBlank_append]
    exact hq.endsBlank _
  · exact hq.setApart _

theorem append_gap (hp : p.Stands) (hq : q.Stands) : (p ++ .gap :: q).Stands := by
  obtain ⟨t, items, hitems, ht⟩ := hp.first
  refine ⟨⟨t, items ++ .gap :: q, by rw [hitems, List.cons_append], ht⟩, ?_,
    hp.apart.append ?_⟩
  · rw [endsBlank_append]
    exact hq.endsBlank true
  · exact hq.setApart true

/-- A line of more than blanks in front. -/
theorem cons_line {t : Text} (ht : Text.isBlank t = false) (hp : p.Stands) :
    Stands (.line t :: p) := by
  refine ⟨⟨t, p, rfl, ht⟩, ?_, by rw [Bool.false_and], hp.setApart _⟩
  exact hp.endsBlank _

theorem of_line {t : Text} (ht : Text.isBlank t = false) : Stands [.line t] :=
  ⟨⟨t, [], rfl, ht⟩, (Text.isEmpty_trimEnd t).trans ht, by rw [Bool.false_and], trivial⟩

/-- The layout of such a page begins with a line of more than blanks. -/
theorem ne_nil_of_head? (h : p.Stands) {l : Text} (hl : l ∈ p.layout.head?) : l ≠ [] := by
  obtain ⟨t, items, rfl, ht⟩ := h.first
  rw [layout, layoutFrom_line, List.head?_cons, Option.mem_some_iff] at hl
  rw [← hl, ne_eq, ← Text.isBlank_iff_trimEnd, Bool.not_eq_true]
  exact ht

/-- The layout of such a page ends with a line of more than blanks. -/
theorem ne_nil_of_getLast? (h : p.Stands) {l : Text} (hl : l ∈ p.layout.getLast?) : l ≠ [] := by
  rw [← List.isEmpty_eq_false_iff, isEmpty_of_getLast?_layout hl]
  exact h.last

end Stands

theorem stands_of_not_blank {ls : List Text} (hne : ls ≠ [])
    (h : ∀ l ∈ ls, Text.isBlank l = false) : Stands (ls.map .line) := by
  induction ls with
  | nil => exact absurd rfl hne
  | cons l ls ih =>
    have hl := h l List.mem_cons_self
    by_cases hnil : ls = []
    · rw [hnil]
      exact .of_line hl
    · exact (ih hnil fun m hm => h m (List.mem_cons_of_mem l hm)).cons_line hl

theorem stands_lines {l : Text} {ls : List Text} (hfirst : Text.isBlank l = false)
    (hlast : ∀ m ∈ ls.getLast?, Text.isBlank m = false)
    (h : ls.IsChain fun l m => ¬(Text.isBlank l = true ∧ Text.isBlank m = true)) :
    Stands ((l :: ls).map .line) := by
  refine ⟨⟨l, ls.map .line, rfl, hfirst⟩, ?_, setApart_lines (by simp) ?_⟩
  · rcases hls : ls.getLast? with _ | m
    · rw [List.getLast?_eq_none_iff.mp hls]
      exact (Text.isEmpty_trimEnd l).trans hfirst
    · have hm : m ∈ (l :: ls).getLast? := by
        rw [List.getLast?_cons, hls]
        rfl
      rw [endsBlank_lines hm]
      exact hlast m hls
  · refine List.isChain_cons.mpr ⟨fun m _ hboth => ?_, h⟩
    exact absurd (hfirst.symm.trans hboth.1) Bool.false_ne_true

end ModuleWiring.Page

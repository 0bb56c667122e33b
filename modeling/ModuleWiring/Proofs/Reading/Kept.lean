/-
The lines that a reading keeps.

The newest line kept belongs to the open block: it is the heading of the block or stands
behind it, so that the end of the block never falls on a line that another block ends
behind.

* `Topped` — the newest lines kept, by the place where a reading stands;
* `Marked` — every call site that has ended is noted at a kept line;
* `marked_ofText`, `isLine_ofText` — such is the reading of every text, and it keeps lines;
* `exists_endingCallSite` — so every call site of a content ends behind one of its lines.
-/
import ModuleWiring.MainFile
import ModuleWiring.Proofs.OrderedMap
import ModuleWiring.Proofs.Reading.Legible

namespace ModuleWiring

namespace Reading

/-- A line without a mark and with more than blanks, as the newest of kept lines. -/
inductive Topped : Region → List Line → Prop
  | outside {o kept} : Topped (.outside o) kept
  | declaration {d m l ls} (hb : l.isBlank = false) (hm : l.closes = none) :
    Topped (.declaration d m) (l :: ls)
  | callSite {site m cur l ls} (hb : l.isBlank = false) (hm : l.closes = none) :
    Topped (.callSite site m cur) (l :: ls)
  /-- A blank line may follow in a call site. -/
  | callSiteBlank {site m cur l ls} (hb : l.isBlank = false) (hm : l.closes = none) :
    Topped (.callSite site m cur) ({ text := [] } :: l :: ls)

variable {s s' : Reading × List Line} {line : Text} {kept : List Line} {l : Line} {ls : List Line}

theorem keep_of_not_blank (h : Text.isBlank line = false) :
    keep line kept = { text := line } :: kept := by
  rw [keep, h]
  rfl

theorem keep_eq_or (line : Text) (kept : List Line) :
    keep line kept = kept ∨ keep line kept = { text := line } :: kept := by
  rw [keep]
  split
  · exact .inl rfl
  · exact .inr rfl

theorem keep_blank_of_blank (h : l.isBlank = true) : keep [] (l :: ls) = l :: ls := by
  have hb : (Text.isBlank [] && (l :: ls).head?.any Line.isBlank) = true := by
    simp [Text.isBlank, h]
  rw [keep, if_pos hb]

theorem keep_blank_of_not_blank (h : l.isBlank = false) :
    keep [] (l :: ls) = { text := [] } :: l :: ls := by
  have hb : ¬(Text.isBlank [] && (l :: ls).head?.any Line.isBlank) = true := by simp [h]
  rw [keep, if_neg hb]

theorem not_blank_of_heading {h : Heading} (hline : IsLine line)
    (hh : Heading.ofLine? line = some h) : Text.isBlank line = false := by
  rw [← Bool.not_eq_true]
  intro hb
  have hnone : Heading.ofLine? [] = none := rfl
  rw [hline.eq_nil hb, hnone] at hh
  exact absurd hh (by simp)

theorem dropWhile_of_not_blank (h : l.isBlank = false) :
    (l :: ls).dropWhile Line.isBlank = l :: ls := by
  rw [List.dropWhile_cons, h]
  rfl

/-- A line of a call site that is kept leaves a line on top as before. -/
theorem topped_keep {site site' : CallSite} {m m' : Nat} {cur cur' : Option OpenSetting}
    (h : Topped (.callSite site m cur) kept) (hline : IsLine line) :
    Topped (.callSite site' m' cur') (keep line kept) := by
  cases hb : Text.isBlank line with
  | false =>
    rw [keep_of_not_blank hb]
    exact .callSite hb rfl
  | true =>
    rw [hline.eq_nil hb]
    -- a blank line goes on top only where none is
    cases h with
    | callSite hl hm =>
      rw [keep_blank_of_not_blank hl]
      exact .callSiteBlank hl hm
    | callSiteBlank hl hm =>
      rw [keep_blank_of_blank rfl]
      exact .callSiteBlank hl hm

theorem topped_step (hs : Topped s.1.region s.2) (hline : IsLine line) (h : Step s line s') :
    Topped s'.1.region s'.2 := by
  -- a line of a value changes what is known of the call site and keeps nothing
  have value : ∀ {site site' : CallSite} {m : Nat} {cur cur' : Option OpenSetting} {kept},
      Topped (.callSite site m cur) kept → Topped (.callSite site' m cur') kept := by
    intro site site' m cur cur' kept h
    cases h with
    | callSite hl hm => exact .callSite hl hm
    | callSiteBlank hl hm => exact .callSiteBlank hl hm
  cases h with
  | label | passThrough => exact hs
  | overrideMark | emptyDeclaration | outsideBlank | outsideLine | callSiteEnd | declarationEnd =>
    exact .outside
  | callSiteHeading hl hh =>
    have hb := not_blank_of_heading hline hh
    show Topped (.callSite _ _ _) (keep line _)
    rw [keep_of_not_blank hb]
    exact .callSite hb rfl
  | declarationHeading hl hh =>
    have hb := not_blank_of_heading hline hh
    show Topped (.declaration _ _) (keep line _)
    rw [keep_of_not_blank hb]
    exact .declaration hb rfl
  | valueGoesOn | valueEnd | setting | openSetting => exact value hs
  | reserved | callSiteLine => exact topped_keep hs hline
  | declarationBlank =>
    cases hs with
    | declaration hl hm => exact .declaration hl hm
  | declarationLine hl he hb => exact .declaration hb rfl

/-! ### Marks -/

/-- Every call site that has ended is noted at a kept line. -/
def Marked (s : Reading × List Line) : Prop :=
  ∀ site ∈ s.1.callSites,
    ∃ l ∈ s.2, l.closes = some { kind := .callSite, name := site.name }

theorem mem_keep (h : l ∈ kept) : l ∈ keep line kept := by
  rcases keep_eq_or line kept with hk | hk
  · rw [hk]
    exact h
  · rw [hk]
    exact List.mem_cons_of_mem _ h

/-- The line that an end marks had no mark, so no mark is lost. -/
theorem mem_markEnd {kind : BlockKind} {name : Text} (hm : l.closes = none) {k : Line}
    (hk : k.closes ≠ none) (h : k ∈ l :: ls) :
    k ∈ { text := blockEnd } :: markEnd kind name (l :: ls) := by
  rcases List.mem_cons.mp h with rfl | h
  · exact absurd hm hk
  · exact List.mem_cons_of_mem _ (List.mem_cons_of_mem _ h)

theorem marked_step (hs : Marked s) (ht : Topped s.1.region s.2) (h : Step s line s') :
    Marked s' := by
  -- marks stay as long as the lines that have one are kept
  have more : ∀ {cs : List CallSite} {kept kept' : List Line},
      (∀ site ∈ cs,
        ∃ l ∈ kept, l.closes = some { kind := .callSite, name := site.name }) →
      (∀ l ∈ kept, l.closes ≠ none → l ∈ kept') →
        ∀ site ∈ cs,
          ∃ l ∈ kept', l.closes = some { kind := .callSite, name := site.name } := by
    intro cs kept kept' hcs hmore site hsite
    obtain ⟨l, hl, hc⟩ := hcs site hsite
    exact ⟨l, hmore l hl (by rw [hc]; exact Option.some_ne_none _), hc⟩
  cases h with
  | @callSiteEnd site m cur n cs ds rs kept =>
    -- the end marks the newest line with more than blanks
    have hend : ∃ l ls, l.isBlank = false ∧ l.closes = none ∧
        kept.dropWhile Line.isBlank = l :: ls ∧
          ∀ k ∈ kept, k.closes ≠ none → k ∈ l :: ls := by
      cases ht with
      | callSite hb hm => exact ⟨_, _, hb, hm, dropWhile_of_not_blank hb, fun k hk _ => hk⟩
      | callSiteBlank hb hm =>
        refine ⟨_, _, hb, hm, dropWhile_of_not_blank hb, fun k hk hc => ?_⟩
        rcases List.mem_cons.mp hk with rfl | hk
        · exact absurd rfl hc
        · exact hk
    obtain ⟨l, ls, hb, hm, hdrop, hsub⟩ := hend
    intro site' hsite
    rw [hdrop]
    rcases List.mem_cons.mp hsite with rfl | hsite
    · exact ⟨_, List.mem_cons_of_mem _ List.mem_cons_self, rfl⟩
    · obtain ⟨k, hk, hc⟩ := hs site' hsite
      have hne : k.closes ≠ none := by rw [hc]; exact Option.some_ne_none _
      exact ⟨k, mem_markEnd hm hne (hsub k hk hne), hc⟩
  | declarationEnd =>
    cases ht with
    | declaration hb hm => exact more hs fun l hl hc => mem_markEnd hm hc hl
  | declarationLine => exact more hs fun l hl _ => List.mem_cons_of_mem _ hl
  | overrideMark | callSiteHeading | declarationHeading | emptyDeclaration | outsideBlank
    | outsideLine | reserved | callSiteLine => exact more hs fun l hl _ => mem_keep hl
  | _ => exact hs

/-! ### Lines -/

theorem isLine_keep (hkept : ∀ l ∈ kept, IsLine l.text) (hline : IsLine line) :
    ∀ l ∈ keep line kept, IsLine l.text := by
  intro l hl
  rcases keep_eq_or line kept with hk | hk
  · exact hkept l (hk ▸ hl)
  · rw [hk] at hl
    rcases List.mem_cons.mp hl with rfl | hl
    · exact hline
    · exact hkept l hl

theorem isLine_markEnd (hkept : ∀ l ∈ kept, IsLine l.text) (hline : IsLine line)
    (kind : BlockKind) (name : Text) :
    ∀ l ∈ { text := line } :: markEnd kind name kept, IsLine l.text := by
  intro l hl
  rcases List.mem_cons.mp hl with rfl | hl
  · exact hline
  · rcases kept with _ | ⟨k, ks⟩
    · exact absurd hl (by simp [markEnd])
    · rcases List.mem_cons.mp hl with rfl | hl
      · exact hkept k List.mem_cons_self
      · exact hkept l (List.mem_cons_of_mem k hl)

theorem isLine_step (hs : ∀ l ∈ s.2, IsLine l.text) (hline : IsLine line) (h : Step s line s') :
    ∀ l ∈ s'.2, IsLine l.text := by
  cases h with
  | callSiteEnd =>
    exact isLine_markEnd (fun l hl => hs l ((List.dropWhile_suffix _).subset hl)) hline _ _
  | declarationEnd => exact isLine_markEnd hs hline _ _
  | declarationLine =>
    intro l hl
    rcases List.mem_cons.mp hl with rfl | hl
    · exact hline
    · exact hs l hl
  | overrideMark | callSiteHeading | declarationHeading | emptyDeclaration | outsideBlank
    | outsideLine | reserved | callSiteLine => exact isLine_keep hs hline
  | _ => exact hs

/-- Every kept line is a line as a reading gets to see it. -/
theorem isLine_ofText (t : Text) : ∀ l ∈ (ofText t).2, IsLine l.text :=
  ofText_induction (by simp) (fun _ _ _ hs hline h => isLine_step hs hline h) t

theorem marked_ofText (t : Text) :
    Marked (ofText t) ∧ Topped (ofText t).1.region (ofText t).2 := by
  have hinit : Marked ({}, []) ∧ Topped (Region.outside false) [] :=
    ⟨by simp [Marked], .outside⟩
  refine ofText_induction (P := fun s => Marked s ∧ Topped s.1.region s.2) hinit ?_ t
  intro s line s' ⟨hm, ht⟩ hline hstep
  exact ⟨marked_step hm ht hstep, topped_step ht hline hstep⟩

end Reading

theorem MainFile.mem_values_of_endingCallSite? {main : Content} {l : Line} {site : CallSite}
    (h : endingCallSite? main l = some site) :
    site ∈ main.callSites.values := by
  rw [endingCallSite?] at h
  split at h
  · exact absurd h (by simp)
  next e he =>
    rcases hkind : e.kind with _ | _
    · rcases hget : main.callSites.get? e.name with _ | site'
      · simp [Content.block?, hkind, hget] at h
      · obtain rfl : site' = site := by simpa [Content.block?, hkind, hget] using h
        exact OrderedMap.mem_values_of_get? hget
    · rcases hget : main.declarations.get? e.name with _ | d <;>
        simp [Content.block?, hkind, hget] at h

/-- Every call site of a content ends behind one of its lines. -/
theorem Content.exists_endingCallSite {t : Text} {site : CallSite}
    (h : site ∈ (ofText t).callSites.values) :
    ∃ l ∈ (ofText t).lines, MainFile.endingCallSite? (ofText t) l = some site := by
  obtain ⟨⟨key, site'⟩, he, rfl⟩ := List.mem_map.mp h
  obtain ⟨hkey, hmem⟩ := mem_callSites_ofText he
  obtain ⟨l, hl, hc⟩ := (Reading.marked_ofText t).1 _ hmem
  refine ⟨l, List.mem_reverse.mpr hl, ?_⟩
  have hget : (ofText t).callSites.get? site'.name = some site' := by
    rw [OrderedMap.get?_eq_some_iff, ← hkey]
    exact he
  rw [MainFile.endingCallSite?, hc]
  simp [block?, hget]

end ModuleWiring

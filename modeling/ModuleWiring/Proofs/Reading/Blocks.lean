/-
The blocks of a content and the lines they stand on.

A line at which a block ends is marked long after it was kept, once lines behind it have
been dropped.  Still the mark is always inside of the block: the kept lines are loose ones
and whole blocks, each from its heading to its brace, and of a block only the last line in
front of the brace has a mark.

* `Framed` — kept lines that are loose lines and whole blocks;
* `Placed` — kept lines in the middle of a text, with a block behind them that may be open;
* `placed_step`, `noted_step` — what one line does to them, and to the blocks that are noted;
* `Framed.around` — what stands around a mark;
* `blocks_sound` — so the blocks of a content are where its lines say, and the block that is
  left open is where the content says.
-/
import ModuleWiring.Proofs.Reading.Openings

namespace ModuleWiring

open Reading

namespace Text

/-- Whether one stands in a block behind a line, given whether one stands in one before it. -/
def crosses (inside : Bool) (line : Text) : Bool :=
  if inside then line != blockEnd else (Heading.opens? line).isSome

/-- Whether lines end inside of a block. -/
def endsInside (ls : List Text) : Bool :=
  ls.foldl crosses false

theorem endsInside_concat (ls : List Text) (line : Text) :
    endsInside (ls ++ [line]) = crosses (endsInside ls) line := by
  rw [endsInside, List.foldl_append]
  rfl

/-- Whether a line among some that stands outside of blocks declares a variable with nothing
in it. -/
def DeclaresEmpty (ls : List Text) (name : Text) : Prop :=
  ∃ before line after, ls = before ++ line :: after ∧ endsInside before = false ∧
    Heading.ofLine? line = some (.emptyDeclaration name)

theorem DeclaresEmpty.concat {ls : List Text} {name : Text} (h : DeclaresEmpty ls name)
    (line : Text) : DeclaresEmpty (ls ++ [line]) name := by
  obtain ⟨before, l, after, rfl, hout, hl⟩ := h
  exact ⟨before, l, after ++ [line], by simp, hout, hl⟩

end Text

/-- The names of the blocks of a kind that end behind the lines of a content, in order. -/
def Content.closed (c : Content) (kind : BlockKind) : List Text :=
  (c.closings.filter fun b => b.kind = kind).map BlockEnd.name

namespace Reading

/-- Kept lines, the newest first, that are loose lines and whole blocks. -/
inductive Framed : List Line → Prop
  | nil : Framed []
  | loose {l ls} (h : Framed ls) (hm : l.closes = none) : Framed (l :: ls)
  | block {b heading} {l : Line} {rest outer : List Line} (h : Framed outer)
    (hheading : (l.text :: rest.map Line.text).getLast? = some heading)
    (ho : Heading.opens? heading = some b) (hm : ∀ k ∈ rest, k.closes = none) :
    Framed ({ text := blockEnd } :: { l with closes := some b } :: (rest ++ outer))

/-- Kept lines behind some lines of a text, given the block that is open. -/
inductive Placed (ls : List Text) : Option Unclosed → List Line → Prop
  | outside {kept} (h : Framed kept) : Placed ls none kept
  | inside {u before heading rest inner outer} (hls : ls = before ++ heading :: rest)
    (hu : u.line = before.length + 1) (hout : Text.endsInside before = false)
    (ho : Heading.opens? heading = some u.block) (hb : Text.isBlank heading = false)
    (hrest : blockEnd ∉ rest) (h : Framed outer) (hm : ∀ l ∈ inner, l.closes = none) :
    Placed ls (some u) (inner ++ { text := heading } :: outer)

variable {ls : List Text} {line : Text} {kept kept' : List Line} {u : Unclosed}
  {s s' : Reading × List Line}

theorem Framed.keep (h : Framed kept) (line : Text) : Framed (keep line kept) := by
  rcases keep_eq_or line kept with hk | hk
  · rw [hk]
    exact h
  · rw [hk]
    exact h.loose rfl

theorem Framed.append {inner outer : List Line} (h : Framed outer)
    (hm : ∀ l ∈ inner, l.closes = none) : Framed (inner ++ outer) := by
  induction inner with
  | nil => exact h
  | cons l inner ih =>
    have hinner := ih fun k hk => hm k (List.mem_cons_of_mem l hk)
    exact hinner.loose (hm l List.mem_cons_self)

/-- As long as a block is open its lines are loose. -/
theorem Placed.framed {open? : Option Unclosed} (h : Placed ls open? kept) : Framed kept := by
  cases h with
  | outside h => exact h
  | inside hls hu hout ho hb hrest h hm => exact (h.loose rfl).append hm

theorem Placed.heading (h : Placed ls none kept) (hu : u.line = ls.length + 1)
    (hout : Text.endsInside ls = false) (ho : Heading.opens? line = some u.block)
    (hb : Text.isBlank line = false) : Placed (ls ++ [line]) (some u) (keep line kept) := by
  rw [keep_of_not_blank hb]
  show Placed (ls ++ [line]) (some u) ([] ++ { text := line } :: kept)
  exact .inside rfl hu hout ho hb (by simp) h.framed (by simp)

theorem Placed.goesOn (h : Placed ls (some u) kept) (he : line ≠ blockEnd)
    (hk : kept' = kept ∨ kept' = { text := line } :: kept) :
    Placed (ls ++ [line]) (some u) kept' := by
  cases h with
  | @inside _ before heading rest inner outer hls hu hout ho hb hrest h hm =>
    have hls' : ls ++ [line] = before ++ heading :: (rest ++ [line]) := by simp [hls]
    have hrest' : blockEnd ∉ rest ++ [line] := by simp [hrest, Ne.symm he]
    rcases hk with rfl | rfl
    · exact .inside hls' hu hout ho hb hrest' h hm
    · show Placed _ _ (({ text := line } :: inner) ++ { text := heading } :: outer)
      refine .inside hls' hu hout ho hb hrest' h ?_
      intro l hl
      rcases List.mem_cons.mp hl with rfl | hl
      · rfl
      · exact hm l hl

/-- Blank lines that are dropped stand behind the heading. -/
theorem Placed.dropWhile (h : Placed ls (some u) kept) :
    Placed ls (some u) (kept.dropWhile Line.isBlank) := by
  cases h with
  | @inside _ before heading rest inner outer hls hu hout ho hb hrest h hm =>
    have hdrop : (inner ++ { text := heading } :: outer).dropWhile Line.isBlank =
        inner.dropWhile Line.isBlank ++ { text := heading } :: outer := by
      rw [List.dropWhile_append]
      split
      · next hnil =>
        rw [List.isEmpty_iff.mp hnil]
        exact dropWhile_of_not_blank hb
      · rfl
    rw [hdrop]
    exact .inside hls hu hout ho hb hrest h fun l hl => hm l ((List.dropWhile_suffix _).subset hl)

theorem Placed.ends (h : Placed ls (some u) kept) :
    Framed ({ text := blockEnd } :: markEnd u.kind u.name kept) := by
  cases h with
  | @inside _ before heading rest inner outer hls hu hout ho hb hrest h hm =>
    -- the mark falls on the heading if no line of the block is kept
    rcases inner with _ | ⟨l, inner⟩
    · have hlast : (heading :: ([] : List Line).map Line.text).getLast? = some heading := rfl
      exact Framed.block (l := { text := heading }) h hlast ho (by simp)
    · have hframed : Framed ({ text := blockEnd } :: { l with closes := some u.block } ::
          ((inner ++ [{ text := heading }]) ++ outer)) := by
        have hlast : (l.text :: (inner ++ [({ text := heading } : Line)]).map Line.text).getLast? =
            some heading := by
          rw [List.map_append, ← List.cons_append]
          exact List.getLast?_concat
        refine .block h hlast ho fun k hk => ?_
        rcases List.mem_append.mp hk with hk | hk
        · exact hm k (List.mem_cons_of_mem l hk)
        · rw [List.mem_singleton.mp hk]
      rw [List.append_assoc] at hframed
      exact hframed

/-- What stands around a mark: the brace right behind it, and the heading of the block at it or
in front of it, with no other mark between. -/
theorem Framed.around (h : Framed kept) {newer older : List Line} {l : Line} {b : BlockEnd}
    (hk : kept = newer ++ l :: older) (hl : l.closes = some b) :
    (∃ newer', newer = newer' ++ [{ text := blockEnd }]) ∧
      ∃ rest outer heading, older = rest ++ outer ∧ (∀ k ∈ rest, k.closes = none) ∧
        (l.text :: rest.map Line.text).getLast? = some heading ∧
        Heading.opens? heading = some b := by
  have unmarked : ∀ {k : Line}, k.closes = none → k ≠ l := by
    rintro k hm rfl
    rw [hm] at hl
    exact absurd hl (by simp)
  induction h generalizing newer with
  | nil => simp at hk
  | @loose k ls h hm ih =>
    rcases newer with _ | ⟨k', newer⟩
    · exact absurd (List.cons.inj hk).1 (unmarked hm)
    · obtain ⟨⟨newer', rfl⟩, haround⟩ := ih (List.cons.inj hk).2
      exact ⟨⟨k' :: newer', rfl⟩, haround⟩
  | @block b' heading k rest outer h hheading ho hm ih =>
    rcases newer with _ | ⟨k', _ | ⟨k'', newer⟩⟩
    · exact absurd (List.cons.inj hk).1 (unmarked rfl)
    · -- the mark is the one of this block
      obtain ⟨rfl, hmarked⟩ := List.cons.inj hk
      obtain ⟨rfl, rfl⟩ := List.cons.inj hmarked
      obtain rfl := Option.some.inj hl
      exact ⟨⟨[], rfl⟩, rest, outer, heading, rfl, hm, hheading, ho⟩
    · -- the lines of this block have no other mark, so it is one further out
      have htail : rest ++ outer = newer ++ l :: older := (List.cons.inj (List.cons.inj hk).2).2
      rcases List.append_eq_append_iff.mp htail with ⟨mid, rfl, houter⟩ | ⟨mid, rfl, hold⟩
      · obtain ⟨⟨newer', rfl⟩, haround⟩ := ih houter
        exact ⟨⟨k' :: k'' :: (rest ++ newer'), by simp⟩, haround⟩
      · rcases mid with _ | ⟨m, mid⟩
        · have hnewest : outer = [] ++ l :: older := hold.symm
          obtain ⟨⟨newer', hnil⟩, -⟩ := ih hnewest
          simp at hnil
        · exact absurd (List.cons.inj hold).1.symm (unmarked (hm m (by simp)))

/-- What holds of the kept lines behind some lines of a text. -/
structure Stood (ls : List Text) (s : Reading × List Line) : Prop where
  count : s.1.lineCount = ls.length
  inside : s.1.region.block?.isSome = Text.endsInside ls
  placed : Placed ls s.1.unclosed s.2

theorem lineCount_step (h : Step s line s') : s'.1.lineCount = s.1.lineCount + 1 := by
  cases h <;> rfl

theorem placed_step (hs : Stood ls s) (hline : IsLine line) (h : Step s line s') :
    Placed (ls ++ [line]) s'.1.unclosed s'.2 := by
  obtain ⟨hcount, hinside, hplaced⟩ := hs
  cases h with
  | @label g n cs ds rs kept line hl =>
    have he := ne_blockEnd_of_label hl
    cases g with
    | outside => exact .outside hplaced.framed
    | callSite => exact hplaced.goesOn he (.inl rfl)
    | declaration => exact hplaced.goesOn he (.inl rfl)
  | overrideMark | emptyDeclaration | outsideBlank | outsideLine =>
    exact .outside (hplaced.framed.keep line)
  | callSiteHeading hl hh | declarationHeading hl hh =>
    refine hplaced.heading (congrArg (· + 1) hcount) hinside.symm ?_
      (not_blank_of_heading hline hh)
    rw [Heading.opens?, hh]
    rfl
  | @callSiteEnd site m cur n cs ds rs kept =>
    rw [name_close]
    exact .outside hplaced.dropWhile.ends
  | declarationEnd => exact .outside hplaced.ends
  | valueGoesOn hl he | passThrough hl he | setting hl he | openSetting hl he =>
    exact hplaced.goesOn he (.inl rfl)
  | @valueEnd site m o n cs ds rs kept _ hl he hv =>
    have hname :=
      name_close (site.refer (some o.name) (Text.liveReferences line)) (some (o.push line))
    show Placed _ (some { kind := .callSite, name := (CallSite.close _ _).name, line := m }) _
    rw [hname]
    exact hplaced.goesOn he (.inl rfl)
  | reserved hl he | callSiteLine hl he => exact hplaced.goesOn he (keep_eq_or _ _)
  | declarationBlank hl hb =>
    refine hplaced.goesOn ?_ (.inl rfl)
    rintro rfl
    exact absurd (isBlank_blockEnd.symm.trans hb) Bool.false_ne_true
  | declarationLine hl he hb => exact hplaced.goesOn he (.inr rfl)

/-! ### The blocks that are noted -/

/-- The names of the blocks of a kind that kept lines end, the newest first. -/
def ended (kind : BlockKind) (kept : List Line) : List Text :=
  ((kept.filterMap Line.closes).filter fun b => b.kind = kind).map BlockEnd.name

/-- The blocks that are noted are those that kept lines end, and the declarations with
nothing in them. -/
structure Noted (ls : List Text) (s : Reading × List Line) : Prop where
  callSites : s.1.callSites.map CallSite.name = ended .callSite s.2
  declared : ∀ name ∈ ended .declaration s.2, ∃ d ∈ s.1.declarations, d.name = name
  declarations : ∀ d ∈ s.1.declarations,
    d.name ∈ ended .declaration s.2 ∨ Text.DeclaresEmpty ls d.name

theorem Noted.same (h : Noted ls s) (line : Text)
    (hc : s'.2.filterMap Line.closes = s.2.filterMap Line.closes)
    (hcs : s'.1.callSites = s.1.callSites) (hds : s'.1.declarations = s.1.declarations) :
    Noted (ls ++ [line]) s' := by
  have hended : ∀ kind, ended kind s'.2 = ended kind s.2 := by
    intro kind
    rw [ended, hc, ended]
  refine ⟨?_, ?_, ?_⟩
  · rw [hcs, hended]
    exact h.callSites
  · rw [hds, hended]
    exact h.declared
  · rw [hds, hended]
    exact fun d hd => (h.declarations d hd).imp id fun he => he.concat line

theorem noted_step (hs : Stood ls s) (ht : Topped s.1.region s.2) (hn : Noted ls s)
    (h : Step s line s') : Noted (ls ++ [line]) s' := by
  obtain ⟨hcallSites, hdeclared, hdeclarations⟩ := id hn
  cases h with
  | label | passThrough | setting | openSetting | valueGoesOn | valueEnd | declarationBlank =>
    exact hn.same line rfl rfl rfl
  | overrideMark | callSiteHeading | declarationHeading | outsideBlank | outsideLine | reserved
    | callSiteLine => exact hn.same line (closes_keep _ _) rfl rfl
  | declarationLine => exact hn.same line (List.filterMap_cons_none rfl) rfl rfl
  | @emptyDeclaration o n cs ds rs kept line name hl hh =>
    have hended : ended .declaration (keep line kept) = ended .declaration kept := by
      rw [ended, closes_keep, ended]
    refine ⟨?_, ?_, ?_⟩
    · rw [ended, closes_keep]
      exact hcallSites
    · intro name' hname
      obtain ⟨d, hd, hdname⟩ := hdeclared name' (hended ▸ hname)
      exact ⟨d, List.mem_cons_of_mem _ hd, hdname⟩
    · intro d hd
      rcases List.mem_cons.mp hd with rfl | hd
      · exact .inr ⟨ls, line, [], rfl, hs.inside.symm, hh⟩
      · show d.name ∈ ended .declaration (keep line kept) ∨ _
        rw [hended]
        exact (hdeclarations d hd).imp id fun he => he.concat line
  | @callSiteEnd site m cur n cs ds rs kept =>
    obtain ⟨l, rest, hdrop, hm, hc⟩ := ht.dropWhile_eq_cons
    have hcloses : ({ text := blockEnd } :: markEnd .callSite (site.close cur).name
        (kept.dropWhile Line.isBlank)).filterMap Line.closes =
          { kind := .callSite, name := (site.close cur).name } :: kept.filterMap Line.closes := by
      rw [hdrop, closes_markEnd hm, hc]
    refine ⟨?_, ?_, ?_⟩
    · rw [ended, hcloses, List.filter_cons_of_pos (by simp), List.map_cons, List.map_cons]
      exact congrArg _ hcallSites
    · rw [ended, hcloses, List.filter_cons_of_neg (by simp)]
      exact hdeclared
    · rw [ended, hcloses, List.filter_cons_of_neg (by simp)]
      exact fun d hd => (hdeclarations d hd).imp id fun he => he.concat _
  | @declarationEnd d m n cs ds rs kept =>
    have hcloses : ({ text := blockEnd } :: markEnd .declaration d.name kept).filterMap
        Line.closes = { kind := .declaration, name := d.name } :: kept.filterMap Line.closes := by
      cases ht with
      | declaration hb hm => exact closes_markEnd hm _ _
    refine ⟨?_, ?_, ?_⟩
    · rw [ended, hcloses, List.filter_cons_of_neg (by simp)]
      exact hcallSites
    · rw [ended, hcloses, List.filter_cons_of_pos (by simp)]
      intro name hname
      rcases List.mem_cons.mp hname with rfl | hname
      · exact ⟨d, List.mem_cons_self, rfl⟩
      · obtain ⟨d', hd', hname'⟩ := hdeclared name hname
        exact ⟨d', List.mem_cons_of_mem d hd', hname'⟩
    · rw [ended, hcloses, List.filter_cons_of_pos (by simp)]
      intro d' hd'
      rcases List.mem_cons.mp hd' with rfl | hd'
      · exact .inl List.mem_cons_self
      · exact (hdeclarations d' hd').imp (List.mem_cons_of_mem _) fun he => he.concat _

theorem stood_ofText (t : Text) :
    Stood (t.lines.map Text.trimEnd) (ofText t) ∧ Topped (ofText t).1.region (ofText t).2 ∧
      Noted (t.lines.map Text.trimEnd) (ofText t) := by
  rw [ofText_eq_run]
  refine prefix_induction (P := fun ls s => Stood ls s ∧ Topped s.1.region s.2 ∧ Noted ls s)
    ⟨⟨rfl, rfl, .outside .nil⟩, .outside, ⟨rfl, by simp [ended], by simp⟩⟩ ?_
    fun line hl => isLine_of_mem_lines hl
  intro ls s line s' ⟨hs, ht, hn⟩ hline hstep
  refine ⟨⟨?_, ?_, placed_step hs hline hstep⟩, topped_step ht hline hstep,
    noted_step hs ht hn hstep⟩
  · rw [lineCount_step hstep, hs.count, List.length_append]
    rfl
  · rw [(enters_step ht hstep).inside, hs.inside, Text.endsInside_concat, Text.crosses]

end Reading

namespace Content

variable {t : Text}

theorem closed_ofText (t : Text) (kind : BlockKind) :
    (ofText t).closed kind = (ended kind (Reading.ofText t).2).reverse := by
  rw [closed, closings_ofText, ended, List.filter_reverse, List.map_reverse]

theorem map_fst_callSites (t : Text) :
    ((Reading.ofText t).1.callSites.reverse.map fun s => (s.name, s)).map Prod.fst =
      (ofText t).closed .callSite := by
  rw [closed_ofText, ← (stood_ofText t).2.2.callSites, List.map_map, List.map_reverse]
  rfl

theorem mem_keys_callSites {name : Text} :
    name ∈ (ofText t).callSites.keys ↔ name ∈ (ofText t).closed .callSite := by
  rw [ofText_eq, Reading.content, OrderedMap.mem_keys_ofList, map_fst_callSites, ofText_eq,
    Reading.content]

/-- Every block that ends behind a line is listed under its name. -/
theorem exists_block {b : BlockEnd} (h : b ∈ (ofText t).closings) :
    ∃ block, (ofText t).block? b.kind b.name = some block ∧ block.name = b.name := by
  have hclosed : b.name ∈ (ofText t).closed b.kind :=
    List.mem_map.mpr ⟨b, List.mem_filter.mpr ⟨h, by simp⟩, rfl⟩
  rcases hkind : b.kind with _ | _
  · rw [hkind] at hclosed
    obtain ⟨site, hsite⟩ := Option.isSome_iff_exists.mp
      (OrderedMap.contains_iff.mpr (mem_keys_callSites.mpr hclosed))
    refine ⟨.callSite site, by rw [block?, hsite]; rfl, ?_⟩
    exact (mem_callSites_ofText (OrderedMap.get?_eq_some_iff.mp hsite)).1.symm
  · rw [hkind, closed_ofText, List.mem_reverse] at hclosed
    obtain ⟨d, hd, hname⟩ := (stood_ofText t).2.2.declared _ hclosed
    have hkey : b.name ∈ (ofText t).declarations.keys := by
      rw [ofText_eq, Reading.content, OrderedMap.mem_keys_ofList]
      simp only [List.map_map, List.mem_map, List.mem_reverse]
      exact ⟨d, hd, hname⟩
    obtain ⟨d', hd'⟩ := Option.isSome_iff_exists.mp (OrderedMap.contains_iff.mpr hkey)
    refine ⟨.declaration d', by rw [block?, hd']; rfl, ?_⟩
    exact (mem_declarations_ofText (OrderedMap.get?_eq_some_iff.mp hd')).1.symm

theorem mem_keys_declarations {name : Text} (h : name ∈ (ofText t).declarations.keys) :
    name ∈ (ofText t).closed .declaration ∨
      Text.DeclaresEmpty (t.lines.map Text.trimEnd) name := by
  rw [ofText_eq, Reading.content, OrderedMap.mem_keys_ofList, List.map_map, List.mem_map] at h
  obtain ⟨d, hd, rfl⟩ := h
  rw [closed_ofText, List.mem_reverse]
  exact (stood_ofText t).2.2.declarations d (List.mem_reverse.mp hd)

/-- A block that is left open: its heading and line, behind which no lone brace follows and no
kept line has a mark. -/
theorem exists_heading_of_unclosed {u : Unclosed} (h : (ofText t).unclosed = some u) :
    ∃ before heading rest, t.lines.map Text.trimEnd = before ++ heading :: rest ∧
      u.line = before.length + 1 ∧ Text.endsInside before = false ∧
      Heading.opens? heading = some u.block ∧ blockEnd ∉ rest ∧
      ∃ outer l inner, (ofText t).lines = outer ++ l :: inner ∧ l.text = heading ∧
        ∀ k ∈ l :: inner, k.closes = none := by
  have hplaced := (stood_ofText t).1.placed
  rw [ofText_eq, Reading.content] at h ⊢
  generalize (Reading.ofText t).2 = kept at *
  rw [show (Reading.ofText t).1.unclosed = some u from h] at hplaced
  cases hplaced with
  | @inside _ before heading rest inner outer hls hu hout ho hb hrest _ hm =>
    refine ⟨before, heading, rest, hls, hu, hout, ho, hrest, outer.reverse, { text := heading },
      inner.reverse, by simp, rfl, ?_⟩
    intro k hk
    rcases List.mem_cons.mp hk with rfl | hk
    · rfl
    · exact hm k (List.mem_reverse.mp hk)

/-- **The blocks of a content are where its lines say.**  Behind every marked line stands the
brace that ends the block, at it or in front of it the heading, with no other mark between,
and the block is listed under its name.  The call sites are listed in the order in which blocks
of their names first end; a declaration ends behind a line or is one with nothing in it.  A
block is left open exactly when the text ends inside of one, and then its heading is on the
line that is told, with no end of a block behind it. -/
theorem blocks_sound (t : Text) :
    (∀ before l after b, (ofText t).lines = before ++ l :: after → l.closes = some b →
      (∃ brace rest, after = brace :: rest ∧ brace.text = blockEnd) ∧
      (∃ outer rest heading, before = outer ++ rest ∧ (∀ k ∈ rest, k.closes = none) ∧
        ((rest ++ [l]).map Line.text).head? = some heading ∧ Heading.opens? heading = some b) ∧
      ∃ block, (ofText t).block? b.kind b.name = some block ∧ block.name = b.name) ∧
    (∀ name, name ∈ (ofText t).callSites.keys ↔ name ∈ (ofText t).closed .callSite) ∧
    ((ofText t).callSites.keys.Pairwise fun m n =>
      ((ofText t).closed .callSite).idxOf m < ((ofText t).closed .callSite).idxOf n) ∧
    (∀ name ∈ (ofText t).declarations.keys, name ∈ (ofText t).closed .declaration ∨
      Text.DeclaresEmpty (t.lines.map Text.trimEnd) name) ∧
    (ofText t).unclosed.isSome = Text.endsInside (t.lines.map Text.trimEnd) ∧
    ∀ u, (ofText t).unclosed = some u →
      ∃ before heading rest, t.lines.map Text.trimEnd = before ++ heading :: rest ∧
        u.line = before.length + 1 ∧ Text.endsInside before = false ∧
        Heading.opens? heading = some u.block ∧ blockEnd ∉ rest ∧
        ∃ outer l inner, (ofText t).lines = outer ++ l :: inner ∧ l.text = heading ∧
          ∀ k ∈ l :: inner, k.closes = none := by
  refine ⟨?_, fun _ => mem_keys_callSites, ?_, fun _ => mem_keys_declarations, ?_,
    fun _ => exists_heading_of_unclosed⟩
  · intro before l after b hlines hl
    have hkept : (Reading.ofText t).2 = after.reverse ++ l :: before.reverse := by
      have hreverse := congrArg List.reverse hlines
      rw [ofText_eq, Reading.content, List.reverse_reverse] at hreverse
      simpa using hreverse
    obtain ⟨⟨newer, hnewer⟩, rest, outer, heading, holder, hrest, hheading, ho⟩ :=
      (stood_ofText t).1.placed.framed.around hkept hl
    refine ⟨⟨{ text := blockEnd }, newer.reverse, ?_, rfl⟩,
      ⟨outer.reverse, rest.reverse, heading, ?_, by simpa using hrest, ?_, ho⟩, ?_⟩
    · simpa using congrArg List.reverse hnewer
    · simpa using congrArg List.reverse holder
    · rw [← List.getLast?_reverse, ← List.map_reverse]
      simpa using hheading
    · refine exists_block (List.mem_filterMap.mpr ⟨l, ?_, hl⟩)
      rw [hlines]
      exact List.mem_append_right before List.mem_cons_self
  · have hkeys := OrderedMap.pairwise_keys_ofList
      ((Reading.ofText t).1.callSites.reverse.map fun s => (s.name, s))
    rw [map_fst_callSites] at hkeys
    exact hkeys
  · rw [← (stood_ofText t).1.inside, ofText_eq, Reading.content, Reading.unclosed]
    cases (Reading.ofText t).1.region <;> rfl

/-- Two call sites of one name, the second with nothing in it but a blank line, a declaration
whose lines are all dropped, and a block that is left open. -/
theorem blocks_sound_open :
    let t : Text := ("module \"a\" \x7b\n  x = 1\n\x7d\nmodule \"a\" \x7b\n\n\x7d\n" ++
      "variable \"v\" \x7b\n#~ label\n\x7d\nmodule \"b\" \x7b\n").toList
    let b : BlockEnd := { kind := .declaration, name := "v".toList }
    (∃ before l after, (ofText t).lines = before ++ l :: after ∧ l.closes = some b ∧
      ∃ block, (ofText t).block? b.kind b.name = some block ∧ block.name = b.name) ∧
    ∃ u, (ofText t).unclosed = some u ∧ ∃ before heading rest,
      t.lines.map Text.trimEnd = before ++ heading :: rest ∧ u.line = before.length + 1 ∧
        Heading.opens? heading = some u.block ∧ blockEnd ∉ rest := by
  intro t b
  have hlines : (ofText t).lines = (ofText t).lines.take 4 ++
      { text := "variable \"v\" \x7b".toList, closes := some b } ::
        (ofText t).lines.drop 5 := by decide
  have hunclosed : (ofText t).unclosed =
      some { kind := .callSite, name := "b".toList, line := 10 } := by decide
  obtain ⟨hmarked, -, -, -, -, hopen⟩ := blocks_sound t
  obtain ⟨before, heading, rest, hphysical, hline, -, hopens, hrest, -⟩ := hopen _ hunclosed
  exact ⟨⟨_, _, _, hlines, rfl, (hmarked _ _ _ _ hlines rfl).2.2⟩,
    ⟨_, hunclosed, before, heading, rest, hphysical, hline, hopens, hrest⟩⟩

end Content

end ModuleWiring

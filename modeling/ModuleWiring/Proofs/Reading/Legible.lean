/-
What a reading takes from a text can be written again.

The names and bodies of declarations come from single lines of a text, so they hold
nothing that would be read differently when it stands in a heading or between braces
again:

* `Declaration.Legible` — a name for a heading, and body lines that stay in the body;
* `declaresLegibly_ofText` — such are the declarations of every content, and they are
  listed under their names;
* `onLine_callSites` — the names and sources of its call sites stand on one line.
-/
import ModuleWiring.Proofs.Heading
import ModuleWiring.Proofs.Entry
import ModuleWiring.Proofs.OrderedMap
import ModuleWiring.Proofs.Reading.Step

namespace ModuleWiring

open Reading

/-- A line that stays in the body of a declaration when it is read again. -/
structure IsBodyLine (line : Text) : Prop where
  isLine : IsLine line
  notBlank : Text.isBlank line = false
  notEnd : line ≠ blockEnd
  notLabel : isLabelLine line = false

/-- A declaration that is read as it is written. -/
structure Declaration.Legible (d : Declaration) : Prop where
  isName : IsBlockName d.name
  nameOnLine : '\n' ∉ d.name
  body : ∀ line ∈ d.body, IsBodyLine line

/-- A call site whose name and source stand on one line. -/
structure CallSite.OnLine (site : CallSite) : Prop where
  name : '\n' ∉ site.name
  source : '\n' ∉ site.source

namespace Reading

/-- The declarations that a reading has come to, the one it stands in first. -/
def allDeclarations (r : Reading) : List Declaration :=
  match r.region with
  | .declaration d _ => d :: r.declarations
  | _ => r.declarations

/-- The call sites that a reading has come to, the one it stands in first. -/
def allCallSites (r : Reading) : List CallSite :=
  match r.region with
  | .callSite site _ _ => site :: r.callSites
  | _ => r.callSites

variable {s s' : Reading × List Line} {line : Text}

theorem not_feed_of_heading {h : Heading} {name : Text} (hline : IsLine line)
    (hh : Heading.ofLine? line = some h) (hn : h.name? = some name) : '\n' ∉ name :=
  fun hm => hline.noFeed ((Heading.isBlockName_of_heading hh hn).2 _ hm)

theorem legible_step (hs : ∀ d ∈ s.1.allDeclarations, d.Legible) (hline : IsLine line)
    (h : Step s line s') : ∀ d ∈ s'.1.allDeclarations, d.Legible := by
  cases h with
  | declarationHeading hl hh =>
    intro d hd
    rcases List.mem_cons.mp hd with rfl | hd
    · exact ⟨(Heading.isBlockName_of_heading hh rfl).1,
        not_feed_of_heading hline hh rfl, by simp⟩
    · exact hs d hd
  | emptyDeclaration hl hh =>
    intro d hd
    rcases List.mem_cons.mp hd with rfl | hd
    · exact ⟨(Heading.isBlockName_of_heading hh rfl).1,
        not_feed_of_heading hline hh rfl, by simp⟩
    · exact hs d hd
  | declarationLine hl he hb =>
    intro d hd
    rcases List.mem_cons.mp hd with rfl | hd
    · obtain ⟨hname, hnameLine, hbody⟩ := hs _ List.mem_cons_self
      refine ⟨hname, hnameLine, fun l hl' => ?_⟩
      rcases List.mem_append.mp hl' with hl' | hl'
      · exact hbody l hl'
      · rw [List.mem_singleton.mp hl']
        exact ⟨hline, hb, he, hl⟩
    · exact hs d (List.mem_cons_of_mem _ hd)
  | _ => exact hs

theorem name_close (site : CallSite) (cur : Option OpenSetting) :
    (site.close cur).name = site.name := by
  cases cur <;> rfl

theorem source_close (site : CallSite) (cur : Option OpenSetting) :
    (site.close cur).source = site.source := by
  cases cur <;> rfl

theorem not_feed_unquote {value : Text} (h : '\n' ∉ value) : '\n' ∉ unquote value := by
  rw [unquote]
  rcases ha : Text.after? ['"'] value with _ | inner
  · exact h
  · rcases hb : Text.before? ['"'] inner with _ | u
    · simpa [hb] using h
    · rw [Text.after?_eq_some_iff.mp ha, Text.before?_eq_some_iff.mp hb] at h
      simp only [Option.bind_some, hb, Option.getD_some]
      exact fun hm => h (by simp [hm])

theorem onLine_step (hs : ∀ site ∈ s.1.allCallSites, site.OnLine) (hline : IsLine line)
    (h : Step s line s') : ∀ site ∈ s'.1.allCallSites, site.OnLine := by
  -- a change of the call site that the reading stands in
  have change : ∀ {old new : CallSite} {cs : List CallSite},
      (∀ site ∈ old :: cs, site.OnLine) → (old.OnLine → new.OnLine) →
        ∀ site ∈ new :: cs, site.OnLine := by
    intro old new cs hall hnew site hsite
    rcases List.mem_cons.mp hsite with rfl | hsite
    · exact hnew (hall old List.mem_cons_self)
    · exact hall site (List.mem_cons_of_mem old hsite)
  cases h with
  | callSiteHeading hl hh =>
    intro site hsite
    rcases List.mem_cons.mp hsite with rfl | hsite
    · exact ⟨not_feed_of_heading hline hh rfl, by simp⟩
    · exact hs site hsite
  | @callSiteEnd site m cur =>
    exact change hs fun ho =>
      ⟨name_close site cur ▸ ho.name, source_close site cur ▸ ho.source⟩
  | reserved hl he hr =>
    refine change hs fun ho => ⟨ho.name, ?_⟩
    show '\n' ∉ ite _ _ _
    split
    · exact not_feed_unquote fun hm => hline.noFeed ((Entry.of_reserved hr).2 _ hm)
    · exact ho.source
  | valueGoesOn | valueEnd | setting | openSetting | callSiteLine =>
    exact change hs fun ho => ⟨ho.name, ho.source⟩
  | _ => exact hs

end Reading

/-! ### The blocks of a content -/

namespace Content

variable {t : Text}

theorem mem_declarations_ofText {key : Text} {d : Declaration}
    (h : (key, d) ∈ (ofText t).declarations.entries) :
    key = d.name ∧ d ∈ (Reading.ofText t).1.declarations := by
  obtain ⟨d', hd, he⟩ := List.mem_map.mp (OrderedMap.mem_of_mem_entries_ofList h)
  obtain ⟨rfl, rfl⟩ := Prod.mk.inj he
  exact ⟨rfl, List.mem_reverse.mp hd⟩

theorem mem_callSites_ofText {key : Text} {site : CallSite}
    (h : (key, site) ∈ (ofText t).callSites.entries) :
    key = site.name ∧ site ∈ (Reading.ofText t).1.callSites := by
  obtain ⟨site', hs, he⟩ := List.mem_map.mp (OrderedMap.mem_of_mem_entries_ofList h)
  obtain ⟨rfl, rfl⟩ := Prod.mk.inj he
  exact ⟨rfl, List.mem_reverse.mp hs⟩

theorem legible_ofText (t : Text) : ∀ d ∈ (Reading.ofText t).1.allDeclarations, d.Legible :=
  ofText_induction (by simp [allDeclarations]) (fun _ _ _ hs hl h => legible_step hs hl h) t

theorem onLine_ofText (t : Text) : ∀ site ∈ (Reading.ofText t).1.allCallSites, site.OnLine :=
  ofText_induction (by simp [allCallSites]) (fun _ _ _ hs hl h => onLine_step hs hl h) t

theorem mem_allDeclarations {r : Reading} {d : Declaration} (h : d ∈ r.declarations) :
    d ∈ r.allDeclarations := by
  rw [allDeclarations]
  split
  · exact List.mem_cons_of_mem _ h
  · exact h

theorem mem_allCallSites {r : Reading} {site : CallSite} (h : site ∈ r.callSites) :
    site ∈ r.allCallSites := by
  rw [allCallSites]
  split
  · exact List.mem_cons_of_mem _ h
  · exact h

/-- Whether the declarations of a content are legible, each listed under its name. -/
def DeclaresLegibly (c : Content) : Prop :=
  ∀ e ∈ c.declarations.entries, e.1 = e.2.name ∧ e.2.Legible

theorem declaresLegibly_ofText (t : Text) : (ofText t).DeclaresLegibly := by
  intro e he
  obtain ⟨hkey, hd⟩ := mem_declarations_ofText he
  exact ⟨hkey, legible_ofText t _ (mem_allDeclarations hd)⟩

theorem DeclaresLegibly.legible {c : Content} (h : c.DeclaresLegibly) {d : Declaration}
    (hd : d ∈ c.declarations.values) : d.Legible := by
  obtain ⟨e, he, rfl⟩ := List.mem_map.mp hd
  exact (h e he).2

theorem DeclaresLegibly.map_name {c : Content} (h : c.DeclaresLegibly) :
    c.declarations.values.map Declaration.name = c.declarations.keys := by
  rw [OrderedMap.values, OrderedMap.keys, List.map_map]
  exact List.map_congr_left fun e he => (h e he).1.symm

theorem DeclaresLegibly.name_mem_keys {c : Content} (h : c.DeclaresLegibly) {d : Declaration}
    (hd : d ∈ c.declarations.values) : d.name ∈ c.declarations.keys := by
  rw [← h.map_name]
  exact List.mem_map_of_mem hd

theorem DeclaresLegibly.of_get? {c : Content} (h : c.DeclaresLegibly) {name : Text}
    {d : Declaration} (hd : c.declarations.get? name = some d) : d.name = name ∧ d.Legible := by
  obtain ⟨hname, hlegible⟩ := h _ (OrderedMap.get?_eq_some_iff.mp hd)
  exact ⟨hname.symm, hlegible⟩

theorem onLine_callSites {site : CallSite} (h : site ∈ (ofText t).callSites.values) :
    site.OnLine := by
  obtain ⟨⟨key, site'⟩, he, rfl⟩ := List.mem_map.mp h
  exact onLine_ofText t _ (mem_allCallSites (mem_callSites_ofText he).2)

end Content

end ModuleWiring

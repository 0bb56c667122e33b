/-
The variables that open values refer to.

What is known of a text only grows: a variable that was referred to once stays noted, in the
text and in its call site.  So it is enough to know what a reading notes line by line, and of
the lines of an open value that is every reference, with one exception.  A line that begins
like a comment is taken for one, in a here-document as anywhere else.

* `references_run`, `Stands.exists_ended_referenced` — what is noted stays noted;
* `OpenSetting.mem_referencesWith` — what the lines of a value refer to;
* `Text.ValueAt.notes_references` — every reference on a line of an open value is noted,
  unless the line begins like a comment.
-/
import ModuleWiring.Proofs.Reading.Values

namespace ModuleWiring

namespace Reading

variable {s s' : Reading × List Line} {line name : Text} {ls : List Text}

theorem references_step (h : Step s line s') (hn : name ∈ s.1.references) :
    name ∈ s'.1.references := by
  cases h with
  | outsideLine | valueGoesOn | valueEnd | reserved | setting | openSetting | callSiteLine =>
    exact NameSet.mem_insertAll.mpr (.inr hn)
  | _ => exact hn

/-- What was referred to once stays noted. -/
theorem references_run (hls : ∀ line ∈ ls, IsLine line) (hn : name ∈ s.1.references) :
    name ∈ (run s ls).1.references :=
  run_induction (P := fun s => name ∈ s.1.references) (fun _ _ _ hs _ h => references_step h hs)
    hn hls

end Reading

open Reading

namespace Stands

variable {w : Place} {site : CallSite} {cur : Option OpenSetting} {rs : NameSet}
  {kept : List Line} {s s' : Reading × List Line} {line : Text}

theorem referenced_step (h : Stands w site cur rs kept s) (he : line ≠ blockEnd)
    (hstep : Step s line s') : ∃ site' cur' rs' kept', Stands w site' cur' rs' kept' s' ∧
      site'.name = site.name ∧ ∀ name ∈ site.referenced, name ∈ site'.referenced := by
  obtain ⟨n, rfl⟩ := h
  have refer : ∀ (own : Option Text) (names : List Text), ∀ name ∈ site.referenced,
      name ∈ (site.refer own names).referenced :=
    fun own names name hn => CallSite.mem_referenced_refer.mpr (.inl hn)
  cases hstep with
  | callSiteEnd => exact absurd rfl he
  | label | passThrough => exact ⟨_, _, _, _, ⟨n + 1, rfl⟩, rfl, fun _ hn => hn⟩
  | valueEnd => exact ⟨_, _, _, _, ⟨n + 1, rfl⟩, name_close _ (some _), refer _ _⟩
  | valueGoesOn | reserved | setting | openSetting | callSiteLine =>
    exact ⟨_, _, _, _, ⟨n + 1, rfl⟩, rfl, refer _ _⟩

/-- A call site goes on to know what it knew, up to the brace that ends it. -/
theorem exists_ended_referenced (h : Stands w site cur rs kept s) {inner after : List Text}
    (he : blockEnd ∉ inner) (hafter : ∀ line ∈ after, IsLine line) : ∃ ended,
      ended :: w.callSites <:+ (run s (inner ++ blockEnd :: after)).1.callSites ∧
      ended.name = site.name ∧ ∀ name ∈ site.referenced, name ∈ ended.referenced := by
  induction inner generalizing site cur rs kept s with
  | nil =>
    obtain ⟨n, rfl⟩ := h
    refine ⟨site.close cur, ?_, name_close site cur, fun name hn => ?_⟩
    · have hlater := suffix_callSites_run (s := visit.step (⟨.callSite site w.opened cur, n,
        w.callSites, w.declarations, rs⟩, kept) blockEnd) hafter
      rw [Step.callSiteEnd.eq] at hlater
      rw [List.nil_append, run_cons, Step.callSiteEnd.eq]
      exact hlater
    · cases cur <;> exact hn
  | cons line inner ih =>
    rw [List.mem_cons, not_or] at he
    obtain ⟨site', cur', rs', kept', hstands, hname, hrefs⟩ :=
      h.referenced_step (Ne.symm he.1) (step_spec s line)
    obtain ⟨ended, hended, hname', hrefs'⟩ := ih hstands he.2
    exact ⟨ended, hended, hname'.trans hname, fun name hn => hrefs' name (hrefs name hn)⟩

end Stands

/-! ### The lines of a value -/

theorem OpenSetting.mem_referencesWith {o : OpenSetting} {value : List Text} {line name : Text}
    (hl : line ∈ value) (hc : isCommentLine line = false) (hn : name ∈ Text.references line) :
    name ∈ o.referencesWith value := by
  refine List.mem_append_right _ (List.mem_flatMap.mpr ⟨line, hl, ?_⟩)
  rw [Text.liveReferences, hc, if_neg Bool.false_ne_true]
  exact hn

theorem OpenSetting.referencesWith_comment {line : Text} (o : OpenSetting) (value : List Text)
    (hc : isCommentLine line = true) :
    o.referencesWith (value ++ [line]) = o.referencesWith value := by
  rw [referencesWith, referencesWith, List.flatMap_append, List.flatMap_singleton,
    Text.liveReferences_comment hc, List.append_nil]

namespace Text.ValueAt

variable {t : Text} {w : Place} {site : CallSite} {o : OpenSetting} {before : List Text}
  {opening : Text} {value rest : List Text}

theorem ofText_eq (h : t.ValueAt w site o before opening value rest) :
    Reading.ofText t = run (run ({}, []) (before ++ opening :: value)) rest := by
  rw [ofText_eq_run, h.lines, ← run_append, List.append_assoc, List.cons_append]

/-- **References on the lines of a value are noted.**  Each variable that a line of an open
value refers to is noted in the text, and in the call site when that ends, if it is not the one
that the value is given to.  In a here-document these are the lines in front of its marker.
Only a line that begins like a comment is taken for one, and nothing is noted of it: the
reading goes on with the call site as it was. -/
theorem notes_references (h : t.ValueAt w site o before opening value rest) :
    (∀ line ∈ value, isCommentLine line = false → ∀ name ∈ references line,
      name ∈ (Content.ofText t).references) ∧
    (∀ inner after, rest = inner ++ blockEnd :: after → blockEnd ∉ inner →
      ∃ ended, ended :: w.callSites <:+ (Reading.ofText t).1.callSites ∧ t.Ends ended ∧
        ended.name = site.name ∧ ∀ line ∈ value, isCommentLine line = false →
          ∀ name ∈ references line, name ≠ o.name → name ∈ ended.referenced) ∧
    ∀ p line q, value = p ++ line :: q → isCommentLine line = true →
      ∃ site' cur cur' rs,
        Stands w site' (some cur) rs (run ({}, []) before).2
          (run ({}, []) (before ++ opening :: p)) ∧
        Stands w site' (some cur') rs (run ({}, []) before).2
          (run ({}, []) (before ++ opening :: (p ++ [line]))) := by
  have hrest : ∀ line ∈ rest, IsLine line := fun line hl =>
    h.isLine line (List.mem_append_right value hl)
  obtain ⟨v, -, hstands⟩ := h.stands_value
  refine ⟨fun line hl hc name hn => ?_, ?_, ?_⟩
  · have hnoted : name ∈ (run ({}, []) (before ++ opening :: value)).1.references := by
      obtain ⟨n, hs⟩ := hstands
      rw [hs]
      exact NameSet.mem_insertAll.mpr (.inl (OpenSetting.mem_referencesWith hl hc hn))
    rw [Content.ofText_eq, h.ofText_eq]
    exact references_run hrest hnoted
  · rintro inner after rfl hinner
    have hafter : ∀ line ∈ after, IsLine line := fun line hl => hrest line (by simp [hl])
    obtain ⟨ended, hended, hname, hrefs⟩ := hstands.exists_ended_referenced hinner hafter
    rw [← h.ofText_eq] at hended
    refine ⟨ended, hended, ends_of_mem (hended.subset List.mem_cons_self), hname, ?_⟩
    intro line hl hc name hn hother
    refine hrefs name (CallSite.mem_referenced_refer.mpr (.inr ⟨?_, ?_⟩))
    · exact OpenSetting.mem_referencesWith hl hc hn
    · exact fun hown => hother (Option.some.inj hown).symm
  · rintro p line q rfl hc
    have hlonger : t.ValueAt w site o before opening (p ++ [line]) (q ++ rest) :=
      take (by simpa using h)
    obtain ⟨v, -, hp⟩ := h.take.stands_value
    obtain ⟨v', -, hp'⟩ := hlonger.stands_value
    rw [OpenSetting.referencesWith_comment o p hc] at hp'
    exact ⟨_, _, _, _, hp, hp'⟩

/-- A here-document with a heading that refers to a variable, one line that refers to the
variable it is given to, and one that begins like a comment. -/
theorem notes_references_script :
    let t : Text := ("module \"m\" \x7b\n  note = <<EOT\n== $\x7bvar.title\x7d\n" ++
      "see $\x7bvar.note\x7d\n# $\x7bvar.x\x7d\nEOT\n\x7d\n").toList
    let o : OpenSetting := { name := "note".toList, isCommented := false, isCustom := true
                             first := "<<EOT".toList, value := .heredoc "EOT".toList }
    let value : List Text := ["== $\x7bvar.title\x7d", "see $\x7bvar.note\x7d",
      "# $\x7bvar.x\x7d"].map String.toList
    t.ValueAt ⟨1, [], []⟩ { name := "m".toList } o ["module \"m\" \x7b".toList]
        "  note = <<EOT".toList value ["EOT".toList, blockEnd] ∧
      "title".toList ∈ (Content.ofText t).references ∧
      "note".toList ∈ (Content.ofText t).references ∧
      ∃ ended, t.Ends ended ∧
        ended.name = "m".toList ∧ "title".toList ∈ ended.referenced := by
  intro t o value
  have h : t.ValueAt ⟨1, [], []⟩ { name := "m".toList } o ["module \"m\" \x7b".toList]
      "  note = <<EOT".toList value ["EOT".toList, blockEnd] :=
    { lines := by decide, stands := ⟨.empty, 1, rfl⟩, opens := by decide, whole := by decide
      stays := by decide }
  obtain ⟨hnoted, hended, -⟩ := h.notes_references
  obtain ⟨ended, -, hends, hname, hrefs⟩ := hended ["EOT".toList] [] rfl (by decide)
  refine ⟨h, ?_, ?_, ended, hends, hname, ?_⟩
  · exact hnoted "== $\x7bvar.title\x7d".toList (by decide) (by decide) _ (by decide)
  · exact hnoted "see $\x7bvar.note\x7d".toList (by decide) (by decide) _ (by decide)
  · exact hrefs "== $\x7bvar.title\x7d".toList (by decide) (by decide) _ (by decide) (by decide)

/-- A line of a here-document that begins with a number sign is no comment of the language, and
still nothing is noted of what it refers to. -/
theorem heading_in_value_unread :
    let t : Text := "module \"m\" \x7b\n  note = <<EOT\n# $\x7bvar.x\x7d\nEOT\n\x7d\n".toList
    let o : OpenSetting := { name := "note".toList, isCommented := false, isCustom := true
                             first := "<<EOT".toList, value := .heredoc "EOT".toList }
    let line : Text := "# $\x7bvar.x\x7d".toList
    t.ValueAt ⟨1, [], []⟩ { name := "m".toList } o ["module \"m\" \x7b".toList]
        "  note = <<EOT".toList [line] ["EOT".toList, blockEnd] ∧
      isLabelLine line = false ∧ "x".toList ∈ references line ∧
      "x".toList ∉ (Content.ofText t).references ∧
      ∃ site ∈ (Content.ofText t).callSites.values, site.name = "m".toList ∧
        "x".toList ∉ site.referenced := by
  intro t o line
  refine ⟨{ lines := by decide, stands := ⟨.empty, 1, rfl⟩, opens := by decide
            whole := by decide, stays := by decide }, by decide, by decide, by decide, by decide⟩

end Text.ValueAt

end ModuleWiring

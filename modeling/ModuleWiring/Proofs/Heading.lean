/-
Headings of blocks, read and written.

* `IsBlockName` — what the name of a block may be;
* `isBlockName_of_heading` — every name that a heading gives is one, and it stands in
  the line of the heading;
* `ofLine?_opening`, `ofLine?_emptyDeclaration` — the headings of declarations, written
  with such a name, are read back.
-/
import ModuleWiring.Content.Reading
import ModuleWiring.Proofs.Text.Basic
import ModuleWiring.Proofs.Text.Blank

namespace ModuleWiring

/-- What stands between the quotation marks of a heading. -/
structure IsBlockName (name : Text) : Prop where
  ne_nil : name ≠ []
  noQuote : '"' ∉ name

namespace Heading

theorem isBlockName_of_opening? {keyword line name rest : Text}
    (h : opening? keyword line = some (name, rest)) :
    IsBlockName name ∧ ∀ c ∈ name, c ∈ line := by
  obtain ⟨behind, hbehind, h⟩ := Option.bind_eq_some_iff.mp h
  obtain ⟨_, -, h⟩ := Option.bind_eq_some_iff.mp h
  obtain ⟨quoted, hquoted, h⟩ := Option.bind_eq_some_iff.mp h
  obtain ⟨⟨n, tail⟩, hcut, h⟩ := Option.bind_eq_some_iff.mp h
  obtain ⟨_, hne, h⟩ := Option.bind_eq_some_iff.mp h
  obtain ⟨tail', -, h⟩ := Option.bind_eq_some_iff.mp h
  obtain ⟨rfl, -⟩ := Prod.mk.inj (Option.some.inj h)
  obtain ⟨c, hc, hquote, hname⟩ := Text.cut?_eq_some_iff.mp hcut
  refine ⟨⟨?_, ?_⟩, fun x hx => ?_⟩
  · rintro rfl
    have hnone : (guard (!List.isEmpty ([] : Text)) : Option Unit) = none := rfl
    rw [hnone] at hne
    exact absurd hne (by simp)
  · intro hm
    simpa using hname '"' hm
  · have hx' : x ∈ Text.trimStart behind := by
      rw [Text.after?_eq_some_iff.mp hquoted, hc]
      simp [hx]
    rw [Text.after?_eq_some_iff.mp hbehind]
    exact List.mem_append_right keyword ((Text.isSuffix_trimStart behind).subset hx')

/-- The name in a heading, if it has one. -/
def name? : Heading → Option Text
  | overrideMark => none
  | callSite name => some name
  | declaration name => some name
  | emptyDeclaration name => some name

/-- Every name that a heading gives is a block name, and stands in the line. -/
theorem isBlockName_of_heading {line name : Text} {h : Heading} (hh : ofLine? line = some h)
    (hn : h.name? = some name) : IsBlockName name ∧ ∀ c ∈ name, c ∈ line := by
  rw [ofLine?] at hh
  split at hh
  · obtain rfl := Option.some.inj hh
    exact absurd hn (by simp [name?])
  split at hh
  · next n rest hopen =>
    split at hh
    · obtain rfl := Option.some.inj hh
      obtain rfl := Option.some.inj hn
      exact isBlockName_of_opening? hopen
    · exact absurd hh (by simp)
  split at hh
  · next n rest hopen =>
    split at hh
    · obtain rfl := Option.some.inj hh
      obtain rfl := Option.some.inj hn
      exact isBlockName_of_opening? hopen
    split at hh
    · obtain rfl := Option.some.inj hh
      obtain rfl := Option.some.inj hn
      exact isBlockName_of_opening? hopen
    · exact absurd hh (by simp)
  · exact absurd hh (by simp)

/-! ### Written headings -/

/-- The first line of a declaration as it is written, up to its brace. -/
def opening (name : Text) : Text :=
  BlockKind.declaration.keyword ++ " \"".toList ++ name ++ "\" \x7b".toList

theorem trimEnd_opening (name : Text) : Text.trimEnd (opening name) = opening name := by
  rw [opening, show "\" \x7b".toList = ['"', ' '] ++ ['\x7b'] from rfl, ← List.append_assoc]
  exact Text.trimEnd_concat_of_not_blank rfl

theorem not_blank_opening (name rest : Text) : Text.isBlank (opening name ++ rest) = false := rfl

theorem not_feed_opening {name : Text} (h : '\n' ∉ name) : '\n' ∉ opening name := by
  have hfront : '\n' ∉ BlockKind.declaration.keyword ++ " \"".toList := by decide
  have hback : '\n' ∉ "\" \x7b".toList := by decide
  rw [opening, List.mem_append, List.mem_append]
  exact fun hm => hm.elim (fun hm => hm.elim hfront h) hback

theorem opening?_opening {name : Text} (hn : IsBlockName name) (rest : Text) :
    opening? BlockKind.declaration.keyword (opening name ++ rest) = some (name, rest) := by
  have hafter : Text.after? BlockKind.declaration.keyword (opening name ++ rest) =
      some (' ' :: '"' :: (name ++ '"' :: ' ' :: '\x7b' :: rest)) := by
    rw [Text.after?_eq_some_iff, opening]
    simp
  have hcut : Text.cut? (· == '"') (name ++ '"' :: ' ' :: '\x7b' :: rest) =
      some (name, ' ' :: '\x7b' :: rest) := by
    refine Text.cut?_append (fun x hx => ?_) rfl
    simp only [beq_eq_false_iff_ne]
    rintro rfl
    exact hn.noQuote hx
  have hbrace : Text.after? ['\x7b'] (Text.trimStart (' ' :: '\x7b' :: rest)) = some rest := rfl
  have hname : (guard (!name.isEmpty) : Option Unit) = some () := by
    rw [List.isEmpty_eq_false_iff.mpr hn.ne_nil]
    rfl
  rw [opening?, Option.bind_eq_bind, hafter, Option.bind_some]
  -- what the quotation mark is preceded by is written out, so its reading computes
  refine Option.bind_eq_some_iff.mpr ⟨(), rfl, Option.bind_eq_some_iff.mpr ⟨_, rfl, ?_⟩⟩
  refine Option.bind_eq_some_iff.mpr ⟨_, hcut, Option.bind_eq_some_iff.mpr ⟨(), hname, ?_⟩⟩
  exact Option.bind_eq_some_iff.mpr ⟨_, hbrace, rfl⟩

theorem isOverrideMark_opening (name rest : Text) :
    isOverrideMark (opening name ++ rest) = false := rfl

theorem opening?_callSite_opening (name rest : Text) :
    opening? BlockKind.callSite.keyword (opening name ++ rest) = none := rfl

/-- A declaration's first line is read back. -/
theorem ofLine?_opening {name : Text} (hn : IsBlockName name) :
    ofLine? (opening name) = some (.declaration name) := by
  have h := opening?_opening hn []
  have hm := isOverrideMark_opening name []
  have hc := opening?_callSite_opening name []
  rw [List.append_nil] at h hm hc
  rw [ofLine?, hm, hc, h]
  rfl

/-- A declaration with nothing in it is read back. -/
theorem ofLine?_emptyDeclaration {name : Text} (hn : IsBlockName name) :
    ofLine? (opening name ++ ['\x7d']) = some (.emptyDeclaration name) := by
  rw [ofLine?, isOverrideMark_opening, opening?_callSite_opening, opening?_opening hn]
  rfl

theorem isLabelLine_opening (name rest : Text) : isLabelLine (opening name ++ rest) = false := rfl

end Heading

end ModuleWiring

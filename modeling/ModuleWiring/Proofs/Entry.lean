/-
Assignments of a call site, read and written.

* `of_reserved`, `of_setting` — what is known of an entry that has been read;
* `ofLine?_written` — the line that writes an assignment is read back as it is.
-/
import ModuleWiring.Assignment
import ModuleWiring.Content.Reading
import ModuleWiring.Proofs.Convention
import ModuleWiring.Proofs.Text.Basic

namespace ModuleWiring

theorem Attribute.of_ofLine? {line : Text} {a : Attribute} (h : ofLine? line = some a) :
    Text.trim a.value = a.value ∧ (∀ c ∈ a.value, c ∈ line) := by
  rw [ofLine?] at h
  rcases hcut : Text.cut? (· == '=') line with _ | ⟨left, right⟩
  · rw [hcut] at h
    exact absurd h (by simp)
  · rw [hcut] at h
    simp only [Option.ite_none_left_eq_some, Option.some.injEq] at h
    obtain ⟨-, rfl⟩ := h
    obtain ⟨c, rfl, -, -⟩ := Text.cut?_eq_some_iff.mp hcut
    refine ⟨Text.trim_trim right, fun x hx => ?_⟩
    exact List.mem_append_right left (List.mem_cons_of_mem c (Text.mem_of_mem_trim hx))

namespace Entry

variable {line key value : Text} {isCommented isCustom : Bool}

/-- What is known of a reserved argument that has been read. -/
theorem of_reserved (h : ofLine? line = some (.reserved key value)) :
    key ∈ reservedNames ∧ (∀ c ∈ value, c ∈ line) := by
  rw [ofLine?] at h
  split at h
  · exact absurd h (by simp)
  next a ha =>
    have hvalue := (Attribute.of_ofLine? ha).2
    simp only at h
    split at h
    · split at h
      · next hr =>
        split at h
        · exact absurd h (by simp)
        · obtain ⟨rfl, rfl⟩ := Entry.reserved.inj (Option.some.inj h)
          rw [Bool.and_eq_true] at hr
          exact ⟨List.contains_iff_mem.mp hr.1, hvalue⟩
      · exact absurd h (by simp)
    · exact absurd h (by simp)

/-- What is known of an assignment that has been read. -/
theorem of_setting (h : ofLine? line = some (.setting key value isCommented isCustom)) :
    isIdentifier key = true ∧ Text.trim value = value ∧
      isCustom = (value != passThrough key) ∧
      (reservedNames.contains key && isCustom) = false ∧ (∀ c ∈ value, c ∈ line) := by
  rw [ofLine?] at h
  split at h
  · exact absurd h (by simp)
  next a ha =>
    obtain ⟨htrim, hvalue⟩ := Attribute.of_ofLine? ha
    simp only at h
    split at h
    · next hid =>
      split at h
      · next hr =>
        split at h <;> exact absurd h (by simp)
      · next hr =>
        obtain ⟨rfl, rfl, rfl, rfl⟩ := Entry.setting.inj (Option.some.inj h)
        exact ⟨hid.2, htrim, rfl, by simpa using hr, hvalue⟩
    · exact absurd h (by simp)

/-- The key of a label is no identifier. -/
theorem isIdentifier_of_label {left right : Text} (hleft : Text.isBlank left = false)
    (h : isLabelLine (left ++ '=' :: right) = true) :
    isIdentifier (uncomment (Text.trim left)).2 = false := by
  obtain ⟨c, cs, hstart⟩ : ∃ c cs, left.dropWhile isBlankChar = c :: cs := by
    refine List.exists_cons_of_ne_nil fun hnil => ?_
    have hblank : Text.isBlank left = true :=
      List.all_eq_true.mpr (List.dropWhile_eq_nil_iff.mp hnil)
    exact absurd (hleft.symm.trans hblank) Bool.false_ne_true
  have hmark : labelMark = ['#', '~'] := rfl
  rw [isLabelLine, Text.trimStart, List.dropWhile_append, hstart, List.isPrefixOf_iff_prefix,
    hmark] at h
  -- the mark does not reach up to the equals sign
  rcases cs with _ | ⟨d, cs⟩
  · simp [List.cons_prefix_cons] at h
  · obtain ⟨rfl, rfl⟩ : '#' = c ∧ '~' = d := by simpa [List.cons_prefix_cons] using h
    have htrim : Text.trim left = '#' :: '~' :: Text.trimEnd cs := by
      rw [Text.trim, Text.trimStart, hstart]
      exact Text.trimEnd_append_cons (t := ['#']) (by decide)
    rw [htrim]
    rfl

/-- A label says nothing in a call site. -/
theorem ofLine?_of_label {line : Text} (h : isLabelLine line = true) : ofLine? line = none := by
  rw [ofLine?]
  split
  · rfl
  · next a ha =>
    rw [Attribute.ofLine?] at ha
    split at ha
    · exact absurd ha (by simp)
    · next left right hcut =>
      simp only [Option.ite_none_left_eq_some, Option.some.injEq, Bool.not_eq_true] at ha
      obtain ⟨hleft, rfl⟩ := ha
      obtain ⟨c, rfl, hc, -⟩ := Text.cut?_eq_some_iff.mp hcut
      obtain rfl := beq_iff_eq.mp hc
      simp [isIdentifier_of_label hleft h]

theorem isLabelLine_of_ofLine? {line : Text} {e : Entry} (h : ofLine? line = some e) :
    isLabelLine line = false := by
  rw [← Bool.not_eq_true]
  intro hl
  rw [ofLine?_of_label hl] at h
  exact absurd h (by simp)

/-! ### Written assignments -/

theorem trim_displayName {a : Assignment} (h : isIdentifier a.name = true) :
    Text.trim a.displayName = a.displayName := by
  rw [Assignment.displayName]
  split
  · have htrim := Text.trimEnd_eq_self_of_trim (trim_identifier h)
    have hstart : Text.trimStart (['#', ' '] ++ a.name) = ['#', ' '] ++ a.name := rfl
    rw [Text.trim, hstart, Text.trimEnd_append htrim (ne_nil_of_isIdentifier h)]
  · exact trim_identifier h

theorem uncomment_displayName {a : Assignment} (h : isIdentifier a.name = true) :
    uncomment a.displayName = (a.isCommented, a.name) := by
  have hstart := Text.trimStart_eq_self_of_trim (trim_identifier h)
  rw [Assignment.displayName]
  cases a.isCommented with
  | true =>
    show (true, Text.trimStart (' ' :: a.name)) = _
    rw [show ' ' :: a.name = [' '] ++ a.name from rfl, Text.trimStart_blank_append rfl, hstart]
  | false =>
    rw [if_neg Bool.false_ne_true]
    rcases hname : a.name with _ | ⟨c, cs⟩
    · rfl
    · have hc : c ≠ '#' := ne_of_mem_identifier h (hname ▸ List.mem_cons_self) (by decide)
      rw [uncomment]
      rintro rest hrest
      exact hc (List.cons.inj hrest).1

theorem not_mem_displayName {a : Assignment} (h : isIdentifier a.name = true) :
    ∀ c ∈ a.displayName, c ≠ '=' ∧ c ≠ '\n' := by
  intro c hc
  rw [Assignment.displayName] at hc
  have hname : ∀ d ∈ a.name, d ≠ '=' ∧ d ≠ '\n' := fun d hd =>
    ⟨ne_of_mem_identifier h hd (by decide), ne_of_mem_identifier h hd (by decide)⟩
  split at hc
  · rcases List.mem_append.mp hc with hc | hc
    · rcases List.mem_cons.mp hc with rfl | hc
      · decide
      · rw [List.mem_singleton.mp hc]
        decide
    · exact hname c hc
  · exact hname c hc

/-- The line that assigns a value, with blanks in front of the equals sign. -/
def written (a : Assignment) (pad value : Text) : Text :=
  "  ".toList ++ (a.displayName ++ pad) ++ " = ".toList ++ value

theorem displayName_eq_cons {a : Assignment} (h : isIdentifier a.name = true) :
    ∃ c cs, a.displayName = c :: cs ∧ isBlankChar c = false := by
  have hstart := Text.trimStart_eq_self_of_trim (trim_displayName h)
  rcases hd : a.displayName with _ | ⟨c, cs⟩
  · have hnil := uncomment_displayName h
    rw [hd] at hnil
    exact absurd (Prod.mk.inj hnil).2.symm (ne_nil_of_isIdentifier h)
  · rw [hd] at hstart
    exact ⟨c, cs, rfl, Text.not_blank_of_trimStart hstart⟩

/-- What stands in front of the equals sign of a written assignment. -/
theorem keyPart_written {a : Assignment} {pad : Text} (hname : isIdentifier a.name = true)
    (hpad : Text.isBlank pad = true) :
    Text.trim ("  ".toList ++ (a.displayName ++ pad) ++ [' ']) = a.displayName ∧
      Text.isBlank ("  ".toList ++ (a.displayName ++ pad) ++ [' ']) = false ∧
      Text.byteLength
        (("  ".toList ++ (a.displayName ++ pad) ++ [' ']).takeWhile isBlankChar) = 2 := by
  refine ⟨?_, ?_⟩
  · have hpad' : Text.isBlank (pad ++ [' ']) = true := by
      rw [Text.isBlank, List.all_append, Bool.and_eq_true]
      exact ⟨hpad, rfl⟩
    have h := Text.trim_padded (b := "  ".toList) rfl (trim_displayName hname) hpad'
    simpa using h
  · obtain ⟨c, cs, hd, hc⟩ := displayName_eq_cons hname
    have htake : ("  ".toList ++ (a.displayName ++ pad) ++ [' ']).takeWhile isBlankChar =
        [' ', ' '] := by
      have hspace : isBlankChar ' ' = true := rfl
      simp [hd, hc, hspace]
    refine ⟨?_, by rw [htake]; rfl⟩
    simp [Text.isBlank, hd, hc]

theorem ofLine?_written {a : Assignment} {pad : Text} (hname : isIdentifier a.name = true)
    (hpad : Text.isBlank pad = true) (hvalue : Text.trim value = value)
    (hfree : (reservedNames.contains a.name && value != passThrough a.name) = false) :
    ofLine? (Text.trimEnd (written a pad value)) =
      some (.setting a.name value a.isCommented (value != passThrough a.name)) := by
  have hleft : ∀ x ∈ "  ".toList ++ (a.displayName ++ pad) ++ [' '], (x == '=') = false := by
    intro x hx
    simp only [List.mem_append] at hx
    rw [beq_eq_false_iff_ne]
    rcases hx with (hx | hx | hx) | hx
    · rintro rfl
      exact absurd hx (by decide)
    · exact (not_mem_displayName hname x hx).1
    · rintro rfl
      exact absurd (List.all_eq_true.mp hpad _ hx) (by decide)
    · rintro rfl
      exact absurd hx (by decide)
  have hline : written a pad value =
      ("  ".toList ++ (a.displayName ++ pad) ++ [' ']) ++ '=' :: ([' '] ++ value) := by
    simp [written]
  have hright : Text.trim (Text.trimEnd ([' '] ++ value)) = value := by
    by_cases hnil : value = []
    · rw [hnil]
      rfl
    · rw [Text.trimEnd_append (Text.trimEnd_eq_self_of_trim hvalue) hnil]
      simpa using Text.trim_padded (b := [' ']) (d := []) rfl hvalue rfl
  obtain ⟨hkey, hblank, hindent⟩ := keyPart_written hname hpad
  have hattribute : Attribute.ofLine? (Text.trimEnd (written a pad value)) =
      some { key := a.displayName, value := value, indent := 2 } := by
    rw [hline, Text.trimEnd_append_cons (by decide), Attribute.ofLine?, Text.cut?_append hleft rfl]
    simp only [hblank, hkey, hright, hindent, Bool.false_eq_true, if_false]
  rw [ofLine?, hattribute]
  simp only [uncomment_displayName hname, hname, hfree, and_self, if_true, Bool.false_eq_true,
    if_false]

end Entry

end ModuleWiring

/-
What a reading records of assignments.

A setting is recorded in one line, or line by line while its value is open.  What each of
the ways to record one makes sure of holds of all settings that a reading has come to:

* `Recording` — a property that every way of recording makes sure of;
* `Recording.step_here` — one line keeps it in the call site that the reading stands in;
* `Recording.step`, `Recording.ofText` — and in all call sites, so it holds behind a text;
* `Setting.Noted`, `noted_ofText` — such a property: what may stand in a setting;
* `tidy` — whether no line cuts a value off and none records a variable again.
-/
import ModuleWiring.Proofs.OrderedMap
import ModuleWiring.Proofs.Reading.Legible

namespace ModuleWiring

namespace Reading

/-- The assignment that is open, if one is. -/
def current? (r : Reading) : Option OpenSetting :=
  match r.region with
  | .callSite _ _ cur => cur
  | _ => none

/-- Whether a line ends a call site while a value is open in it. -/
def cutsValue (r : Reading) (line : Text) : Bool :=
  r.current?.isSome && line == blockEnd

/-- Whether a line records a variable that its call site has recorded before. -/
def recordsAgain (r : Reading) (line : Text) : Bool :=
  match r.region, Entry.ofLine? line with
  | .callSite site _ none, some (.setting key _ isCommented isCustom) =>
    (isCommented || isCustom) && site.settings.contains key
  | _, _ => false

/-- Whether no line cuts a value off and none records a variable again. -/
def tidy : Reading × List Line → List Text → Bool
  | _, [] => true
  | s, line :: ls => !s.1.cutsValue line && !s.1.recordsAgain line && tidy (visit.step s line) ls

/-- A property of recorded settings and of open ones that every way to record a setting
makes sure of. -/
structure Recording (P : Text → Setting → Prop) (Q : OpenSetting → Prop) : Prop where
  whole : ∀ {line key value : Text} {isCommented isCustom : Bool}, IsLine line →
    Entry.ofLine? line = some (.setting key value isCommented isCustom) →
    (isCommented || isCustom) = true → OpenValue.ofFirstLine? value = none →
    P key { isCommented := isCommented, isCustom := isCustom, lines := [value] }
  first : ∀ {line key value : Text} {isCommented isCustom : Bool} {v : OpenValue}, IsLine line →
    Entry.ofLine? line = some (.setting key value isCommented isCustom) →
    (isCommented || isCustom) = true → OpenValue.ofFirstLine? value = some v →
    Q { name := key, isCommented := isCommented, isCustom := isCustom, first := value, value := v }
  further : ∀ {o : OpenSetting} {line : Text} {v : OpenValue}, Q o → IsLine line →
    isLabelLine line = false → line ≠ blockEnd → o.value.afterLine? (o.code line) = some v →
    Q { o.push line with value := v }
  last : ∀ {o : OpenSetting} {line : Text}, Q o → IsLine line → isLabelLine line = false →
    line ≠ blockEnd → o.value.afterLine? (o.code line) = none → P o.name (o.push line).close

/-- The call site that a reading stands in. -/
def callSite? (r : Reading) : Option CallSite :=
  match r.region with
  | .callSite site _ _ => some site
  | _ => none

/-- Whether what a reading has recorded in the call site that it stands in has a property. -/
structure RecordsHere (P : Text → Setting → Prop) (Q : OpenSetting → Prop) (r : Reading) :
    Prop where
  setting : ∀ site ∈ r.callSite?, ∀ e ∈ site.settings.entries, P e.1 e.2
  current : ∀ o ∈ r.current?, Q o

/-- Whether all settings that a reading has come to have a property. -/
structure Records (P : Text → Setting → Prop) (Q : OpenSetting → Prop)
    (r : Reading) : Prop where
  setting : ∀ site ∈ r.allCallSites, ∀ e ∈ site.settings.entries, P e.1 e.2
  current : ∀ o ∈ r.current?, Q o

variable {P : Text → Setting → Prop} {Q : OpenSetting → Prop} {s s' : Reading × List Line}
  {line : Text}

theorem name_push (o : OpenSetting) (line : Text) : (o.push line).name = o.name := by
  rw [OpenSetting.push]
  split <;> rfl

theorem mem_entries_set {site : CallSite} {name : Text} {setting : Setting} {e : Text × Setting}
    (h : e ∈ (site.set name setting).settings.entries) :
    e = (name, setting) ∨ e ∈ site.settings.entries :=
  OrderedMap.mem_put h

theorem mem_allCallSites_iff {r : Reading} {site : CallSite} :
    site ∈ r.allCallSites ↔ site ∈ r.callSite? ∨ site ∈ r.callSites := by
  rcases hregion : r.region with _ | ⟨here, m, cur⟩ | _
  · simp [allCallSites, callSite?, hregion]
  · simp [allCallSites, callSite?, hregion, eq_comm]
  · simp [allCallSites, callSite?, hregion]

/-- A line ends at most the call site that a reading stands in. -/
theorem callSites_cases (h : Step s line s') : s'.1.callSites = s.1.callSites ∨
    ∃ site m cur, line = blockEnd ∧ s.1.region = .callSite site m cur ∧
      s'.1.callSites = site.close cur :: s.1.callSites := by
  cases h with
  | callSiteEnd => exact .inr ⟨_, _, _, rfl, rfl, rfl⟩
  | _ => exact .inl rfl

/-- One line keeps a property of what is recorded in the call site that a reading stands in. -/
theorem Recording.step_here (hR : Recording P Q) (hs : RecordsHere P Q s.1) (hline : IsLine line)
    (h : Step s line s') : RecordsHere P Q s'.1 := by
  obtain ⟨hsetting, hcurrent⟩ := hs
  -- a step may record one more setting
  have more : ∀ {old new : CallSite},
      (∀ site ∈ some old, ∀ e ∈ site.settings.entries, P e.1 e.2) →
      (∀ e ∈ new.settings.entries, P e.1 e.2 ∨ e ∈ old.settings.entries) →
        ∀ site ∈ some new, ∀ e ∈ site.settings.entries, P e.1 e.2 := by
    intro old new hall hnew site hsite e he
    obtain rfl := Option.some.inj hsite
    exact (hnew e he).elim id (hall old rfl e)
  have outside : ∀ site ∈ (none : Option CallSite),
      ∀ e ∈ site.settings.entries, P e.1 e.2 := by
    simp
  have closed : ∀ o ∈ (none : Option OpenSetting), Q o := by simp
  cases h with
  | label | passThrough => exact ⟨hsetting, hcurrent⟩
  | callSiteHeading => exact ⟨by simp [callSite?, OrderedMap.empty], closed⟩
  | valueGoesOn hl he hv =>
    refine ⟨more hsetting fun e he => .inr he, fun o' ho' => ?_⟩
    obtain rfl := Option.some.inj ho'
    exact hR.further (hcurrent _ rfl) hline hl he hv
  | valueEnd hl hend hv =>
    refine ⟨more hsetting fun e he => ?_, closed⟩
    rcases mem_entries_set he with rfl | he
    · rw [name_push]
      exact .inl (hR.last (hcurrent _ rfl) hline hl hend hv)
    · exact .inr he
  | setting hl he hr hn hv =>
    refine ⟨more hsetting fun e he => ?_, closed⟩
    rcases mem_entries_set he with rfl | he
    · exact .inl (hR.whole hline hr hn hv)
    · exact .inr he
  | openSetting hl he hr hn hv =>
    refine ⟨more hsetting fun e he => .inr he, fun o' ho' => ?_⟩
    obtain rfl := Option.some.inj ho'
    exact hR.first hline hr hn hv
  | reserved | callSiteLine => exact ⟨more hsetting fun e he => .inr he, closed⟩
  | _ => exact ⟨outside, closed⟩

/-- One line keeps a property of settings.  A value that is cut off needs a reason of its
own. -/
theorem Recording.step (hR : Recording P Q)
    (hcut : s.1.cutsValue line = true → ∀ o, Q o → P o.name o.close) (hs : Records P Q s.1)
    (hline : IsLine line) (h : Step s line s') : Records P Q s'.1 := by
  have hhere : RecordsHere P Q s.1 :=
    ⟨fun site hsite => hs.setting site (mem_allCallSites_iff.mpr (.inl hsite)), hs.current⟩
  obtain ⟨hsetting, hcurrent⟩ := hR.step_here hhere hline h
  have hended : ∀ site ∈ s.1.callSites, ∀ e ∈ site.settings.entries, P e.1 e.2 :=
    fun site hsite => hs.setting site (mem_allCallSites_iff.mpr (.inr hsite))
  refine ⟨fun site hsite e he => ?_, hcurrent⟩
  rcases mem_allCallSites_iff.mp hsite with hsite | hsite
  · exact hsetting site hsite e he
  rcases callSites_cases h with hsame | ⟨site', m, cur, rfl, hregion, hcons⟩
  · exact hended site (hsame ▸ hsite) e he
  · have hstood : site' ∈ s.1.callSite? := by rw [callSite?, hregion]; rfl
    have hcur : s.1.current? = cur := by rw [current?, hregion]
    rw [hcons] at hsite
    rcases List.mem_cons.mp hsite with rfl | hsite
    · cases cur with
      | none => exact hhere.setting site' hstood e he
      | some o =>
        rcases mem_entries_set he with rfl | he
        · exact hcut (by simp [cutsValue, hcur]) o (hs.current o hcur)
        · exact hhere.setting site' hstood e he
    · exact hended site hsite e he

/-- A property that settings have even when they are cut off holds of all that is read. -/
theorem Recording.ofText (hR : Recording P Q) (hcut : ∀ o, Q o → P o.name o.close) (t : Text) :
    Records P Q (ofText t).1 := by
  have hinit : Records P Q (({}, []) : Reading × List Line).1 :=
    ⟨by simp [allCallSites], by simp [current?]⟩
  exact ofText_induction hinit
    (fun _ _ _ hs hline h => hR.step (fun _ => hcut) hs hline h) t

/-! ### Tidy texts -/

/-- What every tidy step keeps holds at the end of a tidy run. -/
theorem tidy_induction {P : Reading × List Line → Prop}
    (hstep : ∀ s line s', P s → IsLine line → s.1.cutsValue line = false →
      s.1.recordsAgain line = false → Step s line s' → P s')
    {s : Reading × List Line} (hs : P s) {ls : List Text} (hls : ∀ line ∈ ls, IsLine line)
    (ht : tidy s ls = true) : P (run s ls) := by
  induction ls generalizing s with
  | nil => exact hs
  | cons line ls ih =>
    simp only [tidy, Bool.and_eq_true, Bool.not_eq_true'] at ht
    obtain ⟨⟨hcut, hagain⟩, ht⟩ := ht
    have hline := hls line List.mem_cons_self
    exact ih (hstep s line _ hs hline hcut hagain (step_spec s line))
      (fun l hl => hls l (List.mem_cons_of_mem line hl)) ht

end Reading

/-! ### What stands in a setting -/

/-- What is known of a setting that is recorded under a name. -/
structure Setting.Noted (name : Text) (s : Setting) : Prop where
  identifier : isIdentifier name = true
  recorded : (s.isCommented || s.isCustom) = true
  free : (reservedNames.contains name && s.isCustom) = false
  lines : ∃ first further, s.lines = first :: further ∧ Text.trim first = first ∧
    '\n' ∉ first ∧ s.isCustom = (first != passThrough name) ∧
    (∀ l ∈ further, Reading.IsLine l) ∧
    (s.isCustom = false → further = [])

/-- What is known of a setting whose value is open. -/
structure OpenSetting.Noted (o : OpenSetting) : Prop where
  identifier : isIdentifier o.name = true
  free : reservedNames.contains o.name = false
  trimmed : Text.trim o.first = o.first
  noFeed : '\n' ∉ o.first
  isCustom : o.isCustom = true
  custom : (o.first != passThrough o.name) = true
  further : ∀ l ∈ o.further, Reading.IsLine l

/-- What opens or closes a bracket or begins a literal. -/
def nestingChars : List Char :=
  ['"', '(', '[', '\x7b', ')', ']', '\x7d']

/-- No bracket and no literal: nothing is open. -/
theorem nestingDelta_of_plain {t : Text}
    (h : ∀ c ∈ t, c ∉ nestingChars) : nestingDelta t = 0 := by
  rw [nestingDelta]
  induction t with
  | nil => rfl
  | cons c t ih =>
    have hc := h c List.mem_cons_self
    simp only [nestingChars, List.mem_cons, not_or] at hc
    have hrest := ih fun d hd => h d (List.mem_cons_of_mem c hd)
    simp [nestingDeltaFrom, hrest, hc]

/-- A variable that is passed through is no open value. -/
theorem ofFirstLine?_passThrough {name : Text} (h : isIdentifier name = true) :
    OpenValue.ofFirstLine? (passThrough name) = none := by
  have hplain : ∀ c ∈ passThrough name, c ∉ nestingChars := by
    intro c hc
    rcases List.mem_append.mp hc with hc | hc
    · have hopening : referenceOpening.all (fun d => !nestingChars.contains d) = true := rfl
      simpa using List.all_eq_true.mp hopening c hc
    · have hname : nestingChars.all (fun d => !isNameChar d) = true := rfl
      intro hm
      have hc' := isNameChar_of_mem h hc
      simpa [hc'] using List.all_eq_true.mp hname c hm
  have hafter : Text.after? ['<', '<'] (passThrough name) = none := rfl
  rw [OpenValue.ofFirstLine?, hafter]
  simp [nestingDelta_of_plain hplain]

namespace Reading

theorem isLine_push {o : OpenSetting} {line : Text} (h : ∀ l ∈ o.further, IsLine l)
    (hline : IsLine line) : ∀ l ∈ (o.push line).further, IsLine l := by
  rw [OpenSetting.push]
  split
  · exact h
  · intro l hl
    rcases List.mem_cons.mp hl with rfl | hl
    · exact hline
    · exact h l hl

theorem noted_close {o : OpenSetting} (h : o.Noted) : o.close.Noted o.name := by
  have hcustom := h.isCustom
  refine ⟨h.identifier, by simp [OpenSetting.close, hcustom], by rw [h.free]; rfl, ?_⟩
  refine ⟨o.first, _, rfl, h.trimmed, h.noFeed, ?_, ?_, ?_⟩
  · rw [OpenSetting.close, hcustom, h.custom]
  · intro l hl
    exact h.further l ((List.dropWhile_suffix _).subset (List.mem_reverse.mp hl))
  · intro hc
    rw [OpenSetting.close, hcustom] at hc
    exact Bool.noConfusion hc

theorem noted_push {o : OpenSetting} {line : Text} (h : o.Noted) (hline : IsLine line)
    (v : OpenValue) : OpenSetting.Noted { o.push line with value := v } := by
  have hfurther := isLine_push h.further hline
  rw [OpenSetting.push] at hfurther ⊢
  split
  · exact ⟨h.identifier, h.free, h.trimmed, h.noFeed, h.isCustom, h.custom, h.further⟩
  · next hb =>
    rw [if_neg hb] at hfurther
    exact ⟨h.identifier, h.free, h.trimmed, h.noFeed, h.isCustom, h.custom, hfurther⟩

theorem recording_noted : Recording Setting.Noted OpenSetting.Noted where
  whole hline hr hn hv := by
    obtain ⟨hid, htrim, hcustom, hfree, hmem⟩ := Entry.of_setting hr
    exact ⟨hid, hn, hfree, _, [], rfl, htrim, fun h => hline.noFeed (hmem _ h), hcustom, by simp,
      fun _ => rfl⟩
  first hline hr hn hv := by
    obtain ⟨hid, htrim, hcustom, hfree, hmem⟩ := Entry.of_setting hr
    rename_i key value isCommented isCustom v
    -- the variable itself opens no value, so what is open is given by hand
    have hne : (value != passThrough key) = true := by
      rw [bne_iff_ne]
      rintro rfl
      rw [ofFirstLine?_passThrough hid] at hv
      exact absurd hv (by simp)
    rw [hne] at hcustom
    subst hcustom
    rw [Bool.and_true] at hfree
    exact ⟨hid, hfree, htrim, fun h => hline.noFeed (hmem _ h), rfl, hne, by simp⟩
  further h hline hl he hv := noted_push h hline _
  last h hline hl he hv := by
    rename_i o line
    -- what the value waits for does not matter once it ends
    have hpush := noted_close (noted_push h hline o.value)
    have hclose : ({ o.push line with value := o.value } : OpenSetting).close =
        (o.push line).close := rfl
    rw [hclose] at hpush
    rw [← name_push o line]
    exact hpush

end Reading

/-- The settings of the call sites of every text are such as `Setting.Noted` says. -/
theorem Content.noted_ofText {t : Text} {site : CallSite}
    (h : site ∈ (ofText t).callSites.values) {name : Text} {s : Setting}
    (hs : site.settings.get? name = some s) : s.Noted name := by
  obtain ⟨⟨key, site'⟩, he, rfl⟩ := List.mem_map.mp h
  have hmem := mem_allCallSites (mem_callSites_ofText he).2
  have hrecords := Reading.recording_noted.ofText (fun _ => Reading.noted_close) t
  exact hrecords.setting _ hmem _ (OrderedMap.get?_eq_some_iff.mp hs)

end ModuleWiring

/-
The steps of paths.

A slash divides a text without disturbing the parts on its two sides, so the steps of a path
that is put together from two are those of the first and then those of the second; only a dot in
front of the second means nothing there.

* `segments_append`, `segments_ofSegments` — the parts of texts that are put together;
* `IsName` — a text that names an entry of a folder;
* `steps_eq_nil_iff` — only the empty path has no step;
* `steps_join`, `steps_join_of_relative` — the steps of a path seen from another;
* `parent?_eq_none_iff`, `steps_of_parent?` — which paths have a parent, and its steps.
-/
import Mathlib.Data.List.Basic
import Mathlib.Data.List.TakeWhile
import ModuleWiring.Path

namespace ModuleWiring.Path

variable {p q folder : Path} {u v s name : Text} {ss : List Text}

/-! ### Parts between slashes -/

theorem segments_ne_nil (u : Text) : segments u ≠ [] := by
  rcases u with _ | ⟨c, u⟩
  · simp [segments]
  · rw [segments]
    split
    · simp
    · split <;> simp

theorem segments_append (u v : Text) : segments (u ++ '/' :: v) = segments u ++ segments v := by
  induction u with
  | nil => simp [segments]
  | cons c u ih =>
    rw [List.cons_append, segments, segments]
    split
    · rw [ih, List.cons_append]
    · rw [ih]
      obtain ⟨s, ss, hs⟩ := List.exists_cons_of_ne_nil (segments_ne_nil u)
      rw [hs]
      rfl

theorem segments_of_noSlash (h : '/' ∉ name) : segments name = [name] := by
  induction name with
  | nil => rfl
  | cons c name ih =>
    rw [List.mem_cons, not_or] at h
    rw [segments, if_neg (Ne.symm h.1), ih h.2]

theorem noSlash_of_mem_segments (h : s ∈ segments u) : '/' ∉ s := by
  induction u generalizing s with
  | nil =>
    rw [segments, List.mem_singleton] at h
    simp [h]
  | cons c u ih =>
    rw [segments] at h
    split at h
    · rcases List.mem_cons.mp h with rfl | h
      · simp
      · exact ih h
    · next hc =>
      split at h
      · rw [List.mem_singleton.mp h, List.mem_singleton]
        exact Ne.symm hc
      · next s' ss hss =>
        rw [hss] at ih
        rcases List.mem_cons.mp h with rfl | h
        · rw [List.mem_cons, not_or]
          exact ⟨Ne.symm hc, ih List.mem_cons_self⟩
        · exact ih (List.mem_cons_of_mem s' h)

/-- The parts of a text that was made from parts. -/
theorem segments_ofSegments (h : ∀ s' ∈ s :: ss, '/' ∉ s') :
    segments (ofSegments (s :: ss)) = s :: ss := by
  induction ss generalizing s with
  | nil => exact segments_of_noSlash (h s List.mem_cons_self)
  | cons s' ss ih =>
    rw [ofSegments, segments_append, segments_of_noSlash (h s List.mem_cons_self),
      ih fun s'' hs'' => h s'' (List.mem_cons_of_mem s hs''), List.singleton_append]
    simp

/-- The only text whose one part is empty is the empty one. -/
theorem eq_nil_of_segments (h : segments u = [[]]) : u = [] := by
  rcases u with _ | ⟨c, u⟩
  · rfl
  · rw [segments] at h
    split at h
    · exact absurd (List.cons.inj h).2 (segments_ne_nil u)
    · split at h <;> simp at h

/-- The first part of a path is empty just when a slash or nothing stands in front. -/
theorem head_segments_eq_nil_iff (hu : segments u = s :: ss) :
    s = [] ↔ u = [] ∨ isAbsolute ⟨u⟩ = true := by
  rcases u with _ | ⟨c, u⟩
  · rw [segments] at hu
    simp [← (List.cons.inj hu).1]
  · rw [segments] at hu
    split at hu
    · next hc => simp [← (List.cons.inj hu).1, isAbsolute, hc]
    · next hc =>
      have hs : s ≠ [] := by
        split at hu <;> rw [← (List.cons.inj hu).1] <;> exact List.cons_ne_nil _ _
      simp [hs, isAbsolute, hc]

/-! ### Steps of parts -/

/-- Behind a slash a part leads up or to an entry. -/
theorem eq_of_step?_eq_some {step : PathStep} (h : step? s = some step) :
    step = .up ∨ step = .entry s := by
  rw [step?] at h
  split at h
  · exact absurd h (by simp)
  · split at h
    · exact .inl (Option.some.inj h).symm
    · exact .inr (Option.some.inj h).symm

/-- The name that a part of a path stands for is that part. -/
theorem eq_of_step? (h : step? s = some (.entry name)) : s = name := by
  simpa [eq_comm] using eq_of_step?_eq_some h

theorem step?_ne_here (s : Text) : step? s ≠ some .here := fun h => by
  simpa using eq_of_step?_eq_some h

theorem isIdle_iff (s : Text) : isIdle s = true ↔ s = [] ∨ s = ['.'] := by
  simp [isIdle]

theorem step?_of_isIdle (h : isIdle s = true) : step? s = none :=
  if_pos h

theorem exists_step?_of_not_isIdle (h : isIdle s = false) : ∃ step, step? s = some step := by
  rw [step?, if_neg (Bool.eq_false_iff.mp h)]
  split <;> exact ⟨_, rfl⟩

theorem firstStep?_of_not_isIdle (h : isIdle s = false) (isWhole : Bool) :
    firstStep? s isWhole = step? s := by
  obtain ⟨hnil, hdot⟩ : s ≠ [] ∧ s ≠ ['.'] := by simpa [isIdle] using h
  simp [firstStep?, hnil, hdot]

/-- A first part that is not empty means the same step with and without a slash behind it. -/
theorem firstStep?_of_ne_nil (h : s ≠ []) (isWhole : Bool) :
    firstStep? s isWhole = firstStep? s false := by
  simp [firstStep?, h]

/-- A first part that is not empty means a step, and none to the root. -/
theorem exists_firstStep?_of_ne_nil (h : s ≠ []) (isWhole : Bool) :
    ∃ step, firstStep? s isWhole = some step ∧ step ≠ .root := by
  by_cases hdot : s = ['.']
  · exact ⟨.here, by simp [firstStep?, hdot], by simp⟩
  · have hidle : isIdle s = false := by simp [isIdle, h, hdot]
    obtain ⟨step, hstep⟩ := exists_step?_of_not_isIdle hidle
    refine ⟨step, (firstStep?_of_not_isIdle hidle isWhole).trans hstep, ?_⟩
    rcases eq_of_step?_eq_some hstep with rfl | rfl <;> simp

/-- Parts that mean no step make no difference at the end. -/
theorem filterMap_trimIdle (ss : List Text) :
    (trimIdle ss).filterMap step? = ss.filterMap step? := by
  have hidle : (ss.reverse.takeWhile isIdle).filterMap step? = [] := by
    rw [List.filterMap_eq_nil_iff]
    intro s hs
    exact step?_of_isIdle (List.mem_takeWhile_imp hs)
  calc (trimIdle ss).filterMap step?
      = ((ss.reverse.dropWhile isIdle).filterMap step?).reverse := by
        rw [trimIdle, List.filterMap_reverse]
    _ = ((ss.reverse.takeWhile isIdle ++ ss.reverse.dropWhile isIdle).filterMap step?).reverse := by
        rw [List.filterMap_append, hidle, List.nil_append]
    _ = ss.filterMap step? := by
        rw [List.takeWhile_append_dropWhile, List.filterMap_reverse, List.reverse_reverse]

theorem mem_of_mem_trimIdle (h : s ∈ trimIdle ss) : s ∈ ss := by
  rw [trimIdle, List.mem_reverse] at h
  exact List.mem_reverse.mp ((List.dropWhile_sublist isIdle).mem h)

/-- What is left of parts ends with one that means a step. -/
theorem not_isIdle_of_trimIdle {before : List Text} (h : (trimIdle ss).reverse = s :: before) :
    isIdle s = false := by
  rw [trimIdle, List.reverse_reverse] at h
  simpa [h] using List.head?_dropWhile_not isIdle ss.reverse

theorem trimIdle_eq_nil_iff : trimIdle ss = [] ↔ ss.filterMap step? = [] := by
  rw [← filterMap_trimIdle]
  refine ⟨fun h => by rw [h, List.filterMap_nil], fun h => ?_⟩
  rcases htrim : (trimIdle ss).reverse with _ | ⟨last, before⟩
  · exact List.reverse_eq_nil_iff.mp htrim
  · obtain ⟨step, hstep⟩ := exists_step?_of_not_isIdle (not_isIdle_of_trimIdle htrim)
    rw [List.reverse_eq_cons_iff.mp htrim, List.filterMap_append,
      List.filterMap_cons_some hstep] at h
    exact absurd h (by simp)

theorem here_not_mem_parts (ss : List Text) : .here ∉ ss.filterMap step? := by
  intro h
  obtain ⟨s, -, hs⟩ := List.mem_filterMap.mp h
  exact step?_ne_here s hs

theorem filter_parts (ss : List Text) :
    (ss.filterMap step?).filter (· ≠ .here) = ss.filterMap step? := by
  rw [List.filter_eq_self]
  intro step h
  simpa using ne_of_mem_of_not_mem h (here_not_mem_parts ss)

theorem steps_of_segments (hu : segments u = s :: ss) :
    steps ⟨u⟩ = (firstStep? s ss.isEmpty).toList ++ ss.filterMap step? := by
  simp only [steps, hu]

/-- The steps of a path with a slash: the first part means a step of its own. -/
theorem steps_slash (hu : segments u = s :: ss) :
    steps ⟨u ++ '/' :: v⟩ =
      (firstStep? s false).toList ++ ss.filterMap step? ++ (segments v).filterMap step? := by
  have hsegments : segments (u ++ '/' :: v) = s :: (ss ++ segments v) := by
    rw [segments_append, hu, List.cons_append]
  have hwhole : (ss ++ segments v).isEmpty = false := by
    simp [segments_ne_nil v]
  rw [steps_of_segments hsegments, hwhole, List.filterMap_append, List.append_assoc]

/-- Only the empty path has no step. -/
theorem steps_eq_nil_iff : p.steps = [] ↔ p.text = [] := by
  obtain ⟨u⟩ := p
  constructor
  · intro h
    obtain ⟨s, ss, hs⟩ := List.exists_cons_of_ne_nil (segments_ne_nil u)
    rw [steps_of_segments hs, List.append_eq_nil_iff, Option.toList_eq_nil_iff] at h
    by_cases hnil : s = []
    · rcases ss with _ | ⟨s', ss⟩
      · exact eq_nil_of_segments (hnil ▸ hs)
      · simp [firstStep?, hnil] at h
    · obtain ⟨step, hstep, -⟩ := exists_firstStep?_of_ne_nil hnil ss.isEmpty
      rw [hstep] at h
      exact absurd h.1 (by simp)
  · intro h
    obtain rfl : u = [] := h
    rfl

/-- A dot means a step in front only. -/
theorem filter_tail_steps (p : Path) : p.steps.tail.filter (· ≠ .here) = p.steps.tail := by
  obtain ⟨u⟩ := p
  obtain ⟨s, ss, hs⟩ := List.exists_cons_of_ne_nil (segments_ne_nil u)
  have hmem : ∀ step ∈ (steps ⟨u⟩).tail, step ∈ ss.filterMap step? := by
    rw [steps_of_segments hs]
    rcases firstStep? s ss.isEmpty with _ | step
    · exact fun step h => List.mem_of_mem_tail h
    · exact fun step h => h
  rw [List.filter_eq_self]
  intro step h
  simpa using ne_of_mem_of_not_mem (hmem step h) (here_not_mem_parts ss)

/-! ### Paths seen from others -/

theorem isAbsolute_join (p q : Path) :
    (p.join q).isAbsolute = (p.isAbsolute || q.isAbsolute) := by
  obtain ⟨u⟩ := p
  obtain ⟨v⟩ := q
  rcases hq : isAbsolute ⟨v⟩ with _ | _
  · rcases u with _ | ⟨c, u⟩
    · simpa [join, hq, isAbsolute] using hq
    · rw [join, hq, if_neg Bool.false_ne_true]
      split <;> simp [isAbsolute]
  · rw [join, hq, if_pos rfl, hq, Bool.or_true]

theorem join_of_isAbsolute (hq : q.isAbsolute = true) : p.join q = q :=
  if_pos hq

theorem join_of_text_nil (hp : p.text = []) : p.join q = q := by
  rw [join, hp]
  split <;> rfl

theorem text_nil_of_join (h : (p.join q).text = []) : p.text = [] := by
  rw [join] at h
  split at h
  · next hq => simp [isAbsolute, h] at hq
  · split at h <;> simp_all

/-- Behind a first path a path that does not begin at the root goes on with its parts. -/
theorem steps_join_parts (hp : p.text ≠ []) (hq : q.isAbsolute = false) :
    (p.join q).steps = p.steps ++ (segments q.text).filterMap step? := by
  obtain ⟨w⟩ := p
  have hempty : w.isEmpty = false := List.isEmpty_eq_false_iff.mpr hp
  rw [join, hq, if_neg Bool.false_ne_true, hempty, Bool.false_or]
  by_cases hslash : (w.getLast? == some '/') = true
  · obtain ⟨u, rfl⟩ := List.getLast?_eq_some_iff.mp (beq_iff_eq.mp hslash)
    obtain ⟨s, ss, hs⟩ := List.exists_cons_of_ne_nil (segments_ne_nil u)
    rw [if_pos hslash]
    show steps ⟨u ++ ['/'] ++ q.text⟩ = steps ⟨u ++ '/' :: []⟩ ++ _
    rw [List.append_assoc, List.singleton_append, steps_slash hs, steps_slash hs]
    simp [segments, step?, isIdle]
  · obtain ⟨s, ss, hs⟩ := List.exists_cons_of_ne_nil (segments_ne_nil w)
    have hfirst : firstStep? s ss.isEmpty = firstStep? s false := by
      rcases ss with _ | ⟨s', ss⟩
      · exact firstStep?_of_ne_nil (fun hnil => hp (eq_nil_of_segments (hnil ▸ hs))) _
      · rfl
    rw [if_neg hslash, steps_slash hs, steps_of_segments hs, hfirst]

/-- The parts of a path that does not begin at the root mean its steps, but for a dot in
front. -/
theorem filterMap_segments (hq : q.isAbsolute = false) :
    (segments q.text).filterMap step? = q.steps.filter (· ≠ .here) := by
  obtain ⟨v⟩ := q
  obtain ⟨s, ss, hs⟩ := List.exists_cons_of_ne_nil (segments_ne_nil v)
  show (segments v).filterMap step? = _
  rw [hs, steps_of_segments hs, List.filter_append, filter_parts]
  rcases hidle : isIdle s with _ | _
  · obtain ⟨step, hstep⟩ := exists_step?_of_not_isIdle hidle
    have hne : step ≠ .here := fun h => step?_ne_here s (h ▸ hstep)
    rw [firstStep?_of_not_isIdle hidle, List.filterMap_cons_some hstep, hstep]
    simp [hne]
  · rw [List.filterMap_cons_none (step?_of_isIdle hidle)]
    rcases (isIdle_iff s).mp hidle with rfl | rfl
    · obtain rfl : v = [] := by simpa [hq] using (head_segments_eq_nil_iff hs).mp rfl
      obtain rfl : ss = [] := (List.cons.inj hs).2.symm
      rfl
    · rfl

/-- Behind a first path a path that does not begin at the root goes on with its steps; a dot in
front means no step there. -/
theorem steps_join_of_relative (hp : p.text ≠ []) (hq : q.isAbsolute = false) :
    (p.join q).steps = p.steps ++ q.steps.filter (· ≠ .here) := by
  rw [steps_join_parts hp hq, filterMap_segments hq]

/-- What is put in front of a path that does not begin at the root makes no difference just when
it is nothing, or a dot that the path begins with itself. -/
theorem sameAs_join_iff (hq : q.isAbsolute = false) :
    (p.join q).sameAs q = true ↔
      p.steps = [] ∨ p.steps = [.here] ∧ q.steps.head? = some .here := by
  rw [sameAs, beq_iff_eq]
  by_cases hp : p.text = []
  · simp [join_of_text_nil hp, steps_eq_nil_iff, hp]
  have hsteps : p.steps ≠ [] := fun h => hp (steps_eq_nil_iff.mp h)
  rw [steps_join_of_relative hp hq, or_iff_right hsteps]
  have hfilter := filter_tail_steps q
  rcases hq' : q.steps with _ | ⟨step, rest⟩
  · simpa using hsteps
  rw [hq', List.tail_cons] at hfilter
  rw [List.filter_cons, hfilter, List.head?_cons, Option.some.injEq]
  by_cases hhere : step = .here
  · rw [if_neg (by simp [hhere]), and_iff_left hhere, hhere]
    show p.steps ++ rest = [.here] ++ rest ↔ _
    exact List.append_left_inj rest
  · simpa [hhere] using hsteps

/-! ### Names -/

/-- Whether a text names an entry of a folder. -/
structure IsName (name : Text) : Prop where
  step : step? name = some (.entry name)
  noSlash : '/' ∉ name

theorem IsName.isAbsolute (h : IsName name) : Path.isAbsolute ⟨name⟩ = false := by
  rcases name with _ | ⟨c, name⟩
  · rfl
  · have hc : c ≠ '/' := fun hc => h.noSlash (hc ▸ List.mem_cons_self)
    simp [Path.isAbsolute, hc]

theorem steps_join (hne : folder.text ≠ []) (h : IsName name) :
    (folder.join ⟨name⟩).steps = folder.steps ++ [.entry name] := by
  rw [steps_join_parts hne h.isAbsolute, segments_of_noSlash h.noSlash,
    List.filterMap_cons_some h.step, List.filterMap_nil]

/-! ### Parents -/

/-- The parent has all steps but the last. -/
theorem steps_of_parent? (h : p.parent? = some q) : q.steps = p.steps.dropLast := by
  obtain ⟨u⟩ := p
  obtain ⟨s, ss, hs⟩ := List.exists_cons_of_ne_nil (segments_ne_nil u)
  rw [parent?] at h
  simp only [hs] at h
  rcases htrim : (trimIdle ss).reverse with _ | ⟨last, before⟩
  · -- behind the first part nothing means a step
    have hrest := trimIdle_eq_nil_iff.mp (List.reverse_eq_nil_iff.mp htrim)
    rw [htrim] at h
    dsimp only at h
    split at h
    · exact absurd h (by simp)
    · next hnil =>
      obtain rfl : (⟨[]⟩ : Path) = q := Option.some.inj h
      rw [steps_of_segments hs, hrest, List.append_nil]
      rcases firstStep? s ss.isEmpty <;> rfl
  · obtain ⟨step, hstep⟩ := exists_step?_of_not_isIdle (not_isIdle_of_trimIdle htrim)
    have hne : ss ≠ [] := by
      rintro rfl
      exact absurd htrim (by simp [trimIdle])
    have hsteps : (steps ⟨u⟩).dropLast =
        (firstStep? s false).toList ++ (trimIdle before.reverse).filterMap step? := by
      rw [steps_of_segments hs, List.isEmpty_eq_false_iff.mpr hne, ← filterMap_trimIdle ss,
        List.reverse_eq_cons_iff.mp htrim, List.filterMap_append, filterMap_trimIdle,
        List.filterMap_cons_some hstep, List.filterMap_nil, ← List.append_assoc,
        List.dropLast_concat]
    rw [htrim] at h
    dsimp only at h
    rw [hsteps]
    split at h
    · next hroot =>
      obtain ⟨hnil, hbefore⟩ : s = [] ∧ trimIdle before.reverse = [] := by simpa using hroot
      obtain rfl : (⟨['/']⟩ : Path) = q := Option.some.inj h
      rw [hnil, hbefore]
      rfl
    · next hroot =>
      obtain rfl : (⟨ofSegments (s :: trimIdle before.reverse)⟩ : Path) = q := Option.some.inj h
      have hparts : ∀ s' ∈ s :: trimIdle before.reverse, '/' ∉ s' := by
        intro s' hs'
        refine noSlash_of_mem_segments (u := u) ?_
        rw [hs]
        refine (List.mem_cons.mp hs').elim (fun hs' => hs' ▸ List.mem_cons_self) fun hs' => ?_
        refine List.mem_cons_of_mem s (mem_of_mem_trimIdle ?_)
        rw [List.reverse_eq_cons_iff.mp htrim]
        exact List.mem_append_left _ (mem_of_mem_trimIdle hs')
      rw [steps_of_segments (segments_ofSegments hparts)]
      rcases hbefore : trimIdle before.reverse with _ | ⟨s', ss'⟩
      · have hnil : s ≠ [] := by simpa [hbefore] using hroot
        rw [firstStep?_of_ne_nil hnil]
      · rfl

/-- Only the root and the empty path have no parent. -/
theorem parent?_eq_none_iff : p.parent? = none ↔ p.steps = [] ∨ p.steps = [.root] := by
  obtain ⟨u⟩ := p
  obtain ⟨s, ss, hs⟩ := List.exists_cons_of_ne_nil (segments_ne_nil u)
  have hnone : parent? ⟨u⟩ = none ↔ trimIdle ss = [] ∧ s = [] := by
    simp only [parent?, hs]
    rcases htrim : (trimIdle ss).reverse with _ | ⟨last, before⟩
    · simp [List.reverse_eq_nil_iff.mp htrim]
    · have hne : trimIdle ss ≠ [] := by
        rw [List.reverse_eq_cons_iff.mp htrim]
        simp
      dsimp only
      split <;> simp [hne]
  rw [hnone, trimIdle_eq_nil_iff, steps_of_segments hs]
  by_cases hnil : s = []
  · rw [hnil]
    rcases ss with _ | ⟨s', ss⟩ <;> simp [firstStep?]
  · obtain ⟨step, hstep, hroot⟩ := exists_firstStep?_of_ne_nil hnil ss.isEmpty
    simp [hnil, hstep, hroot]

end ModuleWiring.Path

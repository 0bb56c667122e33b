/-
Two ways to read a stored text.

A file is read as one text whose lines a visitor is then shown, or each stored line is read as
text only when its turn comes.  A line feed is one byte, so both find the same lines; and bytes
that store no text have a line that stores none, so both fail on the same files.  A carriage
return in front of a line feed is a blank at the end of its line, and no visitor sees it.

* `exists_decode_iff` — bytes store a text exactly when each of their lines does;
* `Text.withReturns`, `map_trimEnd_lines_withReturns` — a text whose line ends have two
  characters shows the same lines;
* `acceptAll_of_not_text` — how far stored lines are shown that do not all store text;
* `Visitor.noting` — a visitor with a record of all that it is shown;
* `readers_agree` — so the two readers are one.
-/
import ModuleWiring.Disk.FileTree
import ModuleWiring.Proofs.Disk.File
import ModuleWiring.Proofs.Text.Blank
import ModuleWiring.Proofs.Text.Lines

namespace ModuleWiring

/-- Pieces with their separators are the sequence again, but for a separator at its end. -/
theorem flatMap_pieces {α : Type} [DecidableEq α] (sep : α) (xs : List α) :
    (pieces sep xs).flatMap (· ++ [sep]) = xs ∨
      (pieces sep xs).flatMap (· ++ [sep]) = xs ++ [sep] := by
  induction xs with
  | nil => exact .inl rfl
  | cons x xs ih =>
    rw [pieces]
    split
    · next hx =>
      rw [List.flatMap_cons, List.nil_append, List.singleton_append, hx]
      exact ih.imp (congrArg (sep :: ·)) (congrArg (sep :: ·))
    · rcases hps : pieces sep xs with _ | ⟨p, ps⟩
      · rw [hps] at ih
        obtain rfl : xs = [] := by
          rcases ih with h | h
          · exact h.symm
          · exact absurd h.symm (by simp)
        exact .inr rfl
      · rw [hps, List.flatMap_cons] at ih
        simp only [List.flatMap_cons, List.cons_append]
        exact ih.imp (congrArg (x :: ·)) (congrArg (x :: ·))

namespace Text

theorem encode_append (t u : Text) : encode (t ++ u) = encode t ++ encode u :=
  List.flatMap_append

theorem encode_ofLines (ls : List Text) :
    encode (ofLines ls) = (ls.map encode).flatMap (· ++ [0x0a]) := by
  induction ls with
  | nil => rfl
  | cons l ls ih =>
    rw [ofLines, List.flatMap_cons, ← ofLines, encode_append, encode_append, ih, List.map_cons,
      List.flatMap_cons]
    rfl

/-- Lines that store texts store one together. -/
theorem exists_eq_encode {b : Bytes} {ls : List Text} (h : pieces 0x0a b = ls.map encode) :
    ∃ t, b = encode t := by
  rcases flatMap_pieces 0x0a b with hb | hb
  · rw [h, ← encode_ofLines] at hb
    exact ⟨ofLines ls, hb.symm⟩
  · rw [h, ← encode_ofLines] at hb
    -- the line feed at the end is not among the bytes
    rcases List.eq_nil_or_concat ls with rfl | ⟨ms, l, rfl⟩
    · exact absurd hb.symm (by simp [ofLines, encode])
    · have hlast : ofLines (ms ++ [l]) = ofLines ms ++ l ++ ['\n'] := by
        rw [ofLines_append, List.append_assoc]
        simp [ofLines]
      rw [List.concat_eq_append, hlast, encode_append] at hb
      exact ⟨ofLines ms ++ l, (List.append_cancel_right hb).symm⟩

theorem exists_decode_iff {b : Bytes} :
    (∃ t, decode b = some t) ↔ ∀ p ∈ pieces 0x0a b, ∃ l, decode p = some l := by
  constructor
  · rintro ⟨t, ht⟩ p hp
    rw [eq_encode_of_decode ht, pieces_encode] at hp
    obtain ⟨l, -, rfl⟩ := List.mem_map.mp hp
    exact ⟨l, decode_encode l⟩
  · intro h
    have hpieces : pieces 0x0a b =
        ((pieces 0x0a b).map fun p => (decode p).getD []).map encode := by
      rw [List.map_map]
      conv_lhs => rw [← List.map_id (pieces 0x0a b)]
      refine List.map_congr_left fun p hp => ?_
      obtain ⟨l, hl⟩ := h p hp
      rw [Function.comp_apply, hl]
      exact eq_encode_of_decode hl
    obtain ⟨t, rfl⟩ := exists_eq_encode hpieces
    exact ⟨t, decode_encode t⟩

/-- A text with a carriage return in front of every line feed. -/
def withReturns (t : Text) : Text :=
  t.flatMap fun c => if c = '\n' then ['\r', '\n'] else [c]

theorem trimEnd_cons_congr {u v : Text} (h : trimEnd u = trimEnd v) (c : Char) :
    trimEnd (c :: u) = trimEnd (c :: v) := by
  have behind : ∀ w : Text, trimEnd (c :: w) = trimEnd (c :: trimEnd w) := by
    intro w
    obtain ⟨b, hb, hw⟩ := exists_eq_trimEnd_append w
    conv_lhs => rw [hw, ← List.cons_append, trimEnd_append_blank hb]
  rw [behind u, behind v, h]

/-- The carriage returns are blanks at the ends of the lines. -/
theorem map_trimEnd_lines_withReturns (t : Text) :
    t.withReturns.lines.map trimEnd = t.lines.map trimEnd := by
  induction t with
  | nil => rfl
  | cons c t ih =>
    by_cases hc : c = '\n'
    · subst hc
      show trimEnd ['\r'] :: (lines (withReturns t)).map trimEnd = [] :: (lines t).map trimEnd
      rw [ih]
      rfl
    · have hcons : withReturns (c :: t) = c :: withReturns t := by
        rw [withReturns, List.flatMap_cons, if_neg hc]
        rfl
      rw [hcons, lines, lines, pieces, pieces, if_neg hc, if_neg hc]
      rw [lines, lines] at ih
      -- there is a line to put the character in front of, or there is none
      rcases hq : pieces '\n' (withReturns t) with _ | ⟨q, qs⟩
      · rw [hq, List.map_nil, eq_comm, List.map_eq_nil_iff] at ih
        rw [ih]
      · rcases hp : pieces '\n' t with _ | ⟨p, ps⟩
        · rw [hp, hq] at ih
          exact absurd ih (List.cons_ne_nil _ _)
        · rw [hp, hq] at ih
          obtain ⟨hfirst, hrest⟩ := List.cons.inj ih
          exact congrArg₂ List.cons (trimEnd_cons_congr hfirst c) hrest

end Text

namespace Visitor

variable {σ : Type}

theorem scanText_withReturns (visit : Visitor σ) (s : σ × List Line) (t : Text) :
    visit.scanText s t.withReturns = visit.scanText s t := by
  have htrimmed : ∀ u : Text,
      visit.scanText s u = (u.lines.map Text.trimEnd).foldl visit.step s := by
    intro u
    rw [scanText, List.foldl_map]
    rfl
  rw [htrimmed, htrimmed, Text.map_trimEnd_lines_withReturns]

/-- Stored lines are shown up to the first that stores no text. -/
theorem acceptAll_of_not_text (visit : Visitor σ) (s : σ × List Line) {bs : List Bytes}
    (h : ∃ p ∈ bs, Text.decode p = none) : ∃ (ls : List Text) (p : Bytes) (rest : List Bytes),
      bs = ls.map Text.encode ++ p :: rest ∧ Text.decode p = none ∧
        visit.acceptAll s bs = .error (ls.foldl visit.accept s) := by
  induction bs generalizing s with
  | nil => exact absurd h (by simp)
  | cons b bs ih =>
    rcases hb : Text.decode b with _ | l
    · exact ⟨[], b, bs, rfl, hb, by rw [acceptAll, hb]; rfl⟩
    · obtain ⟨p, hp, hnone⟩ := h
      have hlater : p ∈ bs := by
        rcases List.mem_cons.mp hp with rfl | hp
        · exact absurd (hb.symm.trans hnone) (by simp)
        · exact hp
      obtain ⟨ls, p', rest, rfl, hp', hall⟩ := ih (visit.accept s l) ⟨p, hlater, hnone⟩
      refine ⟨l :: ls, p', rest, ?_, hp', ?_⟩
      · rw [Text.eq_encode_of_decode hb, List.map_cons, List.cons_append]
      · rw [acceptAll, hb]
        exact hall

/-- A visitor with a record of what it is shown: each line, with the lines kept until then,
the newest first. -/
def noting (visit : Visitor σ) : Visitor (σ × List (Text × List Line)) := fun s kept line =>
  let v := visit s.1 kept line
  { state := (v.state, (line, kept) :: s.2), kept := v.kept, keeps := v.keeps }

/-- The record changes nothing of what a visitor makes of a text. -/
theorem scanText_noting (visit : Visitor σ) (s : σ) (shown : List (Text × List Line))
    (kept : List Line) (t : Text) :
    ∃ shown', visit.noting.scanText ((s, shown), kept) t =
      (((visit.scanText (s, kept) t).1, shown'), (visit.scanText (s, kept) t).2) := by
  rw [scanText, scanText]
  induction t.lines generalizing s shown kept with
  | nil => exact ⟨shown, rfl⟩
  | cons l ls ih => exact ih _ _ _

end Visitor

namespace File

variable {m : Type → Type} [Monad m] {σ : Type}

theorem textOf_of_not_text {b : Bytes} (h : Text.decode b = none) :
    textOf b = .error (.disk .notText) := by
  rw [textOf, h]

theorem visitBytes_of_not_text (visit : Visitor σ) (s : σ) {b : Bytes}
    (h : Text.decode b = none) : ∃ (ls : List Text) (p : Bytes) (rest : List Bytes),
      pieces 0x0a b = ls.map Text.encode ++ p :: rest ∧ Text.decode p = none ∧
      visit.scanBytes (s, []) b = .error (ls.foldl visit.accept (s, [])) ∧
      (visitBytes visit s b).fault = some (.disk .notText) := by
  have hline : ∃ p ∈ pieces 0x0a b, Text.decode p = none := by
    by_contra hall
    have htext := Text.exists_decode_iff.mpr fun p hp =>
      Option.ne_none_iff_exists'.mp fun hp' => hall ⟨p, hp, hp'⟩
    obtain ⟨t, ht⟩ := htext
    exact absurd (h.symm.trans ht) (by simp)
  obtain ⟨ls, p, rest, hpieces, hp, hscan⟩ := Visitor.acceptAll_of_not_text visit (s, []) hline
  have hbytes : visit.scanBytes (s, []) b = .error (ls.foldl visit.accept (s, [])) := hscan
  refine ⟨ls, p, rest, hpieces, hp, hbytes, ?_⟩
  rw [visitBytes, hbytes]

/-- What stored bytes come to line by line is what their text comes to. -/
theorem content?_visitBytes (b : Bytes) :
    (visitBytes Reading.visit {} b).content? = (textOf b).map Content.ofText := by
  rcases hb : Text.decode b with _ | t
  · obtain ⟨-, -, -, -, -, -, hfault⟩ := visitBytes_of_not_text Reading.visit {} hb
    rw [textOf_of_not_text hb, Visit.content?, hfault]
    rfl
  · rw [Text.eq_encode_of_decode hb, content?_visitBytes_encode, textOf_encode]
    rfl

theorem content_eq [LawfulMonad m] (disk : Disk m) (path : Path) :
    content disk path = (fun r => r.map Content.ofText) <$> text disk path := by
  rw [content, File.visit, text, map_bind, bind_assoc]
  refine bind_congr fun r => ?_
  rcases r with fault | b
  · simp [Visit.content?, Except.map]
  · simp [content?_visitBytes]

/-- **The two readers are one.**  Of bytes that store a text a visitor makes the same line by
line as of the text, and of the text with carriage returns: it is shown the same lines, with
the same lines kept until then, in the same order.  Other bytes have a first line that stores
no text, and there both readers give up with the same fault.  So the content of a file is the
content of its text, and what goes wrong in reading the one goes wrong in reading the other. -/
theorem readers_agree [LawfulMonad m] (visit : Visitor σ) (s : σ) (b : Bytes) (disk : Disk m)
    (path : Path) :
    (∀ t, Text.decode b = some t →
      visit.scanBytes (s, []) b = .ok (visit.scanText (s, []) t) ∧
      visit.scanText (s, []) t.withReturns = visit.scanText (s, []) t ∧
      ∃ shown,
        visit.noting.scanText ((s, []), []) t =
          (((visit.scanText (s, []) t).1, shown), (visit.scanText (s, []) t).2) ∧
        visit.noting.scanBytes ((s, []), []) b =
          .ok (((visit.scanText (s, []) t).1, shown), (visit.scanText (s, []) t).2) ∧
        visit.noting.scanText ((s, []), []) t.withReturns =
          (((visit.scanText (s, []) t).1, shown), (visit.scanText (s, []) t).2)) ∧
    (Text.decode b = none → ∃ (ls : List Text) (p : Bytes) (rest : List Bytes),
      pieces 0x0a b = ls.map Text.encode ++ p :: rest ∧ Text.decode p = none ∧
      visit.scanBytes (s, []) b = .error (ls.foldl visit.accept (s, [])) ∧
      (visitBytes visit s b).fault = some (.disk .notText) ∧
      textOf b = .error (.disk .notText)) ∧
    content disk path = (fun r => r.map Content.ofText) <$> text disk path := by
  refine ⟨fun t ht => ?_, fun h => ?_, content_eq disk path⟩
  · obtain rfl := Text.eq_encode_of_decode ht
    obtain ⟨shown, hshown⟩ := visit.scanText_noting s [] [] t
    refine ⟨visit.scanBytes_encode (s, []) t, visit.scanText_withReturns (s, []) t, shown, hshown,
      ?_, ?_⟩
    · rw [Visitor.scanBytes_encode, hshown]
    · rw [Visitor.scanText_withReturns, hshown]
  · obtain ⟨ls, p, rest, hpieces, hp, hscan, hfault⟩ := visitBytes_of_not_text visit s h
    exact ⟨ls, p, rest, hpieces, hp, hscan, hfault, textOf_of_not_text h⟩

/-- A text with both line ends, whose last line has none, and bytes whose second line stores
no text, read as they are and from a tree of files. -/
theorem readers_agree_mixed :
    let t : Text := "module \"m\" \x7b\r\n  size = 1 \n\n\x7d".toList
    let b : Bytes := [0x61, 0x0a, 0xff, 0x0a]
    let tree : FileTree :=
      { entries := [(["good".toList], .file (Text.encode t)), (["bad".toList], .file b)] }
    (Text.decode (Text.encode t) = some t ∧
      Reading.visit.scanBytes ({}, []) (Text.encode t) =
        .ok (Reading.visit.scanText ({}, []) t)) ∧
    (Text.decode b = none ∧
      (visitBytes Reading.visit {} b).fault = some (.disk .notText)) ∧
    content tree.disk ⟨"good".toList⟩ = .ok (Content.ofText t) ∧
    content tree.disk ⟨"bad".toList⟩ = .error (.disk .notText) := by
  intro t b tree
  obtain ⟨hgood, -, hgoodFile⟩ :=
    readers_agree Reading.visit {} (Text.encode t) tree.disk ⟨"good".toList⟩
  obtain ⟨-, hbad, hbadFile⟩ := readers_agree Reading.visit {} b tree.disk ⟨"bad".toList⟩
  have hnot : Text.decode b = none := by decide
  have hgoodText : text tree.disk ⟨"good".toList⟩ = textOf (Text.encode t) := rfl
  have hbadText : text tree.disk ⟨"bad".toList⟩ = textOf b := rfl
  refine ⟨⟨Text.decode_encode t, (hgood t (Text.decode_encode t)).1⟩, ⟨hnot, ?_⟩, ?_,
    ?_⟩
  · obtain ⟨-, -, -, -, -, -, hfault, -⟩ := hbad hnot
    exact hfault
  · rw [hgoodFile, hgoodText, textOf_encode]
    rfl
  · rw [hbadFile, hbadText, textOf_of_not_text hnot]
    rfl

end File

end ModuleWiring

/-
Texts as lists of characters.

Everything the library reads and writes is a `Text`: a list of Unicode scalar
values, so that lengths count characters and proofs go by induction on the list.
This module holds the few operations on texts that the rest builds on:

* `Text.after?` — the rest of a text behind a given opening;
* `Text.before?` — the part of a text in front of a given ending;
* `Text.cut?` — both sides of the first character of a kind;
* `Text.ofNat`, `Text.numberOf` — a number in decimal form, written and read;
* `Text.byteLength` — how much room a text takes when stored.
-/

namespace ModuleWiring

/-- A text is the list of its characters. -/
abbrev Text := List Char

namespace Text

/-- What follows `opening` in `t`, or `none` when `t` does not begin with it. -/
def after? : (opening t : Text) → Option Text
  | [], t => some t
  | _ :: _, [] => none
  | o :: opening, c :: t => if o = c then after? opening t else none

theorem after?_eq_some_iff {opening t rest : Text} :
    after? opening t = some rest ↔ t = opening ++ rest := by
  induction opening generalizing t with
  | nil => simp [after?]
  | cons o opening ih =>
    cases t with
    | nil => simp [after?]
    | cons c t =>
      by_cases h : o = c
      · simp [after?, h, ih]
      · simp [after?, h, Ne.symm h]

/-- What precedes `ending` in `t`, or `none` when `t` does not end with it. -/
def before? (ending t : Text) : Option Text :=
  (after? ending.reverse t.reverse).map List.reverse

theorem before?_eq_some_iff {ending t rest : Text} :
    before? ending t = some rest ↔ t = rest ++ ending := by
  simp only [before?, Option.map_eq_some_iff, after?_eq_some_iff]
  constructor
  · rintro ⟨u, hu, rfl⟩
    simpa using congrArg List.reverse hu
  · rintro rfl
    exact ⟨rest.reverse, by simp, by simp⟩

/-- The two sides of the first character for which `p` holds. -/
def cut? (p : Char → Bool) : Text → Option (Text × Text)
  | [] => none
  | c :: t => if p c then some ([], t) else (cut? p t).map fun (l, r) => (c :: l, r)

/-- The decimal form of a number. -/
def ofNat (n : Nat) : Text :=
  Nat.toDigits 10 n

/-- The number that a row of decimal digits writes. -/
def numberOf (digits : Text) : Nat :=
  digits.foldl (fun n c => n * 10 + (c.toNat - '0'.toNat)) 0

/-- The number of bytes that a text takes in the encoding UTF-8. -/
def byteLength (t : Text) : Nat :=
  t.foldl (fun n c => n + c.utf8Size) 0

/-- A text of at least `width` characters: `t` with blanks behind it. -/
def padRight (width : Nat) (t : Text) : Text :=
  t ++ List.replicate (width - t.length) ' '

/-- A text of at least `width` characters: `t` with blanks in front of it. -/
def padLeft (width : Nat) (t : Text) : Text :=
  List.replicate (width - t.length) ' ' ++ t

end Text

end ModuleWiring

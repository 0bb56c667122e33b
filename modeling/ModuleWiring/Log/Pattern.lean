/-
The patterns that the value of a detail can be compared with.

A pattern is a number or a regular expression.  Only whether a text is one is of
interest here: a regular expression has to be well formed, must not ask for the
edges of words of all scripts, and, where it turns to single bytes, must not match
a part of a character.

* `Pattern.Escape.read?` — what a backslash begins;
* `Pattern.classEnd?` — what follows a set of characters in brackets;
* `Pattern.Progress.step?` — one step through a regular expression;
* `Pattern.isPattern` — whether a text is a pattern.

A pattern stands inside of braces, so it holds no closing brace, and whatever
would need one is refused.
-/
import ModuleWiring.Text.Alphanumeric
import ModuleWiring.Text.Blank

namespace ModuleWiring.Pattern

/-! ## Numbers -/

/-- Whether a text is a row of digits, perhaps an empty one. -/
def isDigits (t : Text) : Bool :=
  t.all Char.isDigit

/-- Whether a text is an exponent behind its letter. -/
def isExponent : Text → Bool
  | '+' :: t => !t.isEmpty && isDigits t
  | '-' :: t => !t.isEmpty && isDigits t
  | t => !t.isEmpty && isDigits t

/-- Whether a text is a decimal number without an exponent. -/
def isDecimal (t : Text) : Bool :=
  match Text.cut? (· == '.') t with
  | none => !t.isEmpty && isDigits t
  | some (whole, fraction) =>
    isDigits whole && isDigits fraction && !(whole.isEmpty && fraction.isEmpty)

/-- Whether a text is a number without a sign. -/
def isNumber (t : Text) : Bool :=
  ["inf".toList, "infinity".toList, "nan".toList].contains (t.map Char.toLower) ||
    match Text.cut? (fun c => c == 'e' || c == 'E') t with
    | none => isDecimal t
    | some (mantissa, exponent) => isDecimal mantissa && isExponent exponent

/-! ## Regular expressions -/

/-- How a part of a regular expression is read. -/
structure Mode where
  /-- Whether blanks and comments are passed over. -/
  isSpaced : Bool := false
  /-- Whether it speaks of characters, and not of single bytes. -/
  isUnicode : Bool := true
deriving DecidableEq

/-- What follows the blanks and comments that a text begins with, if they are passed
over; `inComment` tells that it begins inside of a comment. -/
def Mode.skip (m : Mode) : (inComment : Bool) → Text → Text
  | _, [] => []
  | inComment, c :: t =>
    if !m.isSpaced then c :: t
    else if inComment then m.skip (c != '\n') t
    else if isBlankChar c then m.skip false t
    else if c = '#' then m.skip true t
    else c :: t

/-- Whether a character is plain ASCII. -/
def isAscii (c : Char) : Bool :=
  c.toNat < 128

/-- What a backslash and the characters behind it stand for. -/
inductive Escape where
  /-- A character, perhaps one given by two digits in base sixteen. -/
  | char (c : Char) (byTwoDigits : Bool)
  /-- A set of characters, which may reach beyond ASCII even for single bytes. -/
  | set (isWide : Bool)
  /-- The characters with a Unicode property. -/
  | property
  /-- An edge of a word. -/
  | wordEdge
  /-- An end of the text. -/
  | textEnd
deriving DecidableEq

namespace Escape

/-- Whether an escape may stand outside of sets. -/
def isAllowed (m : Mode) : Escape → Bool
  | char c byTwoDigits => m.isUnicode || isAscii c || !byTwoDigits
  | set isWide => m.isUnicode || !isWide
  | property => m.isUnicode
  | wordEdge => !m.isUnicode
  | textEnd => true

/-- Whether an escape may be a member of a set. -/
def isAllowedInSet (m : Mode) : Escape → Bool
  | char c _ => m.isUnicode || isAscii c
  | set isWide => m.isUnicode || !isWide
  | property => m.isUnicode
  | wordEdge => false
  | textEnd => false

/-- The number that `count` digits in base sixteen write, and what follows them. -/
def hexDigits? (m : Mode) : (count value : Nat) → Text → Option (Nat × Text)
  | 0, value, t => some (value, t)
  | count + 1, value, t =>
    match m.skip false t with
    | [] => none
    | c :: t =>
      let digit? :=
        if c.isDigit then some (c.toNat - '0'.toNat)
        else if 'a' ≤ c && c ≤ 'f' then some (c.toNat - 'a'.toNat + 10)
        else if 'A' ≤ c && c ≤ 'F' then some (c.toNat - 'A'.toNat + 10)
        else none
      match digit? with
      | none => none
      | some digit => hexDigits? m count (value * 16 + digit) t

/-- The character whose code point is given by `count` digits in base sixteen. -/
def hexChar? (m : Mode) (count : Nat) (t : Text) : Option (Escape × Text) :=
  match hexDigits? m count 0 t with
  | none => none
  | some (n, t) =>
    if n.isValidChar then some (char (Char.ofNat n) (count = 2), t) else none

/-- The property named by one letter. -/
def property? (m : Mode) (t : Text) : Option (Escape × Text) :=
  match m.skip false t with
  | [] => none
  | c :: t => if "clmnpsz".toList.contains c.toLower then some (property, t) else none

/-- What the characters behind a backslash stand for, and what follows them. -/
def read? (m : Mode) : Text → Option (Escape × Text)
  | [] => none
  | c :: t =>
    if c = 'x' then hexChar? m 2 t
    else if c = 'u' then hexChar? m 4 t
    else if c = 'U' then hexChar? m 8 t
    else if c = 'p' || c = 'P' then property? m t
    else if "dsw".toList.contains c then some (set false, t)
    else if "DSW".toList.contains c then some (set true, t)
    else if "bB<>".toList.contains c then some (wordEdge, t)
    else if c = 'A' || c = 'z' then some (textEnd, t)
    else if "aftnrv".toList.contains c || (isAscii c && !c.isAlphanum) then
      some (char c false, t)
    else none

end Escape

/-! ### Sets of characters -/

/-- The names of the sets of ASCII characters. -/
def asciiSets : List Text :=
  ["alnum", "alpha", "ascii", "blank", "cntrl", "digit", "graph", "lower", "print", "punct",
    "space", "upper", "word", "xdigit"].map String.toList

/-- Whether a named set of ASCII characters is taken without its members, and what
follows it.  Its opening bracket is read already. -/
def asciiSet? : Text → Option (Bool × Text)
  | ':' :: t =>
    let isNegated := t.head? = some '^'
    match Text.cut? (· == ':') (if isNegated then t.drop 1 else t) with
    | some (name, ']' :: rest) => if asciiSets.contains name then some (isNegated, rest) else none
    | _ => none
  | _ => none

/-- One member of a set, and what follows it. -/
def member? (m : Mode) : Text → Option (Escape × Text)
  | [] => none
  | '\\' :: t => Escape.read? m t
  | c :: t => some (.char c false, t)

/-- Whether two members of a set are the ends of a range. -/
def isRange : Escape → Escape → Bool
  | .char low _, .char high _ => low ≤ high
  | _, _ => false

/-- What follows a member of a set, or the range that it begins. -/
def rangeEnd? (m : Mode) (t : Text) : Option Text := do
  let (low, t) ← member? m t
  guard (low.isAllowedInSet m)
  match m.skip false t with
  | '-' :: behind =>
    match m.skip false behind with
    | [] => none
    | c :: inner =>
      if c = ']' || c = '-' then return '-' :: behind
      let (high, t) ← member? m (c :: inner)
      guard (high.isAllowedInSet m && isRange low high)
      return t
  | t => return t

/-- What follows the opening of a set: its bracket, a sign of negation, and the signs
that only there stand for themselves. -/
def setOpening? (m : Mode) (t : Text) : Option Text :=
  let t := m.skip false t
  let isNegated := t.head? = some '^'
  if isNegated && !m.isUnicode then none
  else
    let t := if isNegated then m.skip false (t.drop 1) else t
    match t with
    | ']' :: t => some t
    | t => some (dashes t)
where
  /-- What follows the dashes that a text begins with. -/
  dashes : Text → Text
    | '-' :: t => dashes t
    | t => t

/-- What follows a set of characters, inside of which `depth` others are open. -/
def classEnd? (m : Mode) (depth : Nat) (t : Text) : Option Text :=
  let next? : Option (Option Nat × Text) :=
    match m.skip false t with
    | [] => none
    | '[' :: t =>
      match asciiSet? t with
      | some (isNegated, rest) =>
        if isNegated && !m.isUnicode then none else some (some depth, rest)
      | none => (setOpening? m t).map fun rest => (some (depth + 1), rest)
    | ']' :: t => some (if depth = 0 then none else some (depth - 1), t)
    | '&' :: '&' :: t => some (some depth, t)
    | '-' :: '-' :: t => some (some depth, t)
    | '~' :: '~' :: t => some (some depth, t)
    | t => (rangeEnd? m t).map fun rest => (some depth, rest)
  match next? with
  | none => none
  | some (none, rest) => some rest
  | some (some depth, rest) => if rest.length < t.length then classEnd? m depth rest else none
termination_by t.length

/-! ### Groups -/

/-- The flags of a group up to the sign that ends them, that sign, and what follows it. -/
def flags? (seen : List Char) : Text → Option (List Char × Char × Text)
  | [] => none
  | c :: t =>
    if c = ':' || c = ')' then
      if seen.getLast? = some '-' then none else some (seen, c, t)
    else if seen.contains c || !"-imsUuRx".toList.contains c then none
    else flags? (seen ++ [c]) t

/-- Whether a flag is on behind a row of flags, when `now` tells whether it is before. -/
def flagAfter (flags : List Char) (flag : Char) (now : Bool) : Bool :=
  if (flags.takeWhile (· != '-')).contains flag then true
  else if flags.contains flag then false
  else now

/-- The mode behind a row of flags. -/
def Mode.after (m : Mode) (flags : List Char) : Mode where
  isSpaced := flagAfter flags 'x' m.isSpaced
  isUnicode := flagAfter flags 'u' m.isUnicode

/-- Whether a text can be the name of a group. -/
def isGroupName : Text → Bool
  | [] => false
  | c :: t =>
    (c == '_' || isLetter c) && t.all fun c => "_.[]".toList.contains c || isLetterOrNumber c

/-- How far a regular expression is read. -/
structure Progress where
  mode : Mode := {}
  /-- The modes outside of the groups that are open, the innermost first. -/
  outer : List Mode := []
  /-- The names of the groups. -/
  names : List Text := []
  /-- Whether there is something that a sign of repetition can repeat. -/
  isRepeatable : Bool := false

namespace Progress

/-- The progress behind the opening of a group. -/
def inGroup (p : Progress) (mode : Mode) : Progress :=
  { p with mode := mode, outer := p.mode :: p.outer, isRepeatable := false }

/-- Read the opening of a group, behind its parenthesis. -/
def group? (p : Progress) (t : Text) : Option (Progress × Text) :=
  match p.mode.skip false t with
  | '?' :: '=' :: _ => none
  | '?' :: '!' :: _ => none
  | '?' :: '<' :: t => named? t
  | '?' :: 'P' :: '<' :: t => named? t
  | '?' :: t =>
    match flags? [] t with
    | none => none
    | some (flags, ':', rest) => some (p.inGroup (p.mode.after flags), rest)
    | some (flags, _, rest) =>
      if flags.isEmpty then none
      else some ({ p with mode := p.mode.after flags, isRepeatable := false }, rest)
  | t => some (p.inGroup p.mode, t)
where
  /-- Read the name of a group. -/
  named? (t : Text) : Option (Progress × Text) :=
    match Text.cut? (· == '>') t with
    | none => none
    | some (name, rest) =>
      if isGroupName name && !p.names.contains name then
        some ({ p.inGroup p.mode with names := name :: p.names }, rest)
      else none

/-- Read one part of a regular expression. -/
def step? (p : Progress) : Text → Option (Progress × Text)
  | [] => none
  | c :: t =>
    let operand := { p with isRepeatable := true }
    if c = '(' then p.group? t
    else if c = ')' then
      match p.outer with
      | [] => none
      | mode :: outer => some ({ operand with mode := mode, outer := outer }, t)
    else if c = '|' then some ({ p with isRepeatable := false }, t)
    else if c = '[' then
      ((setOpening? p.mode t).bind (classEnd? p.mode 0)).map fun rest => (operand, rest)
    else if c = '?' || c = '*' || c = '+' then
      if p.isRepeatable then some (p, t) else none
    else if c = '\x7b' then none
    else if c = '\\' then
      match Escape.read? p.mode t with
      | none => none
      | some (escape, rest) => if escape.isAllowed p.mode then some (operand, rest) else none
    else if c = '.' && !p.mode.isUnicode then none
    else some (operand, t)

/-- Whether the rest of a regular expression is well formed. -/
def isWellFormed (p : Progress) (t : Text) : Bool :=
  match p.mode.skip false t with
  | [] => p.outer.isEmpty
  | c :: inner =>
    match p.step? (c :: inner) with
    | none => false
    | some (p, rest) => if rest.length < t.length then isWellFormed p rest else false
termination_by t.length

end Progress

/-- Whether a text is a number or a regular expression.  Of the numbers only those with
a plus sign in front are not regular expressions too. -/
def isPattern (t : Text) : Bool :=
  Progress.isWellFormed {} t ||
    match t with
    | '+' :: t => isNumber t
    | _ => false

end ModuleWiring.Pattern

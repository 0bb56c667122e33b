/-
Directives, the parts of a log filter.

A directive names a level up to which events are shown.  It can be narrowed to the
parts of the program whose name begins with its target and, in brackets, to the
work inside of a span and to events that have a certain detail:
`target[span{detail=value}]=level`, where everything may be left out but one of
level, target and brackets.  Without a level everything is shown.

* `LogDirective.isForEvents` — spans are never opened here and values belong to
  spans, so a directive with one of them decides about no event;
* `LogDirective.applies` — the events that a directive decides about;
* `LogDirective.ofText?` — the directive that a text describes.

Blanks around a directive are no part of it.  Yet its parts are taken by their
positions from the text with the blanks, so that blanks in front shift them.
-/
import ModuleWiring.Log.Event
import ModuleWiring.Log.Pattern
import ModuleWiring.Text.Blank

namespace ModuleWiring

/-- A detail that a directive asks for. -/
structure DetailTest where
  name : Text
  /-- The pattern of its value, if the value matters. -/
  value : Option Text
deriving DecidableEq

namespace DetailTest

/-- The detail that a text describes: a name, perhaps with a pattern behind an equals
sign.  What follows a second equals sign is passed over. -/
def ofText? (t : Text) : Option DetailTest :=
  match Text.cut? (· == '=') t with
  | none => if t.isEmpty then none else some { name := t, value := none }
  | some (name, rest) =>
    let value := rest.takeWhile (· != '=')
    if Pattern.isPattern value then some { name := name, value := some value } else none

end DetailTest

/-- A level up to which some events are shown. -/
structure LogDirective where
  /-- What the names of the parts it applies to begin with. -/
  target : Option Text := none
  /-- The span it applies to. -/
  span : Option Text := none
  /-- A detail of the events it applies to. -/
  detail : Option DetailTest := none
  /-- The rank of the last level shown; nothing is shown at zero. -/
  threshold : Nat := 5
deriving DecidableEq

namespace LogDirective

/-- Whether a directive can decide about events. -/
def isForEvents (d : LogDirective) : Bool :=
  d.span.isNone && d.detail.all fun test => test.value.isNone

/-- Whether a directive applies to an event. -/
def applies (d : LogDirective) (e : Event) : Bool :=
  (d.target.all fun target => target.isPrefixOf e.target) &&
    d.detail.all fun test => e.detailNames.contains test.name

/-! ## Which directive decides -/

/-- How closely a directive names the parts it applies to. -/
def weight (d : LogDirective) : Nat :=
  match d.target with
  | none => 0
  | some target => target.length + 1

/-- The names of the details a directive asks for. -/
def detailNames (d : LogDirective) : List Text :=
  d.detail.toList.map DetailTest.name

/-- Whether the second of two directives for the same event goes before the first.  The
longer target does, then a detail, then the later name of a detail; between equal
directives the one that is given later does. -/
def yields (older newer : LogDirective) : Bool :=
  older.weight < newer.weight ||
    (older.weight == newer.weight && !decide (newer.detailNames < older.detailNames))

/-! ## Reading -/

/-- The number that a row of digits writes, perhaps behind a plus sign. -/
def number? (t : Text) : Option Nat :=
  let digits := match t with
    | '+' :: digits => digits
    | digits => digits
  if digits.isEmpty || !digits.all Char.isDigit then none else some (Text.numberOf digits)

/-- The names of the thresholds. -/
def thresholdNames : List (Text × Nat) :=
  [("off".toList, 0), ("error".toList, 1), ("warn".toList, 2), ("info".toList, 3),
    ("debug".toList, 4), ("trace".toList, 5)]

/-- The threshold that a text names, by number or by name in any case. -/
def threshold? (t : Text) : Option Nat :=
  match number? t with
  | some n => if n ≤ 5 then some n else none
  | none => thresholdNames.lookup (t.map Char.toLower)

/-- Whether a directive may begin with a character, apart from its brackets. -/
def mayBegin (c : Char) : Bool :=
  c == '-' || c == ':' || c == '_' || isLetterOrNumber c

/-- Where in a directive a character stands. -/
inductive Place where
  /-- At the beginning. -/
  | start
  /-- In a level or a target. -/
  | name
  /-- In the name of a span that begins at a position. -/
  | span (first : Nat)
  /-- In a detail that begins at a position. -/
  | detail (first : Nat)
  /-- Behind a detail. -/
  | detailEnd
  /-- Behind the brackets. -/
  | bracketEnd
  /-- In a level that begins at a position, behind an equals sign. -/
  | level (first : Nat)

/-- The part of a text between two positions, which count bytes. -/
def between (t : Text) (low high : Nat) : Text :=
  go 0 t
where
  /-- The part of a text that begins at a position. -/
  go (position : Nat) : Text → Text
    | [] => []
    | c :: t =>
      let rest := go (position + c.utf8Size) t
      if low ≤ position && position < high then c :: rest else rest

/-- Read one character, which stands at a position of the directive `t`. -/
def step? (t : Text) (d : LogDirective) (position : Nat) (c : Char) :
    Place → Option (LogDirective × Place)
  | .start =>
    if c = '[' then some (d, .span (position + 1))
    else if mayBegin c then some (d, .name)
    else none
  | .name =>
    let target := some (between t 0 position)
    if c = '=' then some ({ d with target := target }, .level (position + 1))
    else if c = '[' then some ({ d with target := target }, .span (position + 1))
    else some (d, .name)
  | .span first =>
    let span := between t first position
    if c = ']' then some ({ d with span := some span }, .bracketEnd)
    else if c = '\x7b' then
      some ({ d with span := if span.isEmpty then none else some span }, .detail (position + 1))
    else some (d, .span first)
  | .detail first =>
    if c = '\x7d' then
      (DetailTest.ofText? (between t first position)).map fun test =>
        ({ d with detail := some test }, .detailEnd)
    else some (d, .detail first)
  | .detailEnd => if c = ']' then some (d, .bracketEnd) else none
  | .bracketEnd => if c = '=' then some (d, .level (position + 1)) else none
  | .level first => some (d, .level first)

/-- Read the characters of the directive `t` from a position on. -/
def steps? (t : Text) (d : LogDirective) (place : Place) (position : Nat) :
    Text → Option (LogDirective × Place)
  | [] => some (d, place)
  | c :: rest =>
    match step? t d position c place with
    | none => none
    | some (d, place) => steps? t d place (position + c.utf8Size) rest

/-- The directive `t`, when its end is reached. -/
def finish? (t : Text) (d : LogDirective) : Place → Option LogDirective
  | .name =>
    match threshold? t with
    | some n => some { d with threshold := n }
    | none => some { d with target := some t }
  | .level first =>
    let level := between t first t.byteLength
    if level.isEmpty then some d
    else (threshold? level).map fun n => { d with threshold := n }
  | .bracketEnd => some d
  | _ => none

/-- The directive that a text describes. -/
def ofText? (t : Text) : Option LogDirective :=
  match steps? t {} .start 0 t.trim with
  | none => none
  | some (d, place) => finish? t d place

end LogDirective

end ModuleWiring

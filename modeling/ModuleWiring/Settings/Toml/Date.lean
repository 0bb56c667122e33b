/-
Dates and times in the format TOML.

A moment is a date, a time of the day, or both, and with both the distance from
the universal time may stand behind them.  Every part has a fixed number of
digits and has to exist in the calendar or on the clock.  A moment is read into
its usual form, in which a `T` divides date and time, a fraction of a second has
at most nine digits and no needless zeros, and no distance is negative zero.

* `Toml.date?`, `Toml.time?`, `Toml.offset?` — the parts;
* `Toml.moment?` — a moment.
-/
import ModuleWiring.Text.Basic

namespace ModuleWiring.Toml

/-- The `width` digits that a text begins with, if their number lies between two
bounds, and what follows them. -/
def digits? (width low high : Nat) (t : Text) : Option (Text × Text) :=
  let digits := t.take width
  let n := Text.numberOf digits
  if digits.length = width && digits.all Char.isDigit && low ≤ n && n ≤ high then
    some (digits, t.drop width)
  else none

/-- What follows one of some characters that a text begins with. -/
def behindAny? (marks : List Char) : Text → Option Text
  | [] => none
  | c :: t => if marks.contains c then some t else none

/-- How many days a month has. -/
def daysOf (year month : Nat) : Nat :=
  if month = 2 then
    (if year % 4 = 0 ∧ (year % 100 ≠ 0 ∨ year % 400 = 0) then 29 else 28)
  else if [4, 6, 9, 11].contains month then 30
  else 31

/-- The date that a text begins with, and what follows it. -/
def date? (t : Text) : Option (Text × Text) := do
  let (year, t) ← digits? 4 0 9999 t
  let (month, t) ← digits? 2 1 12 (← behindAny? ['-'] t)
  let days := daysOf (Text.numberOf year) (Text.numberOf month)
  let (day, t) ← digits? 2 1 days (← behindAny? ['-'] t)
  return (year ++ ['-'] ++ month ++ ['-'] ++ day, t)

/-- The usual form of the digits of a fraction: nine at most, and no zeros at the end. -/
def usualFraction (digits : Text) : Text :=
  match ((digits.take 9).reverse.dropWhile (· == '0')).reverse with
  | [] => ['0']
  | digits => digits

/-- The seconds that follow a minute, perhaps with a fraction, and what follows them. -/
def seconds? (t : Text) : Option (Text × Text) := do
  let (second, t) ← digits? 2 0 60 t
  match t with
  | '.' :: t =>
    match t.takeWhile Char.isDigit with
    | [] => none
    | fraction => return (second ++ ['.'] ++ usualFraction fraction, t.dropWhile Char.isDigit)
  | t => return (second, t)

/-- The time of the day that a text begins with, and what follows it. -/
def time? (t : Text) : Option (Text × Text) := do
  let (hour, t) ← digits? 2 0 23 t
  let (minute, t) ← digits? 2 0 59 (← behindAny? [':'] t)
  match t with
  | ':' :: t =>
    let (seconds, t) ← seconds? t
    return (hour ++ [':'] ++ minute ++ [':'] ++ seconds, t)
  | t => return (hour ++ [':'] ++ minute, t)

/-- The distance from the universal time that a text begins with, and what follows it. -/
def offset? (t : Text) : Option (Text × Text) := do
  match behindAny? ['Z', 'z'] t with
  | some t => return (['Z'], t)
  | none =>
    let sign ← t.head?
    let (hour, t) ← digits? 2 0 23 (← behindAny? ['+', '-'] t)
    let (minute, t) ← digits? 2 0 59 (← behindAny? [':'] t)
    let distance := hour ++ [':'] ++ minute
    return ((if distance = "00:00".toList then '+' else sign) :: distance, t)

/-- The date and the time that a text begins with, and what follows them. -/
def dateWithTime? (t : Text) : Option (Text × Text) := do
  let (date, t) ← date? t
  let (time, t) ← time? (← behindAny? ['T', 't', ' '] t)
  let moment := date ++ ['T'] ++ time
  match offset? t with
  | some (distance, t) => return (moment ++ distance, t)
  | none => return (moment, t)

/-- The moment that a text begins with, and what follows it. -/
def moment? (t : Text) : Option (Text × Text) :=
  dateWithTime? t <|> date? t <|> time? t

end ModuleWiring.Toml

/-
Values that go on over several lines.

A value is open when its first line leaves brackets open, or when it begins a
here-document.  Brackets are counted outside of string literals and up to a
comment; a here-document ends at the line that holds its marker alone.

* `nestingDelta` — how many brackets a text leaves open;
* `OpenValue.ofFirstLine?` — what a value that begins with a text waits for;
* `OpenValue.afterLine?` — what it waits for once another line has come.
-/
import ModuleWiring.Text.Blank

namespace ModuleWiring

/-- Where a count of brackets stands in relation to string literals. -/
inductive LiteralState where
  /-- Outside of string literals. -/
  | outside
  /-- Inside of a string literal. -/
  | inside
  /-- Inside of a string literal, right behind a backslash. -/
  | escaped
deriving DecidableEq

/-- Brackets opened less brackets closed from a state on. -/
def nestingDeltaFrom : LiteralState → Text → Int
  | _, [] => 0
  | .escaped, _ :: t => nestingDeltaFrom .inside t
  | .inside, c :: t =>
    if c = '\\' then nestingDeltaFrom .escaped t
    else if c = '"' then nestingDeltaFrom .outside t
    else nestingDeltaFrom .inside t
  | .outside, c :: t =>
    if c = '"' then nestingDeltaFrom .inside t
    else if c = '(' ∨ c = '[' ∨ c = '\x7b' then 1 + nestingDeltaFrom .outside t
    else if c = ')' ∨ c = ']' ∨ c = '\x7d' then nestingDeltaFrom .outside t - 1
    else if c = '#' then 0
    else if c = '/' ∧ t.head? = some '/' then 0
    else nestingDeltaFrom .outside t

/-- Brackets opened less brackets closed in a text, outside of string literals
and in front of a comment. -/
def nestingDelta (t : Text) : Int :=
  nestingDeltaFrom .outside t

/-- What the end of an open value waits for. -/
inductive OpenValue where
  /-- So many brackets have to be closed. -/
  | brackets (depth : Int)
  /-- A line has to hold the marker alone. -/
  | heredoc (marker : Text)
deriving DecidableEq

namespace OpenValue

/-- What a value that begins with this text waits for, unless it is complete. -/
def ofFirstLine? (value : Text) : Option OpenValue :=
  match Text.after? ['<', '<'] value with
  | some rest =>
    let marker := Text.trim (rest.dropWhile (· == '-'))
    if marker.isEmpty then none else some (.heredoc marker)
  | none =>
    let depth := nestingDelta value
    if 0 < depth then some (.brackets depth) else none

/-- What the value waits for behind a further line, unless that line completes it. -/
def afterLine? (line : Text) : OpenValue → Option OpenValue
  | .brackets depth =>
    let depth := depth + nestingDelta line
    if 0 < depth then some (.brackets depth) else none
  | .heredoc marker => if Text.trim line = marker then none else some (.heredoc marker)

end OpenValue

end ModuleWiring

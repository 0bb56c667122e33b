/-
Values of the data format JSON, and their text without spaces.

Only the values that reports need: nothing, truth values, strings, and rows and
tables of them.  A string keeps every character but quotation marks, backslashes
and controls.
-/
import ModuleWiring.Text.Basic

namespace ModuleWiring

/-- A value of a report. -/
inductive JsonValue where
  | null
  | bool (b : Bool)
  | string (t : Text)
  | array (values : List JsonValue)
  /-- A table, with its members in the order they are written. -/
  | object (members : List (Text × JsonValue))

namespace JsonValue

/-- One character inside a string. -/
def charText (c : Char) : Text :=
  if c = '"' || c = '\\' then ['\\', c]
  else if c = '\n' then ['\\', 'n']
  else if c = '\r' then ['\\', 'r']
  else if c = '\t' then ['\\', 't']
  else if c = '\x08' then ['\\', 'b']
  else if c = '\x0c' then ['\\', 'f']
  else if c < ' ' then
    ['\\', 'u'] ++ List.replicate (4 - (Nat.toDigits 16 c.toNat).length) '0' ++
      Nat.toDigits 16 c.toNat
  else [c]

/-- A string between quotation marks. -/
def stringText (t : Text) : Text :=
  '"' :: t.flatMap charText ++ ['"']

mutual

/-- The text of a value. -/
def text : JsonValue → Text
  | null => "null".toList
  | bool b => if b then "true".toList else "false".toList
  | string t => stringText t
  | array values => '[' :: elements values ++ [']']
  | object members => '\x7b' :: fields members ++ ['\x7d']

/-- The texts of values, with commas between them. -/
def elements : List JsonValue → Text
  | [] => []
  | [v] => text v
  | v :: vs => text v ++ ',' :: elements vs

/-- The texts of members, with commas between them. -/
def fields : List (Text × JsonValue) → Text
  | [] => []
  | [(k, v)] => stringText k ++ ':' :: text v
  | (k, v) :: rest => stringText k ++ ':' :: text v ++ ',' :: fields rest

end

end JsonValue

end ModuleWiring

/-
Attribute lines, of the form `key = value`.

The first equals sign divides the line.  A line without one, or with nothing but
blanks in front of it, is no attribute line.
-/
import ModuleWiring.Text.Blank

namespace ModuleWiring

/-- The parts of a line `key = value`. -/
structure Attribute where
  /-- What stands before the first equals sign, without blanks around it. -/
  key : Text
  /-- What stands behind it, without blanks around it. -/
  value : Text
  /-- How many bytes the blanks in front of the key take. -/
  indent : Nat
deriving DecidableEq

/-- Divide a line at its first equals sign. -/
def Attribute.ofLine? (line : Text) : Option Attribute :=
  match Text.cut? (· == '=') line with
  | none => none
  | some (left, right) =>
    if Text.isBlank left then none
    else some {
      key := Text.trim left
      value := Text.trim right
      indent := Text.byteLength (left.takeWhile isBlankChar) }

end ModuleWiring

/-
Blank characters and trimming.

A character is blank when it has the Unicode property White_Space: the six
ASCII blanks, the next-line control, the no-break and the wide spaces, and the
line and paragraph separators.  Zero-width characters and the information
separators are not blank.

* `Text.trimStart`, `Text.trimEnd`, `Text.trim` drop blanks at the ends;
* `Text.isBlank` — nothing but blanks, so that trimming leaves nothing.
-/
import ModuleWiring.Text.Basic

namespace ModuleWiring

/-- Whether a character has the Unicode property White_Space. -/
def isBlankChar (c : Char) : Bool :=
  c == ' ' || ('\t' ≤ c && c ≤ '\r') || c == '\u0085' || c == '\u00a0' || c == '\u1680' ||
    ('\u2000' ≤ c && c ≤ '\u200a') || c == '\u2028' || c == '\u2029' || c == '\u202f' ||
    c == '\u205f' || c == '\u3000'

namespace Text

/-- A text without the blanks it begins with. -/
def trimStart (t : Text) : Text :=
  t.dropWhile isBlankChar

/-- A text without the blanks it ends with. -/
def trimEnd (t : Text) : Text :=
  (t.reverse.dropWhile isBlankChar).reverse

/-- A text without the blanks at either end. -/
def trim (t : Text) : Text :=
  trimEnd (trimStart t)

/-- Whether a text holds nothing but blanks. -/
def isBlank (t : Text) : Bool :=
  t.all isBlankChar

end Text

end ModuleWiring

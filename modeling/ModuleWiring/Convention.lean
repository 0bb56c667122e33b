/-
Conventions of the configuration language and of the files this library writes.

Some belong to the language: what a comment is, what an identifier is, which
arguments of a module block the language itself reads.  The others are marks by
which the library finds its own text again: the label above a group of
assignments, the comment that keeps a declaration from being replaced, and the
plain form `var.<name>` of an assignment that passes a variable through.
-/
import ModuleWiring.Text.Blank

namespace ModuleWiring

/-- The mark that begins every label the library writes, and no other line. -/
def labelMark : Text := "#~".toList

/-- The comment in front of a declaration whose value is not to be replaced. -/
def overrideMark : Text := "# override".toList

/-- What every reference to a variable begins with. -/
def referenceOpening : Text := "var.".toList

/-- The ending of the names of configuration files. -/
def fileEnding : Text := ".tf".toList

/-- The argument of a module block that says where the module is. -/
def sourceName : Text := "source".toList

/-- The arguments of a module block that the language reads itself. -/
def reservedNames : List Text :=
  ["source", "version", "count", "for_each", "lifecycle", "name", "providers",
    "depends_on"].map String.toList

/-- The value that hands the variable `name` on under its own name. -/
def passThrough (name : Text) : Text :=
  referenceOpening ++ name

/-- Whether a line is a comment, however far it is indented. -/
def isCommentLine (line : Text) : Bool :=
  ['#'].isPrefixOf (Text.trimStart line) || ['/', '/'].isPrefixOf (Text.trimStart line)

/-- Whether a line is a label of the library's own, however far it is indented. -/
def isLabelLine (line : Text) : Bool :=
  labelMark.isPrefixOf (Text.trimStart line)

/-- Whether an identifier may begin with `c`. -/
def isNameStart (c : Char) : Bool :=
  c.isAlpha || c == '_'

/-- Whether an identifier may go on with `c`. -/
def isNameChar (c : Char) : Bool :=
  c.isAlphanum || c == '_' || c == '-'

/-- Whether a text is an identifier. -/
def isIdentifier : Text → Bool
  | [] => false
  | c :: cs => isNameStart c && cs.all isNameChar

/-- Whether a key is commented out, and the key behind the comment marks. -/
def uncomment (key : Text) : Bool × Text :=
  match key with
  | '#' :: rest => (true, Text.trimStart (rest.dropWhile (· == '#')))
  | _ => (false, key)

/-- A value without the quotation marks around it; other values stay as they are. -/
def unquote (value : Text) : Text :=
  ((Text.after? ['"'] value).bind (Text.before? ['"'])).getD value

end ModuleWiring

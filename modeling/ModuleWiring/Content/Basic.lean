/-
The content of a configuration file.

A content is what the library knows of a file: the lines to write again, the
call sites of modules, the declarations of variables, the variables referred to,
and the block that was left open, if any.  A line to write again knows when a
block ends right behind it, for that is where a call site receives its
assignments.
-/
import ModuleWiring.NameSet
import ModuleWiring.OrderedMap
import ModuleWiring.Text.Blank

namespace ModuleWiring

/-- The two kinds of blocks the library looks into. -/
inductive BlockKind where
  /-- A block `module "<name>"`, which calls a module. -/
  | callSite
  /-- A block `variable "<name>"`, which declares a variable. -/
  | declaration
deriving DecidableEq

/-- The word that opens a block of a kind. -/
def BlockKind.keyword : BlockKind → Text
  | .callSite => "module".toList
  | .declaration => "variable".toList

/-- The end of a block. -/
structure BlockEnd where
  kind : BlockKind
  name : Text
deriving DecidableEq

/-- A line to write again. -/
structure Line where
  text : Text
  /-- The block that ends with the next line, if one does. -/
  closes : Option BlockEnd := none
deriving DecidableEq

/-- Whether a line holds nothing but blanks. -/
def Line.isBlank (l : Line) : Bool :=
  Text.isBlank l.text

/-- The value that a call site gives to a variable of the module by hand. -/
structure Setting where
  /-- Whether the assignment is commented out. -/
  isCommented : Bool
  /-- Whether the value is other than the variable of the same name. -/
  isCustom : Bool
  /-- The value on the line of the assignment, then the further lines as they are. -/
  lines : List Text
deriving DecidableEq

/-- Whether the value takes more than one line. -/
def Setting.isMultiLine (s : Setting) : Bool :=
  1 < s.lines.length

/-- A block `module "<name>"`. -/
structure CallSite where
  name : Text
  /-- Where the module is, without quotation marks. -/
  source : Text := []
  /-- The values given by hand or commented out, in the order they came. -/
  settings : OrderedMap Setting := .empty
  /-- The variables its values refer to, apart from an assignment's own name. -/
  referenced : NameSet := .empty
  /-- The reserved arguments that it sets. -/
  reserved : NameSet := .empty

/-- A block `variable "<name>"`. -/
structure Declaration where
  name : Text
  /-- Whether the override mark stands in front of it. -/
  isOverride : Bool := false
  /-- The lines between the braces that are not blank. -/
  body : List Text := []
deriving DecidableEq

/-- A block of either kind. -/
inductive Block where
  | callSite (site : CallSite)
  | declaration (d : Declaration)

/-- The name of a block. -/
def Block.name : Block → Text
  | .callSite site => site.name
  | .declaration d => d.name

/-- A block that the end of a text leaves open. -/
structure Unclosed where
  kind : BlockKind
  name : Text
  /-- The line that opens the block, counted from one. -/
  line : Nat
deriving DecidableEq

/-- What is known of a configuration file. -/
structure Content where
  /-- The lines to write again. -/
  lines : List Line := []
  callSites : OrderedMap CallSite := .empty
  declarations : OrderedMap Declaration := .empty
  /-- All variables referred to outside of comments and declarations. -/
  references : NameSet := .empty
  unclosed : Option Unclosed := none

/-- The block of a kind and name. -/
def Content.block? (c : Content) (kind : BlockKind) (name : Text) : Option Block :=
  match kind with
  | .callSite => (c.callSites.get? name).map .callSite
  | .declaration => (c.declarations.get? name).map .declaration

end ModuleWiring

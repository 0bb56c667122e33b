/-
The assignments of a call site.

A call site assigns every variable that its module declares and that it does not
set as a reserved argument.  The assignments stand in groups, one for each
variable file, and a variable stands in the group of the first file that
declares it.  A last group keeps the values given by hand to variables that no
file declares.  Within a group come values given by hand, then variables passed
through, then assignments commented out, each in the order of their declaration.

* `CallSite.groups` — which assignments, and in which groups;
* `AssignmentGroup.page` — how a group is written, with its equals signs aligned.
-/
import ModuleWiring.Page
import ModuleWiring.VariableFile

namespace ModuleWiring

/-- The assignment of a value to a variable of a module. -/
structure Assignment where
  name : Text
  isCommented : Bool
  /-- The lines of a value given by hand; none for a variable passed through. -/
  lines : List Text
deriving DecidableEq

namespace Assignment

/-- The assignment of a variable, given what the call site says of it. -/
def ofSetting? (name : Text) : Option Setting → Assignment
  | none => { name := name, isCommented := false, lines := [] }
  | some s => { name := name, isCommented := s.isCommented, lines := s.lines }

/-- The name as it is written, with a comment mark if the assignment has one. -/
def displayName (a : Assignment) : Text :=
  if a.isCommented then ['#', ' '] ++ a.name else a.name

/-- Whether the value takes more than one line. -/
def isMultiLine (a : Assignment) : Bool :=
  1 < a.lines.length

/-- The lines of an assignment.  A value on one line has its equals sign behind
`width` characters; one that goes on is not aligned. -/
def page (a : Assignment) (width : Nat) : Page :=
  match a.lines with
  | [] => [.line ("  ".toList ++ Text.padRight width a.displayName ++ " = ".toList ++
      passThrough a.name)]
  | [value] => [.line ("  ".toList ++ Text.padRight width a.displayName ++ " = ".toList ++ value)]
  | first :: further =>
    .line ("  ".toList ++ a.displayName ++ " = ".toList ++ first) :: further.map .line

/-- Whether a value is given by hand and in force. -/
def isLive (a : Assignment) : Bool :=
  !a.isCommented && !a.lines.isEmpty

/-- Whether a variable is passed through. -/
def isPassThrough (a : Assignment) : Bool :=
  !a.isCommented && a.lines.isEmpty

end Assignment

/-- Assignments that stand together. -/
structure AssignmentGroup where
  label : Option Text
  assignments : List Assignment
deriving DecidableEq

namespace AssignmentGroup

/-- Assignments in the order in which a group writes them. -/
def ordered (as : List Assignment) : List Assignment :=
  as.filter Assignment.isLive ++ as.filter Assignment.isPassThrough ++
    as.filter Assignment.isCommented

/-- The greatest length of a name among the assignments that are commented out, or
among those that are not. -/
def width (as : List Assignment) (isCommented : Bool) : Nat :=
  ((as.filter fun a => a.isCommented == isCommented).map fun a => a.displayName.length).foldl max 0

/-- The lines of assignments.  A value on several lines is set off from what follows. -/
def rows (width : Bool → Nat) : List Assignment → Page
  | [] => []
  | a :: as =>
    a.page (width a.isCommented) ++
      (if a.isMultiLine && !as.isEmpty then [.gap] else []) ++ rows width as

/-- The lines of a group, behind a gap.  A group without assignments has none. -/
def page (g : AssignmentGroup) : Page :=
  if g.assignments.isEmpty then []
  else
    [.gap] ++
      (g.label.map fun label => PageItem.line ("  ".toList ++ labelMark ++ ' ' :: label)).toList ++
      rows (width g.assignments) (ordered g.assignments)

end AssignmentGroup

namespace CallSite

/-- The group of the values given by hand to variables that are not `assigned` yet. -/
def leftovers (site : CallSite) (assigned : List Text) : AssignmentGroup where
  label := none
  assignments := (site.settings.entries.filter fun (name, setting) =>
    setting.isCustom && !assigned.contains name).map fun (name, setting) =>
      Assignment.ofSetting? name (some setting)

/-- The variables of a file that the call site has to assign and has not `assigned` yet. -/
def unassigned (site : CallSite) (assigned : List Text) (file : VariableFile) : List Text :=
  file.content.declarations.keys.filter fun name =>
    !site.reserved.contains name && !assigned.contains name

/-- The groups of the files that are left, and the last group. -/
def groupsFrom (site : CallSite) : (assigned : List Text) → List VariableFile →
    List AssignmentGroup
  | assigned, [] => [site.leftovers assigned]
  | assigned, file :: files =>
    let names := site.unassigned assigned file
    { label := VariableFile.label? file.name
      assignments := names.map fun name => .ofSetting? name (site.settings.get? name) } ::
      groupsFrom site (assigned ++ names) files

/-- The assignments of a call site, in groups. -/
def groups (site : CallSite) (files : List VariableFile) : List AssignmentGroup :=
  site.groupsFrom [] files

/-- The lines of the assignments of a call site. -/
def page (site : CallSite) (files : List VariableFile) : Page :=
  (site.groups files).flatMap AssignmentGroup.page

end CallSite

end ModuleWiring

/-
Variable files, the files in which a module declares its variables.

A variable file is known by its name: it begins with an agreed text and has the
ending of configuration files.  The file with the usual name comes first, the
others follow in alphabetical order, and what distinguishes their names labels
their assignments.
-/
import ModuleWiring.Content.Basic
import ModuleWiring.Convention
import ModuleWiring.Path

namespace ModuleWiring

/-- A variable file of a module. -/
structure VariableFile where
  path : Path
  name : Text
  content : Content

/-- The variable files of each module, by the module's name. -/
abbrev ModuleFiles := OrderedMap (List VariableFile)

/-- The variable files of a module; a module that is not listed has none. -/
def ModuleFiles.of (files : ModuleFiles) (name : Text) : List VariableFile :=
  (files.get? name).getD []

namespace VariableFile

/-- The usual name of a variable file. -/
def usualName : Text := "variables.tf".toList

/-- Whether a file of this name is a variable file, where the names of variable
files begin with `beginning`. -/
def isName (beginning name : Text) : Bool :=
  beginning.isPrefixOf name && fileEnding.isSuffixOf name

/-- Whether a variable file called `a` comes before one called `b`, or at its place. -/
def precedes (a b : Text) : Bool :=
  a == usualName || (b != usualName && !decide (b < a))

/-- Names in order with one more at its place. -/
def placeName (name : Text) : List Text → List Text
  | [] => [name]
  | n :: ns => if precedes name n then name :: n :: ns else n :: placeName name ns

/-- Names of variable files in their order. -/
def sortNames (names : List Text) : List Text :=
  names.foldr placeName []

theorem placeName_perm (name : Text) (names : List Text) :
    (placeName name names).Perm (name :: names) := by
  induction names with
  | nil => exact .refl _
  | cons n ns ih =>
    simp only [placeName]
    split
    · exact .refl _
    · exact (List.Perm.cons n ih).trans (.swap name n ns)

theorem sortNames_perm (names : List Text) : (sortNames names).Perm names := by
  induction names with
  | nil => exact .refl _
  | cons n ns ih => exact (placeName_perm n _).trans (ih.cons n)

/-- What distinguishes the name of a variable file: the part behind the first hyphen
or underscore, without the ending. -/
def label? (name : Text) : Option Text :=
  match Text.cut? (fun c => c == '-' || c == '_') ((Text.before? fileEnding name).getD name) with
  | some (_, label) => if label.isEmpty then none else some label
  | none => none

end VariableFile

end ModuleWiring

/-
The arguments of a command line.

Arguments are read from left to right.  Options that concern the whole project
may stand in front of the action and behind it, and what stands behind counts;
options of an action stand behind it.  An option may be given once at each of the
two places.  The first argument that asks for help or for the version ends the
reading, and so does the first that makes no sense.

* `Request.ofArguments` — what a row of arguments asks for.
-/
import ModuleWiring.Path

namespace ModuleWiring

/-- An option of the command line. -/
inductive OptionKey where
  | path
  | mainFile
  | inheritedFile
  | verbose
  | noColor
  | diff
  | format
  | dryRun
  | watch
  | help
  | version
deriving DecidableEq

/-- The actions by name. -/
inductive ActionKey where
  | check
  | update
  | list
deriving DecidableEq

/-- How a check reports. -/
inductive ReportFormat where
  | text
  | json
deriving DecidableEq

/-- What to do with a project. -/
inductive Action where
  /-- See whether the files are as they should be. -/
  | check (showDiff : Bool) (format : ReportFormat)
  /-- Write the files anew, or only say what would be written. -/
  | update (dryRun watch : Bool)
  /-- Show the modules. -/
  | list
deriving DecidableEq

/-- An action and the project it is for. -/
structure Invocation where
  /-- The root of the project, unless it is the working folder. -/
  path : Option Path
  mainFile : Option Path
  inheritedFile : Option Path
  verbose : Bool
  noColor : Bool
  action : Option Action
deriving DecidableEq

/-- What a row of arguments asks for. -/
inductive Request where
  | run (invocation : Invocation)
  | showHelp
  | showVersion
  /-- The arguments make no sense. -/
  | refused
deriving DecidableEq

namespace OptionKey

/-- Whether an option has a value. -/
def takesValue : OptionKey → Bool
  | path | mainFile | inheritedFile | format => true
  | _ => false

/-- Whether a value makes sense for an option. -/
def admits : OptionKey → Text → Bool
  | format, value => value == "text".toList || value == "json".toList
  | _, value => !value.isEmpty

/-- The options of the whole project, by their long names. -/
def common : List (Text × OptionKey) :=
  [("path".toList, path), ("main-file".toList, mainFile), ("inherited-file".toList, inheritedFile),
    ("verbose".toList, verbose), ("no-color".toList, noColor), ("help".toList, help)]

/-- The options that stand only at one place, by their long names. -/
def special : Option ActionKey → List (Text × OptionKey)
  | none => [("version".toList, version)]
  | some .check => [("diff".toList, diff), ("format".toList, format)]
  | some .update => [("dry-run".toList, dryRun), ("watch".toList, watch)]
  | some .list => []

/-- The option of a long name, in front of the action or behind it. -/
def ofName? (action : Option ActionKey) (name : Text) : Option OptionKey :=
  (common ++ special action).lookup name

/-- The option of a letter, in front of the action or behind it. -/
def ofLetter? (action : Option ActionKey) (c : Char) : Option OptionKey :=
  if c = 'p' then some path
  else if c = 'v' then some verbose
  else if c = 'h' then some help
  else if c = 'V' && action.isNone then some version
  else none

end OptionKey

/-- The action of a name. -/
def ActionKey.ofName? (name : Text) : Option ActionKey :=
  [("check".toList, check), ("update".toList, update), ("list".toList, list)].lookup name

/-- What has been read of a row of arguments. -/
structure ArgumentReading where
  action : Option ActionKey := none
  /-- The options in front of the action, with their values. -/
  before : List (OptionKey × Text) := []
  /-- The options at the present place, with their values. -/
  given : List (OptionKey × Text) := []
  /-- The option whose value comes next. -/
  pending : Option OptionKey := none
  /-- Whether only plain arguments may follow. -/
  plainOnly : Bool := false

namespace ArgumentReading

/-- Note an option with its value. -/
def give (r : ArgumentReading) (key : OptionKey) (value : Text) : Except Request ArgumentReading :=
  if (r.given.lookup key).isSome || !key.admits value then .error .refused
  else .ok { r with given := (key, value) :: r.given, pending := none }

/-- Note an option without a value. -/
def flag (r : ArgumentReading) (key : OptionKey) : Except Request ArgumentReading :=
  match key with
  | .help => .error .showHelp
  | .version => .error .showVersion
  | _ =>
    if (r.given.lookup key).isSome then .error .refused
    else .ok { r with given := (key, []) :: r.given }

/-- An option by its long name, perhaps with its value behind an equals sign. -/
def long (r : ArgumentReading) (t : Text) : Except Request ArgumentReading :=
  let (name, value) := match Text.cut? (· == '=') t with
    | some (name, value) => (name, some value)
    | none => (t, none)
  match OptionKey.ofName? r.action name, value with
  | none, _ => .error .refused
  | some key, some value => if key.takesValue then r.give key value else .error .refused
  | some key, none => if key.takesValue then .ok { r with pending := some key } else r.flag key

/-- Options by their letters.  The letter of an option with a value may have it right
behind, perhaps after an equals sign. -/
def letters (r : ArgumentReading) : Text → Except Request ArgumentReading
  | [] => .ok r
  | c :: t =>
    match OptionKey.ofLetter? r.action c with
    | none => .error .refused
    | some key =>
      if key.takesValue then
        match t with
        | [] => .ok { r with pending := some key }
        | '=' :: value => r.give key value
        | value => r.give key value
      else match r.flag key with
        | .ok r => letters r t
        | .error e => .error e

/-- What is asked for behind the word `help`: it may be followed by one known word. -/
def helpRequest : List Text → Request
  | [] => .showHelp
  | [name] =>
    if (ActionKey.ofName? name).isSome || name == "help".toList then .showHelp else .refused
  | _ => .refused

/-- The action, with the options given for it. -/
def action? (r : ArgumentReading) : Option Action :=
  let has := fun key => (r.given.lookup key).isSome
  r.action.map fun
    | .check => .check (has .diff)
        (if r.given.lookup .format = some "json".toList then .json else .text)
    | .update => .update (has .dryRun) (has .watch)
    | .list => .list

/-- What all arguments together ask for. -/
def invocation (r : ArgumentReading) : Invocation :=
  let value := fun key => ((r.given ++ r.before).lookup key)
  { path := (value .path).map Path.mk
    mainFile := (value .mainFile).map Path.mk
    inheritedFile := (value .inheritedFile).map Path.mk
    verbose := (value .verbose).isSome
    noColor := (value .noColor).isSome
    action := r.action? }

/-- An argument that is no option and no value. -/
def word (r : ArgumentReading) (arg : Text) : Except Request ArgumentReading :=
  match r.action, ActionKey.ofName? arg with
  | none, some action => .ok { r with action := some action, before := r.given, given := [] }
  | _, _ => .error .refused

/-- Read the next argument. -/
def argument (r : ArgumentReading) (arg : Text) : Except Request ArgumentReading :=
  if r.plainOnly then .error .refused
  else match arg, r.pending with
    | '-' :: '-' :: [], none => .ok { r with plainOnly := true }
    | '-' :: '-' :: t, none => r.long t
    | '-' :: c :: t, none => r.letters (c :: t)
    | '-' :: _ :: _, some _ => .error .refused
    | value, some key => r.give key value
    | arg, none => r.word arg

/-- Read all arguments. -/
def arguments (r : ArgumentReading) : List Text → Request
  | [] => if r.pending.isSome then .refused else .run r.invocation
  | arg :: args =>
    if arg = "help".toList ∧ r.action = none ∧ r.pending = none ∧ !r.plainOnly then
      helpRequest args
    else match r.argument arg with
      | .ok r => arguments r args
      | .error request => request

end ArgumentReading

/-- What a row of arguments asks for. -/
def Request.ofArguments (args : List Text) : Request :=
  ArgumentReading.arguments {} args

end ModuleWiring

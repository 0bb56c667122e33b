/-
Carrying out what a command line asks for.

An outcome is all that a run leaves behind, the disk apart: what it says on its
two channels, what it reports of its work, and the status with which it ends.
The status is nought if all is well, one if a check fails or there is no action,
and two if a fault or senseless arguments stop the run.

* `Invocation.run` — one action on a project;
* `Request.answer` — a whole command line.
-/
import ModuleWiring.Command.Arguments
import ModuleWiring.Command.Report
import ModuleWiring.Log.Filter

namespace ModuleWiring

/-- What a run finds around it. -/
structure Surroundings where
  /-- The root of a project whose root is not given. -/
  workingFolder : Path
  /-- Whether colours may be used. -/
  color : Bool
  /-- Which events to show, if that is set. -/
  filter : Option Text
  /-- What tells the temporary names of this run from others. -/
  stamp : Text

/-- What a run leaves behind. -/
structure Outcome where
  status : Nat := 0
  out : Text := []
  err : Text := []
  events : List Event := []
  /-- The fault that stopped the run. -/
  fault : Option Fault := none
  /-- The files that were written. -/
  written : List Path := []
  /-- Whether to go on whenever a file changes. -/
  watches : Bool := false

namespace Outcome

/-- The outcome of a run that a fault stops. -/
def stopped (events : List Event) (fault : Fault) : Outcome :=
  { status := 2, events := events, fault := some fault }

end Outcome

namespace Invocation

variable {m : Type → Type} [Monad m]

/-- The root of the project. -/
def root (i : Invocation) (around : Surroundings) : Path :=
  i.path.getD around.workingFolder

/-- Whether to use colours. -/
def color (i : Invocation) (around : Surroundings) : Bool :=
  around.color && !i.noColor

/-- The options of the project: its settings, unless the arguments say otherwise. -/
def options (i : Invocation) (around : Surroundings) (settings : Settings) : Options where
  root := i.root around
  settings := { settings with
    mainFile := i.mainFile.getD settings.mainFile
    inheritedFile := i.inheritedFile.getD settings.inheritedFile }

/-- Read the project, and report of it. -/
def scan (disk : Disk m) (around : Surroundings) (i : Invocation) :
    m (List Event × Except Fault Project) := do
  match ← Settings.load disk (i.root around) with
  | .error fault => return ([], .error fault)
  | .ok file =>
    let options := i.options around ((file.map SettingsFile.settings).getD {})
    let survey ← Survey.take disk options
    return (
      file.toList.map (fun f => .settingsLoaded f.path) ++
        .optionsResolved options file.isSome :: survey.events,
      survey.project?)

/-- See whether the files of a project are as they should be. -/
def check (around : Surroundings) (i : Invocation) (showDiff : Bool) (format : ReportFormat)
    (events : List Event) (p : Project) : Outcome :=
  let update := Update.ofProject p
  let events := events ++ update.events p
  let root := i.root around
  let status := if update.isUpToDate then 0 else 1
  match format with
  | .json => { status := status, out := Report.checkJson root update.changed, events := events }
  | .text =>
    if update.isUpToDate then { status := status, out := Report.checkPassed, events := events }
    else {
      status := status
      err := Report.check (i.color around) showDiff root update.changed
      events := events }

/-- Write the files of a project anew, or say what would be written. -/
def update (disk : EditableDisk m) (around : Surroundings) (i : Invocation) (dryRun : Bool)
    (events : List Event) (p : Project) : m Outcome := do
  let update := Update.ofProject p
  let events := events ++ update.events p
  let root := i.root around
  if update.isUpToDate then return { out := Report.upToDate, events := events }
  if dryRun then
    return {
      out := Report.dryRun root update.changed
      err := if i.verbose then update.changed.flatMap (Report.diff (i.color around)) else []
      events := events }
  let report ← update.write disk around.stamp
  let events := events ++ report.events
  match report.fault with
  | some fault => return { Outcome.stopped events fault with written := report.written }
  | none =>
    return {
      out := Report.written root p.inheritedPath update.changed
      events := events
      written := report.written }

/-- Read the project and write its files anew. -/
def updateOnce (disk : EditableDisk m) (around : Surroundings) (i : Invocation) (dryRun : Bool) :
    m Outcome := do
  match ← i.scan disk.toDisk around with
  | (events, .error fault) => return .stopped events fault
  | (events, .ok p) => i.update disk around dryRun events p

/-- Carry out an action. -/
def act (disk : EditableDisk m) (around : Surroundings) (i : Invocation) :
    Action → m Outcome
  | .check showDiff format => do
    match ← i.scan disk.toDisk around with
    | (events, .error fault) => return .stopped events fault
    | (events, .ok p) => return i.check around showDiff format events p
  | .list => do
    match ← i.scan disk.toDisk around with
    | (events, .error fault) => return .stopped events fault
    | (events, .ok p) =>
      return { out := Report.modules (i.color around) (i.root around) p, events := events }
  | .update dryRun watch => do
    let outcome ← i.updateOnce disk around dryRun
    if watch && !dryRun && outcome.status == 0 then
      return { outcome with
        out := outcome.out ++
          "\nWatching for file changes... (press Ctrl+C to stop)\n".toList
        watches := true }
    return outcome

/-- Carry out what the arguments ask for. -/
def run (disk : EditableDisk m) (around : Surroundings) (i : Invocation) : m Outcome :=
  match i.action with
  | none => pure {
      status := 1
      err := "No subcommand specified. Run `tfinherit --help` for usage.\n".toList }
  | some action => i.act disk around action

/-- The log lines of an outcome that are shown. -/
def logLines (i : Invocation) (around : Surroundings) (o : Outcome) : List Text :=
  (LogFilter.choose around.filter i.verbose).lines o.events

end Invocation

namespace Request

/-- The version of the program. -/
def versionText : Text :=
  "tfinherit_cli 0.3.0\n".toList

/-- How the program is used. -/
def usage : Text :=
  ("Keep Terraform module call sites in sync with the variables their modules declare.\n\n" ++
    "Usage: tfinherit [OPTIONS] [COMMAND]\n\n" ++
    "Commands:\n" ++
    "  check   Check that both files are up to date [--diff] [--format text|json]\n" ++
    "  update  Regenerate both files [--dry-run] [--watch]\n" ++
    "  list    List the modules with their sources and variable files\n" ++
    "  help    Print this message\n\n" ++
    "Options:\n" ++
    "  -p, --path <PATH>                  The root of the project\n" ++
    "      --main-file <MAIN_FILE>        The file with the module blocks\n" ++
    "      --inherited-file <FILE>        The generated variables file\n" ++
    "  -v, --verbose                      Enable verbose output\n" ++
    "      --no-color                     Disable colored output\n" ++
    "  -h, --help                         Print help\n" ++
    "  -V, --version                      Print version\n").toList

variable {m : Type → Type} [Monad m]

/-- Carry out a command line: what it leaves behind, and the log lines to show. -/
def answer (disk : EditableDisk m) (around : Surroundings) : Request → m (Outcome × List Text)
  | .showHelp => pure ({ out := usage }, [])
  | .showVersion => pure ({ out := versionText }, [])
  | .refused => pure (
      { status := 2,
        err := "error: invalid arguments. Run `tfinherit --help` for usage.\n".toList },
      [])
  | .run i => do
    let outcome ← i.run disk around
    return (outcome, i.logLines around outcome)

end Request

end ModuleWiring

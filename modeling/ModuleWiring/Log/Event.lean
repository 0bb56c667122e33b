/-
What the library reports of its work.

An event says what happened; its line says so in words, with the level in front
and the details behind.  Each event belongs to a part of the program, by which
it can be shown or hidden.
-/
import ModuleWiring.Content.Basic
import ModuleWiring.Settings.Basic
import ModuleWiring.Text.Quoted

namespace ModuleWiring

/-- How much an event matters. -/
inductive LogLevel where
  | error
  | warn
  | info
  | debug
  | trace
deriving DecidableEq

namespace LogLevel

/-- The number of a level: the higher, the less it matters. -/
def rank : LogLevel → Nat
  | error => 1
  | warn => 2
  | info => 3
  | debug => 4
  | trace => 5

/-- The name of a level. -/
def name : LogLevel → Text
  | error => "ERROR".toList
  | warn => "WARN".toList
  | info => "INFO".toList
  | debug => "DEBUG".toList
  | trace => "TRACE".toList

end LogLevel

/-- Something that happened. -/
inductive Event where
  /-- The settings file was read. -/
  | settingsLoaded (path : Path)
  /-- It is settled where the project is. -/
  | optionsResolved (options : Options) (hasSettings : Bool)
  /-- The main file or the inherited file was read. -/
  | fileRead (path : Path) (callSites declarations : Nat)
  /-- A variable file was read. -/
  | variableFileRead (path : Path) (callSites declarations : Nat)
  /-- There is no inherited file yet. -/
  | fileMissing (path : Path)
  /-- A call site ended. -/
  | callSiteEnded (name : Text) (settings : Nat)
  /-- The source of a module is not on disk. -/
  | sourceUnavailable (name source : Text)
  /-- A variable file ends inside of a block. -/
  | variableFileMalformed (path : Path) (block : Unclosed)
  /-- The variable files of a module were read. -/
  | variableFilesLoaded (name : Text) (folder : Path) (files : Nat)
  /-- The folder of a module is missing. -/
  | folderMissing (name : Text) (folder : Path)
  /-- The assignments of a call site were written. -/
  | assignmentsWritten (name : Text) (files : Nat)
  /-- The new text of a file was made. -/
  | fileGenerated (path : Path) (isChanged : Bool)
  /-- The new text of a file was stored. -/
  | fileWritten (path : Path)

namespace Event

/-- How much an event matters. -/
def level : Event → LogLevel
  | callSiteEnded .. | assignmentsWritten .. => .trace
  | fileGenerated .. => .info
  | sourceUnavailable .. | variableFileMalformed .. | folderMissing .. => .warn
  | settingsLoaded .. | optionsResolved .. | fileRead .. | variableFileRead .. | fileMissing ..
  | variableFilesLoaded .. | fileWritten .. => .debug

/-- The part of the program that an event belongs to. -/
def target : Event → Text
  | settingsLoaded .. => "tfinherit_core::config".toList
  | optionsResolved .. => "tfinherit".toList
  | variableFileRead .. | callSiteEnded .. => "tfinherit_core::parser".toList
  | variableFileMalformed .. => "tfinherit_core::module_source".toList
  | assignmentsWritten .. => "tfinherit_core::generator".toList
  | fileRead .. | fileMissing .. | sourceUnavailable .. | variableFilesLoaded .. | folderMissing ..
  | fileGenerated .. | fileWritten .. => "tfinherit_core::engine".toList

/-- What an event says. -/
def message : Event → Text
  | settingsLoaded .. => "loaded config".toList
  | optionsResolved .. => "resolved project options".toList
  | fileRead .. | variableFileRead .. => "parsed file".toList
  | fileMissing .. => "file does not exist yet".toList
  | callSiteEnded .. => "closed module block".toList
  | sourceUnavailable .. => "module source is not available locally".toList
  | variableFileMalformed .. => "variable file is malformed".toList
  | variableFilesLoaded .. => "loaded variable files".toList
  | folderMissing .. => "module folder does not exist".toList
  | assignmentsWritten .. => "injected assignments".toList
  | fileGenerated .. => "generated file".toList
  | fileWritten .. => "wrote file".toList

/-- A truth value in a log line. -/
def boolText (b : Bool) : Text :=
  if b then "true".toList else "false".toList

/-- The kind of a block in a log line. -/
def kindText : BlockKind → Text
  | .callSite => "Module".toList
  | .declaration => "Variable".toList

/-- An open block in a log line. -/
def unclosedText (block : Unclosed) : Text :=
  "UnclosedBlock \x7b kind: ".toList ++ kindText block.kind ++ ", name: ".toList ++
    Text.quoted block.name ++ ", line: ".toList ++ Text.ofNat block.line ++ " \x7d".toList

/-- The details of an event, by name. -/
def fields : Event → List (String × Text)
  | settingsLoaded path => [("path", path.text)]
  | optionsResolved options hasSettings =>
    [("root", options.root.text), ("main_file", options.settings.mainFile.text),
      ("inherited_file", options.settings.inheritedFile.text), ("config", boolText hasSettings)]
  | fileRead path callSites declarations | variableFileRead path callSites declarations =>
    [("path", path.text), ("modules", Text.ofNat callSites),
      ("variables", Text.ofNat declarations)]
  | fileMissing path => [("path", path.text)]
  | callSiteEnded name settings => [("module", name), ("variables", Text.ofNat settings)]
  | sourceUnavailable name source => [("module", name), ("source", source)]
  | variableFileMalformed path block =>
    [("path", path.text), ("diagnostic", unclosedText block)]
  | variableFilesLoaded name folder files =>
    [("module", Text.quoted name), ("folder", folder.text), ("files", Text.ofNat files)]
  | folderMissing name folder => [("module", Text.quoted name), ("folder", folder.text)]
  | assignmentsWritten name files => [("module", name), ("files", Text.ofNat files)]
  | fileGenerated path isChanged => [("path", path.text), ("changed", boolText isChanged)]
  | fileWritten path => [("path", path.text)]

/-- The names of all that an event tells. -/
def detailNames (e : Event) : List Text :=
  "message".toList :: e.fields.map fun (name, _) => name.toList

/-- The log line of an event. -/
def line (e : Event) : Text :=
  Text.padLeft 5 e.level.name ++ ' ' :: e.message ++
    e.fields.flatMap fun (name, value) => ' ' :: name.toList ++ '=' :: value

end Event

end ModuleWiring

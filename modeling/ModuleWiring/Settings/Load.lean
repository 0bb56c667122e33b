/-
Finding the settings of a project.

The settings file of a project is the first of three that exists.  A project
without one has the usual settings.
-/
import ModuleWiring.Fault
import ModuleWiring.Settings.Toml

namespace ModuleWiring

/-- A settings file and what it says. -/
structure SettingsFile where
  path : Path
  settings : Settings

namespace Settings

/-- Where a settings file can be, seen from the root of a project. -/
def fileNames : List Text :=
  ["tfinherit.toml", ".tfinherit.toml", ".config/tfinherit.toml"].map String.toList

variable {m : Type → Type} [Monad m]

/-- The first of some paths where there is a file. -/
def firstFile? (disk : Disk m) : List Path → m (Option Path)
  | [] => pure none
  | p :: ps => do
    if ← disk.isFile p then return some p
    firstFile? disk ps

/-- The settings file of the project at a root. -/
def find? (disk : Disk m) (root : Path) : m (Option Path) :=
  firstFile? disk (fileNames.map fun name => root.join ⟨name⟩)

/-- The settings that stored content gives. -/
def ofBytes (b : Bytes) : Except Fault Settings :=
  match Text.decode b with
  | none => .error (.disk .notText)
  | some t =>
    match ofToml? t with
    | none => .error .settings
    | some settings => .ok settings

/-- Read the settings file of the project at a root, if there is one. -/
def load (disk : Disk m) (root : Path) : m (Except Fault (Option SettingsFile)) := do
  match ← find? disk root with
  | none => return .ok none
  | some path =>
    match ← disk.read path with
    | .error fault => return .error (.disk fault)
    | .ok b => return (ofBytes b).map fun settings => some { path := path, settings := settings }

end Settings

end ModuleWiring

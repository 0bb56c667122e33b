/-
Reading the variable files of a folder.

The files are read in their order, up to the first that cannot be read.
-/
import ModuleWiring.Disk.File
import ModuleWiring.VariableFile

namespace ModuleWiring

variable {m : Type → Type} [Monad m]

/-- The names of the variable files of a folder, in their order. -/
def VariableFile.names (disk : Disk m) (folder : Path) (beginning : Text) :
    m (Except Fault (List Text)) := do
  match ← disk.regularFiles folder with
  | .error fault => return .error (.ofReading folder fault)
  | .ok names => return .ok (sortNames (names.filter (isName beginning)))

/-- A variable file that was opened, and what came of reading it. -/
structure FileVisit where
  path : Path
  name : Text
  visit : File.Visit Reading

/-- The variable file that was read. -/
def FileVisit.file? (v : FileVisit) : Except Fault VariableFile :=
  v.visit.content?.map fun content => { path := v.path, name := v.name, content := content }

/-- A folder that was opened, and what came of reading its variable files. -/
structure FolderVisit where
  /-- Why the folder could not be listed. -/
  fault : Option Fault
  files : List FileVisit

namespace FolderVisit

/-- Open files of a folder one after the other, up to the first that cannot be read. -/
def visitFiles (disk : Disk m) (folder : Path) : List Text → m (List FileVisit)
  | [] => pure []
  | name :: names => do
    let path := folder.join ⟨name⟩
    let visit ← File.visit disk Reading.visit {} path
    let v : FileVisit := { path := path, name := name, visit := visit }
    if visit.fault.isSome then return [v]
    return v :: (← visitFiles disk folder names)

/-- Open a folder and its variable files. -/
def take (disk : Disk m) (folder : Path) (beginning : Text) : m FolderVisit := do
  match ← VariableFile.names disk folder beginning with
  | .error fault => return { fault := some fault, files := [] }
  | .ok names => return { fault := none, files := ← visitFiles disk folder names }

/-- The variable files of the folder. -/
def files? (v : FolderVisit) : Except Fault (List VariableFile) :=
  match v.fault with
  | some fault => .error fault
  | none => v.files.mapM FileVisit.file?

end FolderVisit

/-- The variable files of a folder. -/
def VariableFile.load (disk : Disk m) (folder : Path) (beginning : Text) :
    m (Except Fault (List VariableFile)) := do
  return (← FolderVisit.take disk folder beginning).files?

end ModuleWiring

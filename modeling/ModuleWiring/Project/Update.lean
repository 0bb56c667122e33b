/-
Writing the files of a project anew.

An update holds the two files as they should be, beside what is on disk.  A file
that is not there is not made if it would be empty.  A changed file is first
written under a temporary name beside it and then put in its place in one step,
so that nobody ever sees a part of it; what fails leaves the file as it was.

* `Update.ofProject` — the update;
* `Update.write` — put the changed files in place, up to the first fault.
-/
import ModuleWiring.InheritedFile
import ModuleWiring.MainFile
import ModuleWiring.Project.Survey

namespace ModuleWiring

/-- A file as it should be. -/
structure GeneratedFile where
  path : Path
  /-- What is on disk, if the file is there. -/
  current : Option Text
  content : Text
deriving DecidableEq

/-- Whether writing the file would change the disk. -/
def GeneratedFile.isChanged (f : GeneratedFile) : Bool :=
  match f.current with
  | some current => current != f.content
  | none => !f.content.isEmpty

/-- The files of a project as they should be. -/
structure Update where
  files : List GeneratedFile
deriving DecidableEq

/-- What came of writing files. -/
structure WriteReport where
  /-- The files that were put in place. -/
  written : List Path
  /-- Why the next one was not. -/
  fault : Option Fault
deriving DecidableEq

namespace Update

/-- The inherited file and the main file of a project. -/
def ofProject (p : Project) : Update where
  files := [
    { path := p.inheritedPath
      current := p.inheritedText
      content := InheritedFile.render p.main.content p.inheritedContent p.files },
    { path := p.main.path
      current := some p.main.text
      content := MainFile.render p.main.content p.files }]

/-- The files that differ from what is on disk. -/
def changed (u : Update) : List GeneratedFile :=
  u.files.filter GeneratedFile.isChanged

/-- Whether there is nothing to write. -/
def isUpToDate (u : Update) : Bool :=
  u.changed.isEmpty

/-- The temporary name of a file, beside the file and with its name in it; the stamp tells one
writing from another. -/
def temporaryPath (path : Path) (stamp : Text) : Path :=
  path.withFileName ('.' :: path.fileName?.getD [] ++ ".tmp-".toList ++ stamp)

variable {m : Type → Type} [Monad m]

/-- Put a file in place. -/
def store (disk : EditableDisk m) (stamp : Text) (f : GeneratedFile) :
    m (Except DiskFault Unit) := do
  let temporary := temporaryPath f.path stamp
  match ← disk.write temporary (Text.encode f.content) with
  | .error fault => return .error fault
  | .ok () =>
    match ← disk.rename temporary f.path with
    | .ok () => return .ok ()
    | .error fault =>
      let _ ← disk.remove temporary
      return .error fault

/-- Put files in place one after the other, up to the first fault.  One stamp stands for all
of them: different files have different temporary names in any case, and none is in use any
longer when the next file is written. -/
def storeAll (disk : EditableDisk m) (stamp : Text) : List GeneratedFile → m WriteReport
  | [] => return { written := [], fault := none }
  | f :: fs => do
    match ← store disk stamp f with
    | .error fault => return { written := [], fault := some (.disk fault) }
    | .ok () =>
      let report ← storeAll disk stamp fs
      return { report with written := f.path :: report.written }

/-- Put the changed files in place. -/
def write (disk : EditableDisk m) (stamp : Text) (u : Update) : m WriteReport :=
  storeAll disk stamp u.changed

/-- What is reported of making an update. -/
def events (p : Project) (u : Update) : List Event :=
  (p.main.content.lines.filterMap (MainFile.endingCallSite? p.main.content)).map (fun site =>
    .assignmentsWritten site.name (p.files.of site.name).length) ++
  u.files.map fun f => .fileGenerated f.path f.isChanged

end Update

/-- What is reported of writing files. -/
def WriteReport.events (r : WriteReport) : List Event :=
  r.written.map .fileWritten

end ModuleWiring

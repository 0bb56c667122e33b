/-
Surveying a project.

A survey is everything that is read from disk for a project: the main file, the
inherited file, and the variable files of every module that the main file calls.
What it means, the project or the fault that stops the work, and what is reported
of it are functions of the survey.

* `Survey.take` — read everything;
* `Survey.project?` — the project, or the first fault;
* `Survey.events` — the report.
-/
import ModuleWiring.Log.Event
import ModuleWiring.Project.Folder
import ModuleWiring.Settings.Load

namespace ModuleWiring

/-- A configuration file, as stored and as understood. -/
structure TextFile where
  path : Path
  text : Text
  content : Content

/-- A project: what is needed to write its files anew. -/
structure Project where
  main : TextFile
  inheritedPath : Path
  /-- The inherited file, once there is one. -/
  inherited : Option TextFile
  /-- The folder of each module, if it is on disk. -/
  folders : OrderedMap (Option Path)
  files : ModuleFiles

/-- The inherited file as it is stored. -/
def Project.inheritedText (p : Project) : Option Text :=
  p.inherited.map TextFile.text

/-- The content of the inherited file. -/
def Project.inheritedContent (p : Project) : Option Content :=
  p.inherited.map TextFile.content

/-- What came of looking for a module. -/
structure ModuleVisit where
  name : Text
  source : Text
  /-- The folder of the module, if it is on disk, and what came of opening it. -/
  folder : Option (Path × FolderVisit)

/-- The variable files of the module.  A folder that is missing has none, and the
inherited file is none of them, whatever path leads to it. -/
def ModuleVisit.files? (v : ModuleVisit) (inheritedPath : Path) :
    Except Fault (List VariableFile) :=
  match v.folder with
  | none => .ok []
  | some (_, visit) =>
    match visit.files? with
    | .ok files => .ok (files.filter fun file => !file.path.sameAs inheritedPath)
    | .error fault => if fault.isMissing then .ok [] else .error fault

/-- What is read from disk for a project. -/
structure Survey where
  options : Options
  main : Except Fault Text
  inherited : Except Fault Text
  /-- The modules, in the order of their call sites. -/
  modules : List ModuleVisit

namespace Survey

/-- The files that everything starts from, unless there is a fault: the main file has
to be there and whole and to call a module, and the inherited file has to be
readable if it is there. -/
def start? (options : Options) (main inherited : Except Fault Text) :
    Except Fault (TextFile × Option TextFile) := do
  let text ← main
  let file : TextFile :=
    { path := options.mainPath, text := text, content := Content.ofText text }
  let inherited ← match inherited with
    | .ok text => pure (some {
        path := options.inheritedPath, text := text, content := Content.ofText text })
    | .error fault => if fault.isMissing then pure none else .error fault
  match file.content.unclosed with
  | some block => .error (.unclosed block options.mainPath)
  | none =>
    if file.content.callSites.isEmpty then .error (.noCallSite options.mainPath)
    else .ok (file, inherited)

variable {m : Type → Type} [Monad m]

/-- Look for the module of a call site. -/
def visitModule (disk : Disk m) (options : Options) (site : CallSite) : m ModuleVisit := do
  match options.resolver.resolve? site.name site.source with
  | none => return { name := site.name, source := site.source, folder := none }
  | some folder =>
    let visit ← FolderVisit.take disk folder options.settings.fileBeginning
    return { name := site.name, source := site.source, folder := some (folder, visit) }

/-- Read everything from disk. -/
def take (disk : Disk m) (options : Options) : m Survey := do
  let main ← File.text disk options.mainPath
  let inherited ← File.text disk options.inheritedPath
  let modules ← match start? options main inherited with
    | .error _ => pure []
    | .ok (file, _) => file.content.callSites.values.mapM (visitModule disk options)
  return { options := options, main := main, inherited := inherited, modules := modules }

/-- The project, or the first fault. -/
def project? (s : Survey) : Except Fault Project := do
  let (main, inherited) ← start? s.options s.main s.inherited
  let files ← s.modules.mapM fun v => do
    return (v.name, ← v.files? s.options.inheritedPath)
  return {
    main := main
    inheritedPath := s.options.inheritedPath
    inherited := inherited
    folders := .ofList (s.modules.map fun v => (v.name, v.folder.map Prod.fst))
    files := .ofList files }

/-! ## The report -/

/-- The ends of call sites that a reading passed. -/
def endedEvents (r : Reading) : List Event :=
  r.callSites.reverse.map fun site => .callSiteEnded site.name site.settings.size

/-- What is reported of reading the main file or the inherited file. -/
def textEvents (path : Path) (text : Text) : List Event :=
  let (r, kept) := Reading.ofText text
  let content := r.content kept
  endedEvents r ++ [.fileRead path content.callSites.size content.declarations.size]

/-- What is reported of reading a variable file. -/
def fileEvents (v : FileVisit) : List Event :=
  endedEvents v.visit.state ++
    match v.visit.content? with
    | .error _ => []
    | .ok content =>
      .variableFileRead v.path content.callSites.size content.declarations.size ::
        content.unclosed.toList.map (.variableFileMalformed v.path)

/-- What is reported of looking for a module. -/
def moduleEvents (inheritedPath : Path) (v : ModuleVisit) : List Event :=
  match v.folder with
  | none => [.sourceUnavailable v.name v.source]
  | some (folder, visit) =>
    visit.files.flatMap fileEvents ++
      match visit.files?, v.files? inheritedPath with
      | .ok _, .ok files => [.variableFilesLoaded v.name folder files.length]
      | .error fault, _ => if fault.isMissing then [.folderMissing v.name folder] else []
      | _, _ => []

/-- What is reported of a survey. -/
def events (s : Survey) : List Event :=
  (match s.main with
    | .ok text => textEvents s.options.mainPath text
    | .error _ => []) ++
  (match s.inherited with
    | .ok text => textEvents s.options.inheritedPath text
    | .error fault => if fault.isMissing then [.fileMissing s.options.inheritedPath] else []) ++
  s.modules.flatMap (moduleEvents s.options.inheritedPath)

end Survey

variable {m : Type → Type} [Monad m]

/-- The project with the given options. -/
def Project.scan (disk : Disk m) (options : Options) : m (Except Fault Project) := do
  return (← Survey.take disk options).project?

/-- The project at a root, with the settings found there. -/
def Project.scanRoot (disk : Disk m) (root : Path) : m (Except Fault Project) := do
  match ← Settings.load disk root with
  | .error fault => return .error fault
  | .ok none => Project.scan disk { root := root }
  | .ok (some file) => Project.scan disk { root := root, settings := file.settings }

end ModuleWiring

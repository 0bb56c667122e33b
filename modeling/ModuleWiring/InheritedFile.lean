/-
The inherited file, which declares at the call sites' side the variables that
the call sites use.

A variable of a module is inherited when the main file refers to it or when the
call site passes it through.  It is declared once, in the section of the first
variable file that declares it, unless the main file declares it itself.  A
declaration of the previous inherited file that is marked as an override takes
the place of the module's own.

* `InheritedFile.isInherited` — which variables;
* `InheritedFile.sections` — in which sections;
* `InheritedFile.render` — the text.
-/
import ModuleWiring.Page
import ModuleWiring.VariableFile

namespace ModuleWiring.InheritedFile

/-- Whether a variable of the module that `site` calls is to be declared. -/
def isInherited (main : Content) (site : CallSite) (name : Text) : Bool :=
  main.references.contains name || !(site.settings.contains name || site.reserved.contains name)

/-- The declarations taken from one variable file. -/
structure Section where
  site : CallSite
  file : VariableFile
  declarations : List Declaration

/-- The call sites of a main file with each of the variable files of their modules. -/
def sources (main : Content) (files : ModuleFiles) : List (CallSite × VariableFile) :=
  main.callSites.values.flatMap fun site => (files.of site.name).map fun file => (site, file)

/-- The declarations of a file that are inherited and not `declared` yet. -/
def undeclared (main : Content) (declared : List Text) (site : CallSite) (file : VariableFile) :
    List Declaration :=
  file.content.declarations.values.filter fun d =>
    isInherited main site d.name && !declared.contains d.name

/-- The sections of the files that are left. -/
def sectionsFrom (main : Content) :
    (declared : List Text) → List (CallSite × VariableFile) → List Section
  | _, [] => []
  | declared, (site, file) :: rest =>
    let ds := undeclared main declared site file
    let others := sectionsFrom main (declared ++ ds.map Declaration.name) rest
    if ds.isEmpty then others else { site := site, file := file, declarations := ds } :: others

/-- The sections of the inherited file. -/
def sections (main : Content) (files : ModuleFiles) : List Section :=
  sectionsFrom main main.declarations.keys (sources main files)

/-- A text without the steps `./` it begins with. -/
def withoutHere : Text → Text
  | '.' :: '/' :: t => withoutHere t
  | t => t

/-- Where a file of a module is, as seen from the call site. -/
def sourcePath (source name : Text) : Text :=
  let folder := withoutHere (source.reverse.dropWhile (· == '/')).reverse
  if folder.isEmpty || folder == ['.'] then name else folder ++ '/' :: name

/-- The label of a section. -/
def Section.heading (s : Section) : Text :=
  labelMark ++ " MODULE ".toList ++ s.site.name ++ " FILE ".toList ++
    sourcePath s.site.source s.file.name

/-- The lines of a declaration. -/
def declarationPage (d : Declaration) : Page :=
  let opening := BlockKind.declaration.keyword ++ " \"".toList ++ d.name ++ "\" \x7b".toList
  if d.body.isEmpty then [.line (opening ++ ['\x7d'])]
  else .line opening :: d.body.map .line ++ [.line ['\x7d']]

/-- The declaration that takes the place of the module's own. -/
def override? (previous : Option Content) (name : Text) : Option Declaration :=
  (previous.bind fun c => c.declarations.get? name).filter Declaration.isOverride

/-- The lines of a declaration or of what takes its place. -/
def inheritedPage (previous : Option Content) (d : Declaration) : Page :=
  match override? previous d.name with
  | some o => .line overrideMark :: declarationPage o
  | none => declarationPage d

/-- Pages with a gap between them. -/
def spaced (pages : List Page) : Page :=
  (pages.intersperse [.gap]).flatten

/-- The lines of a section. -/
def Section.page (previous : Option Content) (s : Section) : Page :=
  .line s.heading :: spaced (s.declarations.map (inheritedPage previous))

/-- The inherited file as a page. -/
def page (main : Content) (previous : Option Content) (files : ModuleFiles) : Page :=
  spaced ((sections main files).map (Section.page previous))

/-- The text of the inherited file. -/
def render (main : Content) (previous : Option Content) (files : ModuleFiles) : Text :=
  (page main previous files).render

end ModuleWiring.InheritedFile

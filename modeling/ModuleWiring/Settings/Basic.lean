/-
Settings of a project, and the paths that follow from them.

Every setting has a usual value.  The main file, the inherited file and the
folders set by name are seen from the root of the project; module sources are
seen from the folder of the main file.
-/
import ModuleWiring.Source

namespace ModuleWiring

/-- What a settings file can say. -/
structure Settings where
  /-- The file with the call sites. -/
  mainFile : Path := ⟨"main.tf".toList⟩
  /-- The file with the inherited declarations. -/
  inheritedFile : Path := ⟨"variables-inherited.tf".toList⟩
  /-- What the names of variable files begin with. -/
  fileBeginning : Text := "variables".toList
  /-- The folders of modules, by name. -/
  sources : OrderedMap Path := .empty

/-- The settings of a project at a root. -/
structure Options where
  root : Path
  settings : Settings := {}

namespace Options

/-- The path of the main file. -/
def mainPath (o : Options) : Path :=
  o.root.join o.settings.mainFile

/-- The path of the inherited file. -/
def inheritedPath (o : Options) : Path :=
  o.root.join o.settings.inheritedFile

/-- The folder from which module sources are seen. -/
def moduleRoot (o : Options) : Path :=
  o.mainPath.parent?.getD o.root

/-- How module folders are found.  A folder set by name is put behind the root before
it is seen from the folder of the main file. -/
def resolver (o : Options) : Resolver where
  root := o.moduleRoot
  folders := o.settings.sources.mapValues fun folder => o.root.join folder

end Options

end ModuleWiring

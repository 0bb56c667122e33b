/-
Where the source of a module is.

A source is local when it is written as a path from the folder of the call site:
a dot or two, perhaps followed by more.  A folder that is set for a module by
name goes before its source.  Nothing is ever fetched.
-/
import ModuleWiring.OrderedMap
import ModuleWiring.Path

namespace ModuleWiring

/-- Whether a source is a path on disk, and no address of a registry or a server. -/
def isLocalSource (source : Text) : Bool :=
  source == ".".toList || source == "..".toList ||
    "./".toList.isPrefixOf source || "../".toList.isPrefixOf source

/-- What it takes to find the folder of a module. -/
structure Resolver where
  /-- The folder from which paths are seen. -/
  root : Path
  /-- The folders set by name. -/
  folders : OrderedMap Path := .empty

namespace Resolver

/-- Set the folders of some modules; the last one set for a name counts. -/
def withFolders (r : Resolver) (folders : List (Text × Path)) : Resolver :=
  { r with folders := r.folders.insertAll folders }

/-- The folder of the module `name` with the given source, if it is on disk. -/
def resolve? (r : Resolver) (name source : Text) : Option Path :=
  match r.folders.get? name with
  | some folder => some (r.root.join folder)
  | none => if isLocalSource source then some (r.root.join ⟨source⟩) else none

end Resolver

end ModuleWiring

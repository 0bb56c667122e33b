/-
What the command line says of a project.

Reports are texts.  Paths in them are seen from the root of the project, and
parts of them have colours where colours are wanted.

* `Report.check`, `Report.checkJson` — files that are not as they should be;
* `Report.dryRun`, `Report.written` — files that would be or were written;
* `Report.modules` — the modules of a project.
-/
import ModuleWiring.Project.Update
import ModuleWiring.Text.Diff
import ModuleWiring.Text.Json

namespace ModuleWiring

/-- A way to set a text off. -/
inductive TextStyle where
  | red
  | green
  | yellow
  | bold
deriving DecidableEq

namespace TextStyle

/-- What switches a style on. -/
def opening : TextStyle → Text
  | red => "\x1b[31m".toList
  | green => "\x1b[32m".toList
  | yellow => "\x1b[33m".toList
  | bold => "\x1b[1m".toList

/-- What switches a style off. -/
def closing : TextStyle → Text
  | bold => "\x1b[0m".toList
  | _ => "\x1b[39m".toList

end TextStyle

namespace Report

/-- A text in a style, where colours are wanted. -/
def styled (color : Bool) (style : TextStyle) (t : Text) : Text :=
  if color then style.opening ++ t ++ style.closing else t

/-- A path as seen from the root of the project. -/
def relative (root path : Path) : Text :=
  ((path.relativeTo? root).getD path).text

/-- A line of a diff with a line end, which the last line of a text may lack. -/
def ended (line : Text) : Text :=
  if line.getLast? = some '\n' || line.getLast? = some '\r' then line else line ++ ['\n']

/-- A line of a diff. -/
def change (color : Bool) : LineChange → Text
  | .keep line => "   ".toList ++ ended line
  | .delete line => "  ".toList ++ styled color .red ('-' :: ended line)
  | .insert line => "  ".toList ++ styled color .green ('+' :: ended line)

/-- The diff from what is on disk to what should be there. -/
def diff (color : Bool) (f : GeneratedFile) : Text :=
  (Diff.between (f.current.getD []) f.content).flatMap (change color)

/-- A file that is not as it should be. -/
def stale (color showDiff : Bool) (root : Path) (f : GeneratedFile) : Text :=
  "  ".toList ++ relative root f.path ++
    (if f.current.isSome then [] else " (missing)".toList) ++ ['\n'] ++
    (if showDiff then diff color f else [])

/-- The report of a check that fails. -/
def check (color showDiff : Bool) (root : Path) (files : List GeneratedFile) : Text :=
  "Check failed.\n\nStale files:\n".toList ++ files.flatMap (stale color showDiff root) ++ ['\n'] ++
    styled color .red (Text.ofNat files.length ++
      " file(s) are out of date. Run `tfinherit update` to regenerate them.".toList) ++ ['\n']

/-- The report of a check that passes. -/
def checkPassed : Text :=
  "Check passed: all files are up to date.\n".toList

/-- A file that is not as it should be, as a value. -/
def staleJson (root : Path) (f : GeneratedFile) : JsonValue :=
  .object [
    ("current".toList, match f.current with
      | some current => .string current
      | none => .null),
    ("exists".toList, .bool f.current.isSome),
    ("expected".toList, .string f.content),
    ("file".toList, .string (relative root f.path))]

/-- The report of a check as a value. -/
def checkJson (root : Path) (files : List GeneratedFile) : Text :=
  (JsonValue.object [
    ("ok".toList, .bool files.isEmpty),
    ("stale".toList, .array (files.map (staleJson root)))]).text ++ ['\n']

/-- The report of an update that has nothing to write. -/
def upToDate : Text :=
  "All files are already up to date.\n".toList

/-- The report of what an update would write. -/
def dryRun (root : Path) (files : List GeneratedFile) : Text :=
  "Dry run: would write ".toList ++ Text.ofNat files.length ++ " file(s):\n".toList ++
    files.flatMap fun f => "  ".toList ++ relative root f.path ++ ['\n']

/-- The report of what an update wrote. -/
def written (root inheritedPath : Path) (files : List GeneratedFile) : Text :=
  files.flatMap fun f =>
    (if f.path.sameAs inheritedPath then "Generated ".toList else "Updated ".toList) ++
      relative root f.path ++ ['\n']

/-- A variable file of a module. -/
def variableFile (f : VariableFile) : Text :=
  "    ".toList ++ f.name ++ " (".toList ++ Text.ofNat f.content.declarations.size ++
    " variable(s))\n".toList

/-- A module: where it is, its variable files, and how many values its call site sets. -/
def callSite (color : Bool) (root : Path) (p : Project) (site : CallSite) : Text :=
  let folder := match (p.folders.get? site.name).join with
    | some folder => relative root folder
    | none => styled color .yellow "not available locally".toList
  "  ".toList ++ site.name ++ " \"".toList ++ site.source ++ "\" -> ".toList ++ folder ++ ['\n'] ++
    (p.files.of site.name).flatMap variableFile ++
    "    ".toList ++ Text.ofNat site.settings.size ++ " value(s) set in the module block\n".toList

/-- The modules of a project. -/
def modules (color : Bool) (root : Path) (p : Project) : Text :=
  let sites := p.main.content.callSites.values
  let fileCount := (sites.flatMap fun site => p.files.of site.name).length
  styled color .bold "Modules:".toList ++ ['\n'] ++ sites.flatMap (callSite color root p) ++
    '\n' :: Text.ofNat sites.length ++ " module(s), ".toList ++ Text.ofNat fileCount ++
    " variable file(s)\n".toList

/-- The report of a fault while watching. -/
def failure (color : Bool) (fault : Fault) : Text :=
  styled color .red "error:".toList ++ ' ' :: fault.message ++ ['\n']

/-- The report of a fault that ends the program. -/
def fault (f : Fault) : Text :=
  f.code ++ "\n\n  ".toList ++ f.message ++ ['\n'] ++
    match f.hint? with
    | some hint => "  help: ".toList ++ hint ++ ['\n']
    | none => []

end Report

end ModuleWiring

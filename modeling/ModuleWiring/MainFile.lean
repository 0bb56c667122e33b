/-
The main file, which holds the call sites.

Its lines are written again as they are, and behind the last line of each call
site stand the site's assignments.
-/
import ModuleWiring.Assignment

namespace ModuleWiring.MainFile

/-- The call site that ends behind a line. -/
def endingCallSite? (main : Content) (l : Line) : Option CallSite :=
  match l.closes with
  | none => none
  | some e =>
    match main.block? e.kind e.name with
    | some (.callSite site) => some site
    | _ => none

/-- The items of a line and of the assignments behind it. -/
def linePage (main : Content) (files : ModuleFiles) (l : Line) : Page :=
  .line l.text ::
    match endingCallSite? main l with
    | some site => site.page (files.of site.name)
    | none => []

/-- The main file as a page. -/
def page (main : Content) (files : ModuleFiles) : Page :=
  main.lines.flatMap (linePage main files)

/-- The text of the main file. -/
def render (main : Content) (files : ModuleFiles) : Text :=
  (page main files).render

end ModuleWiring.MainFile

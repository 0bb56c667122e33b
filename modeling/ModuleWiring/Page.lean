/-
Pages, the layout of the files this library writes.

A page is a row of items: lines, and gaps where one blank line should be.  A gap
behind a blank line adds nothing, so gaps never stack, and no line ends in
blanks.

* `Page.layout` — the lines of a page;
* `Page.render` — its text.
-/
import ModuleWiring.Text.Blank
import ModuleWiring.Text.Lines

namespace ModuleWiring

/-- One item of a page. -/
inductive PageItem where
  | line (text : Text)
  /-- A blank line, unless one has just been written. -/
  | gap
deriving DecidableEq

/-- A page. -/
abbrev Page := List PageItem

namespace Page

/-- The lines of the items behind a line; `afterBlank` tells whether it is blank. -/
def layoutFrom : (afterBlank : Bool) → Page → List Text
  | _, [] => []
  | _, .line t :: items => Text.trimEnd t :: layoutFrom (Text.trimEnd t).isEmpty items
  | true, .gap :: items => layoutFrom true items
  | false, .gap :: items => [] :: layoutFrom true items

/-- The lines of a page. -/
def layout (page : Page) : List Text :=
  layoutFrom false page

/-- The text of a page. -/
def render (page : Page) : Text :=
  Text.ofLines page.layout

end Page

end ModuleWiring

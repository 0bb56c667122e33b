/-
Reading the content of a configuration file.

A reading goes through a text line by line and is always in one of three places:
outside of blocks, in a call site, or in a declaration.  The lines that the
library writes itself, assignments and labels, are not kept; what they say is
noted in the call site.  A value that goes on over several lines owns them all,
up to the line that completes it.

* `Heading.ofLine?`, `Entry.ofLine?` — what a line says outside of blocks, and in
  a call site;
* `Reading.visit` — one line;
* `Content.ofText` — a whole text.
-/
import ModuleWiring.Attribute
import ModuleWiring.Content.Basic
import ModuleWiring.OpenValue
import ModuleWiring.Reference
import ModuleWiring.Visitor

namespace ModuleWiring

/-- The lines that matter outside of blocks. -/
inductive Heading where
  /-- The mark that the next declaration keeps its value. -/
  | overrideMark
  /-- The first line of a call site. -/
  | callSite (name : Text)
  /-- The first line of a declaration. -/
  | declaration (name : Text)
  /-- A declaration with nothing in it, on one line. -/
  | emptyDeclaration (name : Text)
deriving DecidableEq

namespace Heading

/-- The name in a line that begins like `keyword "name" {`, and what stands
behind the brace. -/
def opening? (keyword line : Text) : Option (Text × Text) := do
  let rest ← Text.after? keyword line
  guard (rest.head?.any isBlankChar)
  let quoted ← Text.after? ['"'] (Text.trimStart rest)
  let (name, rest) ← Text.cut? (· == '"') quoted
  guard (!name.isEmpty)
  let rest ← Text.after? ['\x7b'] (Text.trimStart rest)
  return (name, rest)

/-- Whether a line is the override mark, with any blanks behind its `#`. -/
def isOverrideMark (line : Text) : Bool :=
  match line with
  | '#' :: rest => Text.trimStart rest == "override".toList
  | _ => false

/-- What a line says outside of blocks, if it is one that matters. -/
def ofLine? (line : Text) : Option Heading :=
  if isOverrideMark line then some .overrideMark
  else match opening? BlockKind.callSite.keyword line with
    | some (name, rest) => if rest.isEmpty then some (.callSite name) else none
    | none =>
      match opening? BlockKind.declaration.keyword line with
      | some (name, rest) =>
        if rest.isEmpty then some (.declaration name)
        else if Text.trimStart rest = ['\x7d'] then some (.emptyDeclaration name)
        else none
      | none => none

end Heading

/-- The attribute lines that matter in a call site. -/
inductive Entry where
  /-- A reserved argument, which stays where it is. -/
  | reserved (key value : Text)
  /-- An assignment to a variable of the module, which is written anew. -/
  | setting (key value : Text) (isCommented isCustom : Bool)
deriving DecidableEq

/-- What an attribute line of a call site says.  It has to be indented by two,
and its key has to be an identifier.  A reserved name with the variable of the
same name as its value is an assignment like any other. -/
def Entry.ofLine? (line : Text) : Option Entry :=
  match Attribute.ofLine? line with
  | none => none
  | some a =>
    let (isCommented, key) := uncomment a.key
    if a.indent = 2 ∧ isIdentifier key then
      let isCustom := a.value != passThrough key
      if reservedNames.contains key && isCustom then
        if isCommented then none else some (.reserved key a.value)
      else some (.setting key a.value isCommented isCustom)
    else none

/-- An assignment whose value is not complete yet. -/
structure OpenSetting where
  name : Text
  isCommented : Bool
  isCustom : Bool
  /-- The value on the line of the assignment. -/
  first : Text
  /-- The further lines, the newest first. -/
  further : List Text := []
  /-- What the value waits for. -/
  value : OpenValue
deriving DecidableEq

/-- The setting that an open assignment amounts to when it ends: its lines without
the blank ones at the end. -/
def OpenSetting.close (o : OpenSetting) : Setting where
  isCommented := o.isCommented
  isCustom := o.isCustom
  lines := o.first :: (o.further.dropWhile Text.isBlank).reverse

/-- Note a line of the value, unless it repeats a blank one. -/
def OpenSetting.push (o : OpenSetting) (line : Text) : OpenSetting :=
  if Text.isBlank line && (o.further ++ [o.first]).head?.any Text.isBlank then o
  else { o with further := line :: o.further }

/-- The part of a line that counts for the value: in a commented assignment, what
stands behind the comment marks. -/
def OpenSetting.code (o : OpenSetting) (line : Text) : Text :=
  if o.isCommented then (Text.trimStart line).dropWhile (· == '#') else line

/-- Note a setting under its name. -/
def CallSite.set (site : CallSite) (name : Text) (setting : Setting) : CallSite :=
  { site with settings := site.settings.insert name setting }

/-- Note what an assignment that ends says. -/
def CallSite.close (site : CallSite) : Option OpenSetting → CallSite
  | none => site
  | some o => site.set o.name o.close

/-- Note the variables that a value refers to; `own` is the name it is given to. -/
def CallSite.refer (site : CallSite) (own : Option Text) (names : List Text) : CallSite :=
  { site with referenced := site.referenced.insertAll (names.filter fun n => own ≠ some n) }

/-- Where a reading stands. -/
inductive Region where
  /-- Outside of blocks; `override` tells whether the override mark came last. -/
  | outside (override : Bool)
  /-- In a call site that a line opened, perhaps in the middle of a value. -/
  | callSite (site : CallSite) (line : Nat) (current : Option OpenSetting)
  /-- In a declaration that a line opened. -/
  | declaration (declaration : Declaration) (line : Nat)

/-- The state of a reading. -/
structure Reading where
  region : Region := .outside false
  /-- The number of lines read. -/
  lineCount : Nat := 0
  /-- The call sites that have ended, the newest first. -/
  callSites : List CallSite := []
  /-- The declarations that have ended, the newest first. -/
  declarations : List Declaration := []
  /-- All variables referred to so far. -/
  references : NameSet := .empty

namespace Reading

/-- Note that variables are referred to. -/
def refer (r : Reading) (names : List Text) : Reading :=
  { r with references := r.references.insertAll names }

/-- Annotate the newest kept line with the end of a block. -/
def markEnd (kind : BlockKind) (name : Text) : List Line → List Line
  | [] => []
  | l :: ls => { l with closes := some { kind := kind, name := name } } :: ls

/-- One line outside of blocks. -/
def visitOutside (r : Reading) (override : Bool) (kept : List Line) (line : Text) :
    Verdict Reading :=
  match Heading.ofLine? line with
  | some .overrideMark => ⟨{ r with region := .outside true }, kept, true⟩
  | some (.callSite name) =>
    ⟨{ r with region := .callSite { name := name } r.lineCount none }, kept, true⟩
  | some (.declaration name) =>
    ⟨{ r with region := .declaration { name := name, isOverride := override } r.lineCount },
      kept, true⟩
  | some (.emptyDeclaration name) =>
    ⟨{ r with
        region := .outside false
        declarations := { name := name, isOverride := override } :: r.declarations },
      kept, true⟩
  | none =>
    if Text.isBlank line then ⟨{ r with region := .outside override }, kept, true⟩
    else if isCommentLine line then ⟨{ r with region := .outside false }, kept, true⟩
    else ⟨{ r with region := .outside false }.refer (Text.references line), kept, true⟩

/-- The line that ends a call site.  Blank lines in front of it go; the assignments
bring their own. -/
def endCallSite (r : Reading) (site : CallSite) (kept : List Line) : Verdict Reading :=
  ⟨{ r with region := .outside false, callSites := site :: r.callSites },
    markEnd .callSite site.name (kept.dropWhile Line.isBlank), true⟩

/-- One more line of a value that is not complete. -/
def visitValue (r : Reading) (site : CallSite) (opened : Nat) (o : OpenSetting)
    (kept : List Line) (line : Text) : Verdict Reading :=
  let names := if isCommentLine line then [] else Text.references line
  let site := site.refer (some o.name) names
  let region := match o.value.afterLine? (o.code line) with
    | none => Region.callSite (site.close (o.push line)) opened none
    | some value => .callSite site opened (some { o.push line with value := value })
  ⟨{ r with region := region }.refer names, kept, false⟩

/-- A line of a call site in which no value is open. -/
def visitEntry (r : Reading) (site : CallSite) (opened : Nat) (kept : List Line)
    (line : Text) : Verdict Reading :=
  match Entry.ofLine? line with
  | some (.reserved key value) =>
    let site := { site with
      source := if key = sourceName then unquote value else site.source
      reserved := site.reserved.insert key }
    let names := Text.references value
    ⟨{ r with region := .callSite (site.refer none names) opened none }.refer names, kept, true⟩
  | some (.setting key value isCommented isCustom) =>
    let names := if isCustom && !isCommented then Text.references value else []
    let site := site.refer (some key) names
    let region :=
      if isCommented || isCustom then
        match OpenValue.ofFirstLine? value with
        | some waits =>
          Region.callSite site opened (some {
            name := key, isCommented := isCommented, isCustom := isCustom,
            first := value, value := waits })
        | none =>
          .callSite (site.set key {
            isCommented := isCommented, isCustom := isCustom, lines := [value] }) opened none
      else .callSite site opened none
    ⟨{ r with region := region }.refer names, kept, false⟩
  | none =>
    let names := if isCommentLine line then [] else Text.references line
    ⟨{ r with region := .callSite (site.refer none names) opened none }.refer names, kept, true⟩

/-- One line of a call site.  A brace that stands alone ends it, whatever was open. -/
def visitCallSite (r : Reading) (site : CallSite) (opened : Nat) (current : Option OpenSetting)
    (kept : List Line) (line : Text) : Verdict Reading :=
  if line = ['\x7d'] then r.endCallSite (site.close current) kept
  else match current with
    | some o => r.visitValue site opened o kept line
    | none => r.visitEntry site opened kept line

/-- One line of a declaration. -/
def visitDeclaration (r : Reading) (declaration : Declaration) (opened : Nat)
    (kept : List Line) (line : Text) : Verdict Reading :=
  if line = ['\x7d'] then
    ⟨{ r with region := .outside false, declarations := declaration :: r.declarations },
      markEnd .declaration declaration.name kept, true⟩
  else if Text.isBlank line then
    ⟨{ r with region := .declaration declaration opened }, kept, false⟩
  else
    ⟨{ r with
        region := .declaration { declaration with body := declaration.body ++ [line] } opened },
      kept, true⟩

/-- One line.  Labels are dropped wherever they stand, and so are blank lines behind
a blank line. -/
def visit : Visitor Reading := fun r kept line =>
  let r := { r with lineCount := r.lineCount + 1 }
  if isLabelLine line then ⟨r, kept, false⟩
  else
    let v := match r.region with
      | .outside override => r.visitOutside override kept line
      | .callSite site opened current => r.visitCallSite site opened current kept line
      | .declaration declaration opened => r.visitDeclaration declaration opened kept line
    { v with keeps := v.keeps && !(Text.isBlank line && kept.head?.any Line.isBlank) }

/-- The block that is open. -/
def unclosed (r : Reading) : Option Unclosed :=
  match r.region with
  | .outside _ => none
  | .callSite site line _ => some { kind := .callSite, name := site.name, line := line }
  | .declaration declaration line =>
    some { kind := .declaration, name := declaration.name, line := line }

/-- What is known once all lines are read; `kept` has the newest line first. -/
def content (r : Reading) (kept : List Line) : Content where
  lines := kept.reverse
  callSites := .ofList (r.callSites.reverse.map fun s => (s.name, s))
  declarations := .ofList (r.declarations.reverse.map fun d => (d.name, d))
  references := r.references
  unclosed := r.unclosed

/-- The reading of a text, with the lines it keeps, the newest first. -/
def ofText (t : Text) : Reading × List Line :=
  visit.scanText ({}, []) t

/-- The reading of a stored text, or as far as it gets. -/
def ofBytes (b : Bytes) : Except (Reading × List Line) (Reading × List Line) :=
  visit.scanBytes ({}, []) b

end Reading

/-- The content of a text.  Every text has one. -/
def Content.ofText (t : Text) : Content :=
  let (r, kept) := Reading.ofText t
  r.content kept

end ModuleWiring

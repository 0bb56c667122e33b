/-
Paths.

A path is a text that is read as a row of steps: from the root, to the folder
where one stands, up to the parent, or to an entry by name.  Slashes divide the
steps; repeated and trailing slashes count for nothing, and neither do dots
behind the first step.  The text itself is kept as it is, since it is shown.

* `Path.steps` — what a path means; two paths are the same when their steps are;
* `Path.join` — a path seen from another;
* `Path.parent?`, `Path.fileName?`, `Path.extension?`, `Path.withFileName`;
* `Path.relativeTo?` — the rest of a path below another.
-/
import ModuleWiring.Text.Basic

namespace ModuleWiring

/-- A path, as it is written. -/
structure Path where
  text : Text
deriving DecidableEq

/-- One step of a path. -/
inductive PathStep where
  /-- To the root. -/
  | root
  /-- To where one stands. -/
  | here
  /-- To the parent. -/
  | up
  /-- To the entry of this name. -/
  | entry (name : Text)
deriving DecidableEq

namespace Path

/-- The parts of a text between its slashes. -/
def segments : Text → List Text
  | [] => [[]]
  | c :: t =>
    if c = '/' then [] :: segments t
    else match segments t with
      | [] => [[c]]
      | s :: ss => (c :: s) :: ss

/-- The text with these parts between its slashes. -/
def ofSegments : List Text → Text
  | [] => []
  | [s] => s
  | s :: ss => s ++ '/' :: ofSegments ss

/-- Whether a part behind the first slash means no step. -/
def isIdle (segment : Text) : Bool :=
  segment.isEmpty || segment == ['.']

/-- The step of a part behind the first slash. -/
def step? (segment : Text) : Option PathStep :=
  if isIdle segment then none
  else if segment = ['.', '.'] then some .up
  else some (.entry segment)

/-- The step of the first part of a path; `isWhole` tells that no slash follows. -/
def firstStep? (segment : Text) (isWhole : Bool) : Option PathStep :=
  if segment.isEmpty then (if isWhole then none else some .root)
  else if segment = ['.'] then some .here
  else step? segment

/-- The steps of a path. -/
def steps (p : Path) : List PathStep :=
  match segments p.text with
  | [] => []
  | s :: ss => (firstStep? s ss.isEmpty).toList ++ ss.filterMap step?

/-- Whether a path begins at the root. -/
def isAbsolute (p : Path) : Bool :=
  p.text.head? == some '/'

/-- Whether two paths have the same steps. -/
def sameAs (p q : Path) : Bool :=
  p.steps == q.steps

/-- The path `q` seen from `p`. -/
def join (p q : Path) : Path :=
  if q.isAbsolute then q
  else if p.text.isEmpty || p.text.getLast? == some '/' then ⟨p.text ++ q.text⟩
  else ⟨p.text ++ '/' :: q.text⟩

/-- Parts without the idle ones at their end. -/
def trimIdle (ss : List Text) : List Text :=
  (ss.reverse.dropWhile isIdle).reverse

/-- The path without its last step.  The root and the empty path have none. -/
def parent? (p : Path) : Option Path :=
  match segments p.text with
  | [] => none
  | s :: ss =>
    match (trimIdle ss).reverse with
    | [] => if s.isEmpty then none else some ⟨[]⟩
    | _ :: before =>
      let before := trimIdle before.reverse
      if s.isEmpty && before.isEmpty then some ⟨['/']⟩ else some ⟨ofSegments (s :: before)⟩

/-- The name of the entry that the last step goes to. -/
def fileName? (p : Path) : Option Text :=
  match p.steps.getLast? with
  | some (.entry name) => some name
  | _ => none

/-- What follows the last dot of the file name, unless the name begins with that dot. -/
def extension? (p : Path) : Option Text := do
  let name ← p.fileName?
  let (after, before) ← Text.cut? (· == '.') name.reverse
  if before.isEmpty then none else some after.reverse

/-- The entry `name` beside the entry that the path goes to. -/
def withFileName (p : Path) (name : Text) : Path :=
  match p.fileName?, p.parent? with
  | some _, some folder => folder.join ⟨name⟩
  | _, _ => p.join ⟨name⟩

/-- Parts without the first `n` that mean a step, and without idle ones in front. -/
def dropSteps : Nat → List Text → List Text
  | _, [] => []
  | n, s :: ss =>
    if isIdle s then dropSteps n ss
    else match n with
      | 0 => s :: ss
      | n + 1 => dropSteps n ss

/-- The rest of the path below `base`, if it begins with the steps of `base`. -/
def relativeTo? (p base : Path) : Option Path :=
  if base.steps.isPrefixOf p.steps then
    match base.steps.length with
    | 0 => some p
    | n + 1 => some ⟨ofSegments (trimIdle (dropSteps n (segments p.text).tail))⟩
  else none

end Path

end ModuleWiring

/-
Going on whenever a file changes.

While it watches, the program writes the files of a project anew after every
change of a configuration file or a settings file below the root.  What it writes
itself is such a change too, so an update that writes is followed by another,
which then finds nothing to do.

* `Watch.triggers` — which changes count;
* `Watch.cycle` — one update;
* `Watch.changed` — what follows a change on a tree of files held in memory.
-/
import ModuleWiring.Command.Run
import ModuleWiring.Disk.FileTree

namespace ModuleWiring.Watch

/-- Whether a change of a file calls for an update. -/
def triggers (path : Path) : Bool :=
  path.extension? == some "tf".toList ||
    path.fileName?.any fun name => "tfinherit.toml".toList.isSuffixOf name

/-- What the program says on its two channels. -/
structure Output where
  out : Text := []
  err : Text := []

/-- One output after another. -/
def Output.append (a b : Output) : Output :=
  { out := a.out ++ b.out, err := a.err ++ b.err }

variable {m : Type → Type} [Monad m]

/-- One update after a change, and what is said of it.  A fault is reported, and
watching goes on. -/
def cycle (disk : EditableDisk m) (around : Surroundings) (i : Invocation) :
    m (Output × Outcome) := do
  let outcome ← i.updateOnce disk around false
  return ({
    out := "\nFile change detected, updating...\n".toList ++ outcome.out
    err := match outcome.fault with
      | some fault => Report.failure (i.color around) fault
      | none => [] }, outcome)

/-- Whether the file at a path is below the folder at another. -/
def isBelow (t : FileTree) (folder path : Path) : Bool :=
  match t.locate folder, t.locate path false with
  | .ok (l, _), .ok (l', _) => l.isPrefixOf l'
  | _, _ => false

/-- Updates until one writes no file that calls for another; at most `rounds`. -/
def settle (around : Surroundings) (i : Invocation) : (rounds : Nat) → StateM FileTree Output
  | 0 => pure {}
  | rounds + 1 => do
    let (output, outcome) ← cycle FileTree.editable around i
    let t ← get
    if outcome.written.any fun path => triggers path && isBelow t (i.root around) path then
      return output.append (← settle around i rounds)
    return output

/-- How many updates follow one change at most. -/
def maxRounds : Nat := 8

/-- A change: the new content of a file, or none if it is removed. -/
structure Change where
  path : Path
  content : Option Bytes

/-- Make a change.  A file with new content takes the place of what was there. -/
def Change.apply (c : Change) (t : FileTree) : FileTree :=
  match c.content with
  | none =>
    match t.remove c.path with
    | .ok t => t
    | .error _ => t
  | some content =>
    let t := t.makeParent c.path
    match t.locateParent c.path with
    | .ok (folder, .entry name) => t.set (folder ++ [name]) (.file content)
    | _ => t

/-- What follows a change. -/
def changed (around : Surroundings) (i : Invocation) (c : Change) : StateM FileTree Output := do
  modify c.apply
  let t ← get
  if c.content.isSome && triggers c.path && isBelow t (i.root around) c.path then
    settle around i maxRounds
  else return {}

end ModuleWiring.Watch

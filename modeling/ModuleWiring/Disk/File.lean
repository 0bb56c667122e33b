/-
Reading files.

A file is read as one text, or line by line by a visitor.  A file that is missing
is a fault of its own; whatever else goes wrong is a fault of the disk.  The two
ways agree: what a visitor makes of a file is what it makes of its text.
-/
import ModuleWiring.Content.Reading
import ModuleWiring.Fault

namespace ModuleWiring.File

variable {m : Type → Type} [Monad m] {σ : Type}

/-- The text that stored content is. -/
def textOf (b : Bytes) : Except Fault Text :=
  match Text.decode b with
  | none => .error (.disk .notText)
  | some t => .ok t

/-- The text of a file. -/
def text (disk : Disk m) (path : Path) : m (Except Fault Text) := do
  match ← disk.read path with
  | .error fault => return .error (.ofReading path fault)
  | .ok b => return textOf b

/-- How far a visitor came. -/
structure Visit (σ : Type) where
  state : σ
  /-- The lines kept, the newest first. -/
  kept : List Line
  /-- Why it stopped, unless it saw everything. -/
  fault : Option Fault

/-- What a visitor makes of stored content. -/
def visitBytes (visit : Visitor σ) (s : σ) (b : Bytes) : Visit σ :=
  match visit.scanBytes (s, []) b with
  | .ok (s, kept) => { state := s, kept := kept, fault := none }
  | .error (s, kept) => { state := s, kept := kept, fault := some (.disk .notText) }

/-- What a visitor makes of a file. -/
def visit (disk : Disk m) (visit : Visitor σ) (s : σ) (path : Path) : m (Visit σ) := do
  match ← disk.read path with
  | .error fault => return { state := s, kept := [], fault := some (.ofReading path fault) }
  | .ok b => return visitBytes visit s b

/-- The content that a reading came to, unless it stopped. -/
def Visit.content? (v : Visit Reading) : Except Fault Content :=
  match v.fault with
  | some fault => .error fault
  | none => .ok (v.state.content v.kept)

/-- The content of a file, read line by line. -/
def content (disk : Disk m) (path : Path) : m (Except Fault Content) := do
  return (← visit disk Reading.visit {} path).content?

/-- The visitor that keeps every line. -/
def keepAll : Visitor Unit := fun s kept _ => { state := s, kept := kept, keeps := true }

/-- The lines of a file, without blanks at their ends. -/
def lines (disk : Disk m) (path : Path) : m (Except Fault (List Line)) := do
  let v ← visit disk keepAll () path
  match v.fault with
  | some fault => return .error fault
  | none => return .ok v.kept.reverse

end ModuleWiring.File

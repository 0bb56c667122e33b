/-
Visiting a text line by line.

A visitor sees the lines of a text one after the other, without the blanks at
their ends, together with the lines kept so far, which it may still change.  It
says of each line whether to keep it.

* `Visitor.scanText` visits the lines of a text;
* `Visitor.scanBytes` visits stored lines, each read as text only when its turn
  comes, and stops at the first that stores none.
-/
import ModuleWiring.Content.Basic
import ModuleWiring.Text.Lines
import ModuleWiring.Text.Utf8

namespace ModuleWiring

/-- What a visitor makes of a line. -/
structure Verdict (σ : Type) where
  state : σ
  /-- The lines kept so far, the newest first. -/
  kept : List Line
  /-- Whether to keep this line too. -/
  keeps : Bool

/-- A visitor with states `σ`, given the lines kept so far, the newest first. -/
abbrev Visitor (σ : Type) := σ → List Line → Text → Verdict σ

namespace Visitor

variable {σ : Type}

/-- Show one line as it is. -/
def step (visit : Visitor σ) (s : σ × List Line) (line : Text) : σ × List Line :=
  let v := visit s.1 s.2 line
  (v.state, if v.keeps then { text := line } :: v.kept else v.kept)

/-- Show one physical line, without the blanks at its end. -/
def accept (visit : Visitor σ) (s : σ × List Line) (line : Text) : σ × List Line :=
  step visit s (Text.trimEnd line)

/-- Show the lines of a text. -/
def scanText (visit : Visitor σ) (s : σ × List Line) (t : Text) : σ × List Line :=
  t.lines.foldl visit.accept s

/-- Show stored lines; on the first that stores no text, give up with what was
reached before it. -/
def acceptAll (visit : Visitor σ) :
    σ × List Line → List Bytes → Except (σ × List Line) (σ × List Line)
  | s, [] => .ok s
  | s, b :: bs =>
    match Text.decode b with
    | none => .error s
    | some line => acceptAll visit (visit.accept s line) bs

/-- Show the lines of a stored text. -/
def scanBytes (visit : Visitor σ) (s : σ × List Line) (b : Bytes) :
    Except (σ × List Line) (σ × List Line) :=
  acceptAll visit s (pieces 0x0a b)

end Visitor

end ModuleWiring

/-
Which events are shown.

A filter is a row of directives.  Of the directives that apply to an event the most
specific one decides, by its level; an event to which none applies is hidden.

* `LogFilter.shows` — whether an event is shown;
* `LogFilter.ofText?` — the filter that a text describes.
-/
import ModuleWiring.Log.Directive
import ModuleWiring.Text.Lines

namespace ModuleWiring

/-- A row of directives that decide about events. -/
abbrev LogFilter := List LogDirective

namespace LogFilter

/-- The more specific of two directives for the same event, the first being the older. -/
def better (older newer : LogDirective) : LogDirective :=
  if older.yields newer then newer else older

/-- The directive that decides on an event. -/
def deciding? (f : LogFilter) (e : Event) : Option LogDirective :=
  match f.filter fun d => d.applies e with
  | [] => none
  | d :: ds => some (ds.foldl better d)

/-- Whether an event is shown. -/
def shows (f : LogFilter) (e : Event) : Bool :=
  match deciding? f e with
  | none => false
  | some d => e.level.rank ≤ d.threshold

/-- The filter that shows all events up to a level. -/
def upTo (level : LogLevel) : LogFilter :=
  [{ threshold := level.rank }]

/-- The parts of a text between commas, less the empty ones. -/
def between (t : Text) : List Text :=
  (pieces ',' t).filter fun piece => !piece.isEmpty

/-- The filter that a text describes: directives divided by commas.  One that cannot be
understood spoils the filter; those that decide about no event are left out. -/
def ofText? (t : Text) : Option LogFilter :=
  ((between t).mapM LogDirective.ofText?).map fun ds => ds.filter LogDirective.isForEvents

/-- The filter to use: the one described, if it can be understood, or else warnings
only, with details if asked for. -/
def choose (description : Option Text) (verbose : Bool) : LogFilter :=
  (description.bind ofText?).getD (upTo (if verbose then .debug else .warn))

/-- The log lines of the events that are shown. -/
def lines (f : LogFilter) (events : List Event) : List Text :=
  (events.filter (shows f)).map Event.line

end LogFilter

end ModuleWiring

import AuditLabels.Log.Filter
import AuditLabels.Log.Line

/-!
# Setting up the log

A process has one log.  It is set up from a preset and from a text that may say what is logged, and
whoever sets it up again is told that it is there already.
-/

namespace AuditLabels.Log

/-- What is logged, and how it is written. -/
structure Logger where
  layer : Layer
  filter : Filter
  deriving DecidableEq, Repr

namespace Logger

/-- The lines of the events that the filter admits. -/
def lines (l : Logger) (events : List Event) : List Line :=
  (events.filter l.filter.admits).map (Event.line l.layer)

/-- Nothing is written about events that the filter does not admit. -/
theorem lines_eq_nil_iff (l : Logger) (events : List Event) :
    l.lines events = [] ↔ ∀ e ∈ events, l.filter.admits e = false := by
  simp [lines]

end Logger

/-- Why a log is not set up. -/
inductive SetupError where
  | alreadyInitialized
  deriving DecidableEq, Repr

/-- The message about a log that is not set up. -/
def SetupError.message : SetupError → String
  | alreadyInitialized => "Tracing subscriber already initialized"

/-- Set up the log of a process that may have one. -/
def setUp (logger? : Option Logger) (text? : Option String) (p : Preset) :
    Except SetupError Logger :=
  match logger? with
  | none => .ok ⟨p.layer, .ofText? text? p.level⟩
  | some _ => .error .alreadyInitialized

end AuditLabels.Log

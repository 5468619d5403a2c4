import AuditLabels.Json.Value

/-!
# Log entries

What the service tells about its work.  An event happens at a point in time; a span is opened around
the work on a request.
-/

namespace AuditLabels.Log

/-- How important an entry is, the most important first. -/
inductive Level where
  | error | warn | info | debug | trace
  deriving DecidableEq, Repr

namespace Level

/-- The name of a level. -/
def name : Level → String
  | error => "ERROR"
  | warn => "WARN"
  | info => "INFO"
  | debug => "DEBUG"
  | trace => "TRACE"

/-- The place of a level, counted from one. -/
def rank : Level → Nat
  | error => 1
  | warn => 2
  | info => 3
  | debug => 4
  | trace => 5

end Level

/-- Named values of an entry. -/
abbrev Fields : Type := List (String × Json)

/-- An event of a part of the program, the `target`. -/
structure Event where
  level : Level
  target : String
  message : String
  fields : Fields

/-- A span around the work on a request. -/
structure Span where
  level : Level
  name : String
  fields : Fields

/-- An event or the opening of a span. -/
inductive Entry where
  | event (e : Event)
  | span (s : Span)

end AuditLabels.Log

import AuditLabels.Config.Environment
import AuditLabels.Log.Entry

/-!
# Log presets

How the log is written in each environment, and the layer that writes it so.
-/

namespace AuditLabels.Log

/-- How the log is written. -/
structure Preset where
  /-- Entries up to this level are written, unless a filter says otherwise. -/
  level : Level
  /-- Entries are written as JSON. -/
  json : Bool
  /-- The opening and closing of spans is written. -/
  spanEvents : Bool
  /-- The place in the program is written. -/
  fileLine : Bool
  /-- The name of the thread is written. -/
  threadNames : Bool
  deriving DecidableEq, Repr

/-- What is written about a span. -/
inductive SpanMark where
  | opened | closed
  deriving DecidableEq, Repr

/-- A layer writes entries.  Which thread an entry is from, and which place in the program, is
stamped on its line. -/
structure Layer where
  json : Bool
  file : Bool
  lineNumber : Bool
  threadName : Bool
  spanMarks : List SpanMark
  deriving DecidableEq, Repr

namespace Preset

/-- Plain lines for people. -/
def plain : Preset := ⟨.info, false, false, true, false⟩

/-- Everything that helps to find a mistake. -/
def development : Preset := ⟨.debug, false, true, true, true⟩

/-- Lines for machines. -/
def production : Preset := ⟨.info, true, false, false, false⟩

/-- The preset of an environment. -/
def ofEnvironment : Environment → Preset
  | .development => development
  | .staging => plain
  | .production => production

/-- What is written about spans. -/
def spanMarks (p : Preset) : List SpanMark := if p.spanEvents then [.opened, .closed] else []

/-- The layer that writes as a preset says. -/
def layer (p : Preset) : Layer := ⟨p.json, p.fileLine, p.fileLine, p.threadNames, p.spanMarks⟩

end Preset

end AuditLabels.Log

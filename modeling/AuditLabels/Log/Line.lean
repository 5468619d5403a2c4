import AuditLabels.Log.Preset

/-!
# Log lines

How an event is written: as an object for machines, or as a line for people.  The time, the thread
and the place in the program are stamped on a line when it is printed; they are no part of it here.
-/

namespace AuditLabels.Log

/-- A written event. -/
inductive Line where
  | object (v : Json)
  | plain (s : String)

namespace Line

/-- The text of a line. -/
def text : Line → String
  | object v => v.render
  | plain s => s

end Line

/-- A field in a line for people. -/
def fieldText (field : String × Json) : String :=
  " " ++ field.1 ++ "=" ++ match field.2 with
    | .text s => s
    | v => v.render

namespace Event

/-- An event for machines. -/
def json (e : Event) : Json :=
  .object
    [("level", .text e.level.name),
     ("fields", .object (("message", .text e.message) :: e.fields)),
     ("target", .text e.target)]

/-- An event for people. -/
def plain (e : Event) : String :=
  e.level.name ++ " " ++ e.target ++ ": " ++ e.message ++ String.join (e.fields.map fieldText)

/-- An event as a layer writes it. -/
def line (l : Layer) (e : Event) : Line := if l.json then .object e.json else .plain e.plain

end Event

end AuditLabels.Log

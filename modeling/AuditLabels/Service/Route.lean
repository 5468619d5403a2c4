import AuditLabels.Http.Message
import AuditLabels.Text.Blank

/-!
# Routes

Which paths the service knows.  Paths are compared segment by segment as they are written; the
segments that name a namespace or a code are decoded only when they are read.
-/

namespace AuditLabels

/-- What is looked up. -/
inductive Lookup where
  | batch
  | catalog (space : List Char)
  | label (space code : List Char)
  deriving DecidableEq, Repr

namespace Lookup

/-- The methods of a lookup, as the `allow` header lists them. -/
def allowed : Lookup → String
  | batch => "POST"
  | catalog _ | label .. => "GET,HEAD"

/-- The lookup is done by this method. -/
def serves (l : Lookup) (m : Http.Method) : Bool :=
  match l with
  | batch => m = .post
  | catalog _ | label .. => m = .get || m = .head

end Lookup

/-- What a path leads to. -/
inductive Route where
  | health
  | lookup (l : Lookup)
  deriving DecidableEq, Repr

namespace Route

/-- The segments in front of the ones of a lookup. -/
def base : List (List Char) := ["", "api", "v1", "audit-labels"].map String.toList

/-- The path of the health check. -/
def healthPath : List Char := "/health".toList

/-- What the segments behind the base ask for.  The last one is never empty. -/
def ofSegments? : List (List Char) → Option Lookup
  | [] => some .batch
  | [space] => if space.isEmpty then none else some (.catalog space)
  | [space, code] => if code.isEmpty then none else some (.label space code)
  | _ => none

/-- What a path leads to, if it leads anywhere. -/
def ofPath? (path : List Char) : Option Route :=
  if path = healthPath then some .health
  else
    let segments := Text.split '/' path
    if segments.take base.length = base then (ofSegments? (segments.drop base.length)).map .lookup
    else none

end Route

end AuditLabels

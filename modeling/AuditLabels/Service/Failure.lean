import AuditLabels.Http.Message
import AuditLabels.Log.Entry
import AuditLabels.RateLimit.Bucket
import AuditLabels.Wire.Labels

/-!
# Failures

Why a request is not answered as asked, or the service not started.  Each failure has a status, a
code for programs and a message for people, and is told in one envelope.  Failures that are the
service's own fault are logged.
-/

namespace AuditLabels

/-- Why something is not done. -/
inductive Failure where
  | rateLimited
  | configuration (reason : String)
  | internal
  | unknownNamespace (e : UnknownNamespace)
  | invalidPath (reason : String)
  | invalidBody (reason : String)
  | tooLong (lists : List BatchRequest.Excess)
  deriving DecidableEq, Repr

namespace Failure

/-- Of the reasons of the rate limit, only an empty bucket is the client's. -/
def ofRefusal : Refusal → Failure
  | .spent => rateLimited
  | .anonymous | .other => internal

/-- The status of the answer. -/
def status : Failure → Nat
  | rateLimited => 429
  | configuration _ | internal => 500
  | unknownNamespace _ | invalidPath _ | invalidBody _ | tooLong _ => 400

/-- The code for programs. -/
def code : Failure → String
  | rateLimited => "RATE_LIMIT_EXCEEDED"
  | configuration _ => "CONFIG_ERROR"
  | internal => "INTERNAL_ERROR"
  | unknownNamespace _ => "INVALID_NAMESPACE"
  | invalidPath _ => "INVALID_PATH_PARAMETER"
  | invalidBody _ => "INVALID_BODY"
  | tooLong _ => "VALIDATION_ERROR"

/-- A line of the message for each list that is too long. -/
def excessLines (lists : List BatchRequest.Excess) : String :=
  String.intercalate "\n" (lists.map fun e => e.field ++ ": " ++ e.message)

/-- The message for people. -/
def message : Failure → String
  | rateLimited => "Rate limit exceeded"
  | configuration reason => "Configuration error: " ++ reason
  | internal => "Internal server error"
  | unknownNamespace e => e.message
  | invalidPath reason => "Invalid path parameter: " ++ reason
  | invalidBody reason => "Invalid request body: " ++ reason
  | tooLong lists => "Validation error: " ++ excessLines lists

/-- What a program may want to know beyond the code. -/
def details? : Failure → Option Json
  | tooLong lists => some (Wire.excessesJson lists)
  | _ => none

/-- The envelope in which a failure is told. -/
def envelope (f : Failure) : Json :=
  let details := match f.details? with
    | some d => [("details", d)]
    | none => []
  .object [("error", .object ([("code", .text f.code), ("message", .text f.message)] ++ details))]

/-- The answer that tells a failure. -/
def answer (f : Failure) : Http.Answer := .json f.status f.envelope

/-- The service's own faults are logged. -/
def events (f : Failure) : List Log.Event :=
  if 500 ≤ f.status then [⟨.error, "audit_api::response", "Server error occurred", []⟩] else []

end Failure

end AuditLabels

import AuditLabels.Http.MediaType
import AuditLabels.Http.Percent
import AuditLabels.Service.Failure
import AuditLabels.Service.Route

/-!
# Queries

How a lookup is read from a request and answered.  Of two faults the one of the namespace is told
before the one of the code; a batch is refused for its media type first, then for its size, for its
text and for the length of its lists.
-/

namespace AuditLabels

/-- What a lookup yields, with what is logged about it. -/
structure Outcome where
  result : Except Failure Json
  events : List Log.Event

namespace Outcome

/-- A value about which nothing is logged. -/
def value (v : Json) : Outcome := ⟨.ok v, []⟩

/-- The outcome of a step that may fail. -/
def andThen {α : Type} (x : Except Failure α) (next : α → Outcome) : Outcome :=
  match x with
  | .ok a => next a
  | .error f => ⟨.error f, []⟩

@[simp] theorem andThen_ok {α : Type} (a : α) (next : α → Outcome) :
    andThen (.ok a) next = next a := rfl

@[simp] theorem andThen_error {α : Type} (f : Failure) (next : α → Outcome) :
    andThen (.error f) next = ⟨.error f, []⟩ := rfl

end Outcome

namespace Lookup

/-- The part of the program that logs about lookups. -/
def logTarget : String := "audit_api::handlers::labels"

/-! ## Segments of the path -/

/-- The text of a segment of the path. -/
def decodeSegment (name : String) (segment : List Char) : Except Failure String :=
  match Http.Percent.decode? segment with
  | some cs => .ok (String.ofList cs)
  | none => .error (.invalidPath ("Invalid UTF-8 in \x60" ++ name ++ "\x60"))

/-- The namespace that a segment names. -/
def readNamespace (s : String) : Except Failure Namespace :=
  match Namespace.parse s with
  | .ok ns => .ok ns
  | .error e => .error (.unknownNamespace e)

/-- The code that a segment says. -/
def readCode (s : String) : Except Failure Int :=
  match Text.int64? s.toList with
  | some n => .ok n
  | none => .error (.invalidPath "Invalid code format")

/-! ## Single labels and catalogs -/

/-- The catalog of the namespace that a segment names. -/
def listCatalog (space : List Char) : Outcome :=
  Outcome.andThen (decodeSegment "namespace" space) fun space =>
  Outcome.andThen (readNamespace space) fun ns =>
  .value (Wire.catalogJson ns)

/-- The note that a code has no label. -/
def missingLabel (ns : Namespace) (code : Int) : Log.Event :=
  ⟨.debug, logTarget, "No label for audit code",
    [("namespace", .text ns.name), ("code", .number code)]⟩

/-- The label of the code that the segments name. -/
def findLabel (space code : List Char) : Outcome :=
  Outcome.andThen (decodeSegment "namespace" space) fun space =>
  Outcome.andThen (decodeSegment "code" code) fun code =>
  Outcome.andThen (readNamespace space) fun ns =>
  Outcome.andThen (readCode code) fun code =>
    let r := ns.resolve code
    ⟨.ok (Wire.labelJson ns r), if r.known then [] else [missingLabel ns code]⟩

/-! ## Batches -/

/-- The number of bytes that the body of a request may have. -/
def maxBody : Nat := 2097152

/-- How a fault in the text of a body is told: the kind of fault, the element it is in, and the
message. -/
def faultText (f : Json.Fault) (body : List UInt8) : String :=
  (if f.cause.isData then "Failed to deserialize the JSON body into the target type: "
    else "Failed to parse the request body as JSON: ") ++
  (if f.path.isEmpty then "" else Json.pathText f.path ++ ": ") ++ f.message body

/-- The batch request at the beginning of a body. -/
def decodeBatch (body : List UInt8) : Except Failure BatchRequest :=
  match BatchRequest.read body with
  | .ok (b, _) => .ok b
  | .error f => .error (.invalidBody (faultText f body))

/-- A batch request without lists that are too long. -/
def validate (b : BatchRequest) : Except Failure BatchRequest :=
  if b.excesses.isEmpty then .ok b else .error (.tooLong b.excesses)

/-- The batch request that a request carries. -/
def readBatch (r : Http.Request) : Except Failure BatchRequest :=
  if !Http.MediaType.saysJson r then
    .error (.invalidBody "Expected request with \x60Content-Type: application/json\x60")
  else if maxBody < r.body.length then
    .error (.invalidBody "Failed to buffer the request body: length limit exceeded")
  else do validate (← decodeBatch r.body)

/-- The note that codes of a batch have no label. -/
def missingLabels (unknown total : Nat) : Log.Event :=
  ⟨.debug, logTarget, "Batch contained audit codes without labels",
    [("unknown", .number unknown), ("total", .number total)]⟩

/-- The labels of a batch. -/
def resolveBatch (r : Http.Request) : Outcome :=
  Outcome.andThen (readBatch r) fun b =>
    let response := BatchResponse.of b
    let unknown := response.unknownCount
    ⟨.ok (Wire.batchJson response),
     if unknown = 0 then [] else [missingLabels unknown (b.actions.length + b.resources.length)]⟩

/-! ## Any lookup -/

/-- What a lookup by a method that serves it yields. -/
def perform (l : Lookup) (r : Http.Request) : Outcome :=
  match l with
  | batch => resolveBatch r
  | catalog space => listCatalog space
  | label space code => findLabel space code

end Lookup

end AuditLabels

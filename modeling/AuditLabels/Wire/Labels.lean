import AuditLabels.Batch.Response
import AuditLabels.Json.Value

/-!
# Labels in JSON

The bodies of answers that carry labels.
-/

namespace AuditLabels.Wire

/-- An entry of a catalog. -/
def entryJson (e : Entry) : Json := .object [("code", .number e.code), ("label", .text e.label)]

/-- The catalog of a namespace. -/
def catalogJson (ns : Namespace) : Json :=
  .object [("namespace", .text ns.name), ("labels", .array (ns.catalog.map entryJson))]

/-- The members that tell a resolved code. -/
def resolvedMembers (r : Resolved) : List (String × Json) :=
  [("code", .number r.code), ("label", .text r.label), ("known", .boolean r.known)]

/-- A resolved code of a batch. -/
def resolvedJson (r : Resolved) : Json := .object (resolvedMembers r)

/-- A resolved code that was asked for alone, with its namespace. -/
def labelJson (ns : Namespace) (r : Resolved) : Json :=
  .object (("namespace", .text ns.name) :: resolvedMembers r)

/-- The resolved codes of a batch. -/
def batchJson (r : BatchResponse) : Json :=
  .object
    [(BatchRequest.actionsName, .array (r.actions.map resolvedJson)),
     (BatchRequest.resourcesName, .array (r.resources.map resolvedJson))]

/-- A list that is too long, under its name. -/
def excessMember (e : BatchRequest.Excess) : String × Json :=
  (e.field, .array [.object
    [("code", .text "length"), ("message", .text e.message),
     ("params", .object
       [("max", .number BatchRequest.limit), ("value", .array (e.codes.map .number))])]])

/-- The lists of a request that are too long. -/
def excessesJson (es : List BatchRequest.Excess) : Json := .object (es.map excessMember)

end AuditLabels.Wire

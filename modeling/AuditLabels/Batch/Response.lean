import AuditLabels.Batch.Request
import AuditLabels.Label.Lookup

/-!
# Batch responses

The labels of the codes of a batch, in the order of the request and with its repetitions.
-/

namespace AuditLabels

/-- The resolved codes of a batch. -/
structure BatchResponse where
  actions : List Resolved
  resources : List Resolved
  deriving DecidableEq, Repr

namespace BatchResponse

/-- Resolve each list in its namespace. -/
def of (r : BatchRequest) : BatchResponse :=
  ⟨r.actions.map Namespace.action.resolve, r.resources.map Namespace.resource.resolve⟩

/-- The number of codes without a stored label. -/
def unknownCount (r : BatchResponse) : Nat :=
  (r.actions ++ r.resources).countP fun x => !x.known

/-- The answer has as many labels of actions as the request has codes. -/
@[simp] theorem length_actions_of (r : BatchRequest) :
    (of r).actions.length = r.actions.length := by
  simp [of]

/-- The answer has as many labels of resources as the request has codes. -/
@[simp] theorem length_resources_of (r : BatchRequest) :
    (of r).resources.length = r.resources.length := by
  simp [of]

end BatchResponse

end AuditLabels

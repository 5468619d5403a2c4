import AuditLabels.Text.Blank
import AuditLabels.Text.Lowercase

/-!
# Label namespaces

Codes of actions and codes of resources are counted apart.  A namespace says which of the two a code
belongs to; its name is read in singular or plural, in any ASCII case and with blanks around it.
-/

namespace AuditLabels

/-- Which vocabulary a code belongs to. -/
inductive Namespace where
  | action | resource
  deriving DecidableEq, Repr

/-- A text that names no namespace. -/
structure UnknownNamespace where
  text : String
  deriving DecidableEq, Repr

namespace Namespace

/-- The name of a namespace, as it is written. -/
def name : Namespace → String
  | action => "action"
  | resource => "resource"

/-- The namespace with exactly this name. -/
def ofName? (s : String) : Option Namespace :=
  if s = "action" then some action
  else if s = "resource" then some resource
  else none

/-- The namespace that a text names, leniently; a refused text is kept as it is. -/
def parse (s : String) : Except UnknownNamespace Namespace :=
  let word := String.ofList ((Text.trim s.toList).map Text.asciiLower)
  if word = "action" ∨ word = "actions" then .ok action
  else if word = "resource" ∨ word = "resources" then .ok resource
  else .error ⟨s⟩

/-- A written name is read back exactly. -/
theorem ofName?_name (ns : Namespace) : ofName? ns.name = some ns := by
  cases ns <;> decide

/-- A name is one of the texts that name it leniently. -/
theorem parse_name (ns : Namespace) : parse ns.name = .ok ns := by
  cases ns <;> rfl

end Namespace

/-- The message for a text that names no namespace quotes it untouched. -/
def UnknownNamespace.message (e : UnknownNamespace) : String :=
  "Unknown label namespace: " ++ e.text

end AuditLabels

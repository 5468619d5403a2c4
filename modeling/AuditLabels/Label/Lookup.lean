import AuditLabels.Label.Action
import AuditLabels.Label.Namespace
import AuditLabels.Text.Numeral

/-!
# Looking labels up

Every code has a label in every namespace: the stored one if the namespace knows the code, and one
that quotes the code otherwise.  The catalog of a namespace lists what it knows.
-/

namespace AuditLabels

/-! ## Catalogs -/

/-- A known code with its label. -/
structure Entry where
  code : Int
  label : String
  deriving DecidableEq, Repr

/-- The entry of a member of a vocabulary. -/
def Entry.of {α : Type} [Vocabulary α] (x : α) : Entry := ⟨Vocabulary.code x, Vocabulary.label x⟩

/-- What a namespace knows, in ascending order of codes. -/
def Namespace.catalog : Namespace → List Entry
  | .action => (Vocabulary.all : List Action).map Entry.of
  | .resource => (Vocabulary.all : List Resource).map Entry.of

/-! ## Labels of codes -/

/-- The label of a code that no member carries. -/
def unknownLabel (code : Int) : String := "Unknown (" ++ Text.ofInt code ++ ")"

/-- The stored label of a code. -/
def Namespace.label? (ns : Namespace) (code : Int) : Option String :=
  match ns with
  | .action => (Vocabulary.ofCode? code : Option Action).map Vocabulary.label
  | .resource => (Vocabulary.ofCode? code : Option Resource).map Vocabulary.label

/-- The label of a code: the stored one, or one that quotes the code. -/
def Namespace.label (ns : Namespace) (code : Int) : String :=
  (ns.label? code).getD (unknownLabel code)

/-! ## Resolved codes -/

/-- A code with its label and whether the label is a stored one. -/
structure Resolved where
  code : Int
  label : String
  known : Bool
  deriving DecidableEq, Repr

/-- Resolve a code in a namespace. -/
def Namespace.resolve (ns : Namespace) (code : Int) : Resolved :=
  match ns.label? code with
  | some label => ⟨code, label, true⟩
  | none => ⟨code, unknownLabel code, false⟩

/-- Resolving keeps the code. -/
@[simp] theorem Namespace.resolve_code (ns : Namespace) (code : Int) :
    (ns.resolve code).code = code := by
  unfold resolve
  split <;> rfl

end AuditLabels

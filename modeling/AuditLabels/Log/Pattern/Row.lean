/-!
# Nesting in patterns

A pattern is made of parts, and parts of parts.  How deep they are nested is limited, so every part
has a height: signs have none, and what is around other parts is one level above the highest of
them.
-/

namespace AuditLabels.Log.Pattern

/-- The greatest height of a pattern. -/
def heightLimit : Nat := 250

/-! ## Rows -/

/-- Parts that follow one another. -/
structure Row where
  /-- The number of parts. -/
  count : Nat
  /-- The height of the highest part. -/
  height : Nat
  deriving DecidableEq, Repr

namespace Row

/-- No parts. -/
def empty : Row := ⟨0, 0⟩

/-- One more part. -/
def push (r : Row) (height : Nat) : Row := ⟨r.count + 1, max r.height height⟩

/-- The last part has grown to a height. -/
def grow (r : Row) (height : Nat) : Row := { r with height := max r.height height }

/-- The height of the parts together.  A part alone is not nested in its row. -/
def total (r : Row) : Nat := if r.count ≤ 1 then r.height else r.height + 1

end Row

/-! ## Rows beside one another -/

/-- Rows with separators between them.  The last row may go on. -/
structure Rows where
  /-- The height of what is in front of the last row, if there is a separator. -/
  front? : Option Nat
  /-- The last row. -/
  last : Row
  deriving DecidableEq, Repr

namespace Rows

/-- One row without parts. -/
def empty : Rows := ⟨none, .empty⟩

/-- One more part in the last row. -/
def push (r : Rows) (height : Nat) : Rows := { r with last := r.last.push height }

/-- The last part of the last row has grown to a height. -/
def grow (r : Rows) (height : Nat) : Rows := { r with last := r.last.grow height }

/-- The height of the rows together.  A row alone is not nested among rows. -/
def total (r : Rows) : Nat :=
  match r.front? with
  | none => r.last.total
  | some height => max height r.last.total + 1

/-- Begin a row that is an equal of the rows in front. -/
def alternate (r : Rows) : Rows := ⟨some (max (r.front?.getD 0) r.last.total), .empty⟩

/-- Begin a row that is combined with all the rows in front together. -/
def combine (r : Rows) : Rows := ⟨some r.total, .empty⟩

/-- Equals are nested once, however many they are. -/
theorem total_alternate (r : Rows) :
    r.alternate.total = max (r.front?.getD 0) r.last.total + 1 := by
  simp [alternate, total, Row.total, Row.empty]

/-- Every combination nests once more. -/
theorem total_combine (r : Rows) : r.combine.total = r.total + 1 := by
  simp [combine, total, Row.total, Row.empty]

end Rows

end AuditLabels.Log.Pattern

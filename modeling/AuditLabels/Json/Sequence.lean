import AuditLabels.Json.Skip

/-!
# Lists

Readers for the elements of a list, with the rules for the commas between them and the bracket that
ends it.  A fault inside an element is placed in that element; a fault between two is not.
-/

namespace AuditLabels.Json

/-- Where the next element begins, or `none` at the closing bracket, which is not taken.  `first`
says that no element has been read. -/
def nextElement (first : Bool) : List UInt8 → Except Fault (Option (List UInt8)) := fun bytes =>
  match skipSpace bytes with
  | [] => .error (.here .endInList [])
  | b :: rest =>
    if b = 0x5D then .ok none
    else if first then .ok (some (b :: rest))
    else if b = 0x2C then
      match skipSpace rest with
      | [] => .error (.here .endInValue [])
      | c :: more =>
        if c = 0x5D then .error (.past .trailingComma (c :: more)) else .ok (some (c :: more))
    else .error (.past .expectedListEnd (b :: rest))

/-- The closing bracket, where no further element is asked for. -/
def closeList (bytes : List UInt8) : Except Fault (List UInt8) :=
  match skipSpace bytes with
  | [] => .error (.here .endInList [])
  | b :: rest =>
    if b = 0x5D then .ok rest
    else if b = 0x2C then
      match skipSpace rest with
      | [] => .error (.here .trailingCharacters [])
      | c :: more =>
        .error (.past (if c = 0x5D then .trailingComma else .trailingCharacters) (c :: more))
    else .error (.past .trailingCharacters (b :: rest))

/-- The elements of a list behind the ones in `acc`, which are in reverse, and the closing bracket.
Every round takes at least one byte and one item of the clock. -/
def readElements {α : Type} (read : Reader α) : List UInt8 → List α → Reader (List α)
  | [], _, _ => .error (.here .endInList [])
  | _ :: clock, acc, bytes =>
    match nextElement acc.isEmpty bytes with
    | .error f => .error f
    | .ok none => (closeList bytes).map fun rest => (acc.reverse, rest)
    | .ok (some start) =>
      match read start with
      | .error f => .error (f.within (.index acc.length))
      | .ok (x, rest) => readElements read clock (x :: acc) rest

/-- A list of elements of one kind. -/
def readList {α : Type} (read : Reader α) : Reader (List α) := fun bytes => do
  let (h, rest) ← readHead bytes
  match h, rest with
  | .list, _ :: rest => readElements read rest [] rest
  | _, _ => refuse h .sequence rest

end AuditLabels.Json

import AuditLabels.Json.Text

/-!
# The head of a value

A reader that asks for one kind of value looks at the head of what stands there: the whole value if
it is a word, a number or a string, and only the opening bracket, not yet taken, of a list or a map.
This is as much of a value of the wrong kind as is read before it is refused.
-/

namespace AuditLabels.Json

/-- The letters of a word, one by one. -/
def readWord : List UInt8 → List UInt8 → Except Fault (List UInt8)
  | [], rest => .ok rest
  | _ :: _, [] => .error (.here .endInValue [])
  | w :: ws, b :: rest => if b = w then readWord ws rest else .error (.here .expectedIdent rest)

/-- What follows the first letter of `null`. -/
def nullTail : List UInt8 := [0x75, 0x6C, 0x6C]

/-- What follows the first letter of `true`. -/
def trueTail : List UInt8 := [0x72, 0x75, 0x65]

/-- What follows the first letter of `false`. -/
def falseTail : List UInt8 := [0x61, 0x6C, 0x73, 0x65]

/-- A whole scalar, or the opening bracket of a list or a map. -/
inductive Head where
  | null
  | boolean (b : Bool)
  | number (n : Number)
  | text (s : String)
  | list
  | map
  deriving DecidableEq, Repr

/-- How a message shows a head. -/
def Head.found : Head → Found
  | null => .null
  | boolean b => .boolean b
  | number n => n.found
  | text s => .text s
  | list => .sequence
  | map => .map

/-- The head of the value that begins with the byte `b`. -/
def readHeadFrom (b : UInt8) (rest : List UInt8) : Except Fault (Head × List UInt8) :=
  if b = 0x6E then (readWord nullTail rest).map fun r => (.null, r)
  else if b = 0x74 then (readWord trueTail rest).map fun r => (.boolean true, r)
  else if b = 0x66 then (readWord falseTail rest).map fun r => (.boolean false, r)
  else if b = 0x2D then (readNumber true rest).map fun (n, r) => (.number n, r)
  else if isDigit b then (readNumber false (b :: rest)).map fun (n, r) => (.number n, r)
  else if b = 0x22 then (readText rest).map fun (s, r) => (.text s, r)
  else if b = 0x5B then .ok (.list, b :: rest)
  else if b = 0x7B then .ok (.map, b :: rest)
  else .error (.past .expectedValue (b :: rest))

/-- The head of the next value. -/
def readHead : Reader Head := fun bytes =>
  match skipSpace bytes with
  | [] => .error (.here .endInValue [])
  | b :: rest => readHeadFrom b rest

/-- A head of the wrong kind is refused behind what was read of it. -/
def refuse {α : Type} (h : Head) (expected : Expected) (rest : List UInt8) : Except Fault α :=
  .error (.here (.invalidType h.found expected) rest)

/-! ## Integers -/

/-- An integer from `low` to `high`. -/
def readInteger (expected : Expected) (low high : Int) : Reader Int := fun bytes => do
  let (h, rest) ← readHead bytes
  let inRange (n : Int) : Except Fault (Int × List UInt8) :=
    if low ≤ n ∧ n ≤ high then .ok (n, rest)
    else .error (.here (.integerOutOfRange n expected) rest)
  match h with
  | .number (.natural n) => inRange n
  | .number (.negative n) => inRange n
  | _ => refuse h expected rest

/-- An integer of 16 bits. -/
def readInt16 : Reader Int := readInteger .int16 (-0x8000) 0x7FFF

/-- An integer of 64 bits. -/
def readInt64 : Reader Int := readInteger .int64 (-0x8000000000000000) 0x7FFFFFFFFFFFFFFF

/-! ## Null -/

/-- The word `null`, where nothing else makes sense. -/
def readUnit : Reader Unit := fun bytes => do
  let (h, rest) ← readHead bytes
  match h with
  | .null => return ((), rest)
  | _ => refuse h .unit rest

/-! ## Whole texts -/

/-- Read a text that holds one value and blanks around it. -/
def readWhole {α : Type} (read : Reader α) (bytes : List UInt8) : Except Fault α := do
  let (x, rest) ← read bytes
  match skipSpace rest with
  | [] => return x
  | more => .error (.past .trailingCharacters more)

end AuditLabels.Json

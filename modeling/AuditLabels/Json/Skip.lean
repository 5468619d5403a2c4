import AuditLabels.Json.Head

/-!
# Skipping a value

A value that nobody asks for is read past, however deep it is nested.  The open brackets are kept on
a stack, and one element is begun or one bracket closed at a time.
-/

namespace AuditLabels.Json

/-- An open bracket. -/
inductive Bracket where
  | list | map
  deriving DecidableEq, Repr

namespace Bracket

/-- The byte that closes a bracket. -/
def closing : Bracket → UInt8
  | list => 0x5D
  | map => 0x7D

/-- The cause when the text ends inside the bracket. -/
def cut : Bracket → Cause
  | list => .endInList
  | map => .endInObject

/-- The cause when neither a comma nor the end follows an element. -/
def expectedEnd : Bracket → Cause
  | list => .expectedListEnd
  | map => .expectedObjectEnd

end Bracket

/-- What is behind a scalar that begins with the byte `b`. -/
def skipScalar (b : UInt8) (rest : List UInt8) : Except Fault (List UInt8) :=
  if b = 0x6E then readWord nullTail rest
  else if b = 0x74 then readWord trueTail rest
  else if b = 0x66 then readWord falseTail rest
  else if b = 0x2D then (scanNumber .invalidNumber rest).map Prod.snd
  else if isDigit b then (scanNumber .invalidNumber (b :: rest)).map Prod.snd
  else if b = 0x22 then skipText rest
  else .error (.past .expectedValue (b :: rest))

/-- The colon behind a name. -/
def skipColon (bytes : List UInt8) : Except Fault (List UInt8) :=
  match skipSpace bytes with
  | [] => .error (.here .endInObject [])
  | b :: rest => if b = 0x3A then .ok rest else .error (.past .expectedColon (b :: rest))

/-- The name of a member and the colon behind it. -/
def skipName (bytes : List UInt8) : Except Fault (List UInt8) :=
  match skipSpace bytes with
  | [] => .error (.here .endInObject [])
  | b :: rest =>
    if b = 0x22 then (skipText rest).bind skipColon
    else .error (.past .keyNotText (b :: rest))

/-- What stands before an element of a bracket: a name in a map, nothing in a list. -/
def skipLabel : Bracket → List UInt8 → Except Fault (List UInt8)
  | .list, bytes => .ok bytes
  | .map, bytes => skipName bytes

/-- What is left to do in a text: the brackets that are open, the innermost first, the bytes, and
whether the innermost bracket has just been opened. -/
structure Rest where
  first : Bool
  stack : List Bracket
  bytes : List UInt8

/-- Take the next value if it is a scalar, and otherwise its opening bracket. -/
def skipHead (stack : List Bracket) (bytes : List UInt8) : Except Fault Rest :=
  match skipSpace bytes with
  | [] => .error (.here .endInValue [])
  | b :: rest =>
    if b = 0x5B then .ok ⟨true, .list :: stack, rest⟩
    else if b = 0x7B then .ok ⟨true, .map :: stack, rest⟩
    else (skipScalar b rest).map fun rest => ⟨false, stack, rest⟩

/-- Take what stands before an element, and the head of the element. -/
def skipElement (bracket : Bracket) (stack : List Bracket) (bytes : List UInt8) :
    Except Fault Rest :=
  (skipLabel bracket bytes).bind (skipHead (bracket :: stack))

/-- Read on until every open bracket is closed.  Every round takes at least one byte and one item of
the clock. -/
def skipOpen : List UInt8 → Bool → List Bracket → List UInt8 → Except Fault (List UInt8)
  | _, _, [], bytes => .ok bytes
  | [], _, bracket :: _, _ => .error (.here bracket.cut [])
  | _ :: clock, first, bracket :: stack, bytes =>
    match skipSpace bytes with
    | [] => .error (.here bracket.cut [])
    | b :: rest =>
      if b = bracket.closing then skipOpen clock false stack rest
      else if !first && b != 0x2C then .error (.past bracket.expectedEnd (b :: rest))
      else match skipElement bracket stack (if first then b :: rest else rest) with
        | .error f => .error f
        | .ok more => skipOpen clock more.first more.stack more.bytes

/-- What is behind the next value, of whatever kind. -/
def skipValue (bytes : List UInt8) : Except Fault (List UInt8) :=
  (skipHead [] bytes).bind fun rest => skipOpen rest.bytes rest.first rest.stack rest.bytes

end AuditLabels.Json

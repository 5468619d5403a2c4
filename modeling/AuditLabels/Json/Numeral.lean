import AuditLabels.Json.Fault

/-!
# Numbers in JSON texts

A number is scanned first, into the digits before the point, behind it and in the exponent, and
evaluated afterwards.  A whole number of at most 64 bits keeps its exact value.  Every other number
is a floating-point one: as many of its digits as fit into 64 bits are kept, in reading order, and
scaled by the power of ten that the dropped digits, the point and the exponent ask for.
-/

namespace AuditLabels.Json

/-! ## Blanks and digits -/

/-- Blank, line feed, tab and carriage return. -/
def isSpace (b : UInt8) : Bool := b == 0x20 || b == 0x0A || b == 0x09 || b == 0x0D

/-- The bytes from the first one that is not blank. -/
def skipSpace (bytes : List UInt8) : List UInt8 := bytes.dropWhile isSpace

/-- An ASCII digit. -/
def isDigit (b : UInt8) : Bool := 0x30 ≤ b && b ≤ 0x39

/-- The value of an ASCII digit. -/
def digitValue (b : UInt8) : Nat := b.toNat - 0x30

/-- The digits at the front of the bytes, and the rest. -/
def spanDigits (bytes : List UInt8) : List UInt8 × List UInt8 :=
  (bytes.takeWhile isDigit, bytes.dropWhile isDigit)

/-! ## Scanning -/

/-- A number as it is written, less its sign. -/
structure NumberText where
  /-- The digits before the point. -/
  whole : List UInt8
  /-- The digits behind the point; none if there is no point. -/
  fraction : List UInt8
  /-- Whether the exponent is negative, and its digits. -/
  exponent : Option (Bool × List UInt8)
  deriving DecidableEq, Repr

/-- Whether a minus stands there, and what is behind the sign, if there is one. -/
def exponentSign : List UInt8 → Bool × List UInt8
  | [] => (false, [])
  | b :: r => if b = 0x2B then (false, r) else if b = 0x2D then (true, r) else (false, b :: r)

/-- The digits of the exponent, behind its sign. -/
def scanPower (cut : Cause) (negative : Bool) : Reader (Bool × List UInt8)
  | [] => .error (.here cut [])
  | b :: r =>
    if isDigit b then .ok ((negative, (spanDigits (b :: r)).1), (spanDigits (b :: r)).2)
    else .error (.here .invalidNumber r)

/-- The exponent behind its letter; `cut` is the cause if the text ends before a digit. -/
def scanExponent (cut : Cause) : Reader (Bool × List UInt8) := fun bytes =>
  scanPower cut (exponentSign bytes).1 (exponentSign bytes).2

/-- What may follow the digits before the exponent. -/
def scanTail (cut : Cause) (whole fraction : List UInt8) : Reader NumberText
  | [] => .ok (⟨whole, fraction, none⟩, [])
  | b :: r =>
    if b = 0x65 ∨ b = 0x45 then
      (scanExponent cut r).map fun (exponent, rest) => (⟨whole, fraction, some exponent⟩, rest)
    else .ok (⟨whole, fraction, none⟩, b :: r)

/-- The digits behind the point, and what may follow them. -/
def scanPlaces (cut : Cause) (whole : List UInt8) : Reader NumberText
  | [] => .error (.here cut [])
  | b :: r =>
    if isDigit b then scanTail cut whole (spanDigits (b :: r)).1 (spanDigits (b :: r)).2
    else .error (.here .invalidNumber r)

/-- What may follow the digits before the point. -/
def scanFraction (cut : Cause) (whole : List UInt8) : Reader NumberText
  | [] => scanTail cut whole [] []
  | b :: r => if b = 0x2E then scanPlaces cut whole r else scanTail cut whole [] (b :: r)

/-- A number without its sign: a lone zero or digits that do not begin with one, then maybe a
fraction, then maybe an exponent. -/
def scanNumber (cut : Cause) : Reader NumberText
  | [] => .error (.here cut [])
  | b :: r =>
    if b = 0x30 then
      match r with
      | d :: _ => if isDigit d then .error (.past .invalidNumber r) else scanFraction cut [b] r
      | [] => scanFraction cut [b] r
    else if isDigit b then scanFraction cut (b :: (spanDigits r).1) (spanDigits r).2
    else .error (.here .invalidNumber r)

/-! ## Evaluation -/

/-- Read digits on behind `n` as long as the value is at most `bound`; the digits that are left. -/
def keepDigits (bound n : Nat) : List UInt8 → Nat × List UInt8
  | [] => (n, [])
  | b :: r =>
    let m := 10 * n + digitValue b
    if m ≤ bound then keepDigits bound m r else (n, b :: r)

/-- The largest number of 64 bits. -/
def greatest64 : Nat := 0xFFFFFFFFFFFFFFFF

/-- The largest exponent that is computed with. -/
def greatestExponent : Nat := 0x7FFFFFFF

/-- A number that has been read: a natural one, a negative one or a floating-point one. -/
inductive Number where
  | natural (n : Nat)
  | negative (n : Int)
  | float (minus : Bool) (x : Number.Binary64)
  deriving DecidableEq, Repr

/-- How a message shows a number. -/
def Number.found : Number → Found
  | natural n => .integer n
  | negative n => .integer n
  | float minus x => .float minus x

/-- A floating-point number from its kept digits, unless it is too large. -/
def scaled (negative : Bool) (digits : Nat) (exponent : Int) (rest : List UInt8) :
    Except Fault Number :=
  match Number.Binary64.ofDecimal digits exponent with
  | some x => .ok (.float negative x)
  | none => .error (.here .numberOutOfRange rest)

namespace NumberText

/-- The value of a scanned number in front of `rest`.  A minus before a zero, or before more than
`2 ^ 63`, makes a floating-point number.  An exponent too large to compute with makes zero of a
number, unless it is positive and the digits are not all zeros; then it is refused at its first
digit too many. -/
def value (negative : Bool) (t : NumberText) (rest : List UInt8) : Except Fault Number :=
  let (n, dropped) := keepDigits greatest64 0 t.whole
  if t.fraction.isEmpty && t.exponent.isNone then
    if !dropped.isEmpty then scaled negative n dropped.length rest
    else if !negative then .ok (.natural n)
    else if 0 < n ∧ n ≤ 0x8000000000000000 then .ok (.negative (-(n : Int)))
    else scaled true n 0 rest
  else
    let (m, unused) := keepDigits greatest64 n t.fraction
    let places : Int := dropped.length - (t.fraction.length - unused.length : Nat)
    match t.exponent with
    | none => scaled negative m places rest
    | some (below, digits) =>
      match keepDigits greatestExponent 0 digits with
      | (e, []) => scaled negative m (if below then places - e else places + e) rest
      | (_, _ :: more) =>
        if m ≠ 0 ∧ !below then .error (.here .numberOutOfRange (more ++ rest))
        else .ok (.float negative .zero)

end NumberText

/-- A number, whose sign has been read. -/
def readNumber (negative : Bool) : Reader Number := fun bytes => do
  let (t, rest) ← scanNumber .endInValue bytes
  let n ← t.value negative rest
  return (n, rest)

end AuditLabels.Json

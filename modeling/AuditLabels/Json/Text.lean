import AuditLabels.Json.Numeral
import AuditLabels.Text.Utf8

/-!
# Strings in JSON texts

A string is read behind its opening quote.  Escapes are decoded, two of them for a character beyond
the first 65536, and the bytes of the result have to be UTF-8.  A string that nobody asks for is
skipped: its escapes are checked for their shape only and its bytes not at all.
-/

namespace AuditLabels.Json

/-! ## Escapes -/

/-- The character that a single letter behind a backslash stands for. -/
def shortEscape? (b : UInt8) : Option UInt8 :=
  if b = 0x22 ∨ b = 0x5C ∨ b = 0x2F then some b
  else if b = 0x62 then some 0x08
  else if b = 0x66 then some 0x0C
  else if b = 0x6E then some 0x0A
  else if b = 0x72 then some 0x0D
  else if b = 0x74 then some 0x09
  else none

/-- The value of a hexadecimal digit of either case. -/
def hexValue? (b : UInt8) : Option Nat := Text.hexDigit? (Char.ofNat b.toNat)

/-- The number that four hexadecimal digits write. -/
def hex4 : Reader Nat
  | a :: b :: c :: d :: rest =>
    match hexValue? a, hexValue? b, hexValue? c, hexValue? d with
    | some p, some q, some r, some s => .ok (((p * 16 + q) * 16 + r) * 16 + s, rest)
    | _, _, _, _ => .error (.here .invalidEscape rest)
  | _ => .error (.here .endInString [])

/-- The first half of a pair. -/
def isLeadSurrogate (n : Nat) : Bool := 0xD800 ≤ n && n ≤ 0xDBFF

/-- The second half of a pair. -/
def isTrailSurrogate (n : Nat) : Bool := 0xDC00 ≤ n && n ≤ 0xDFFF

/-- One byte that the second half of a pair has to begin with. -/
def pairByte (b : UInt8) : List UInt8 → Except Fault (List UInt8)
  | [] => .error (.here .endInString [])
  | a :: rest => if a = b then .ok rest else .error (.here .unpairedEscape rest)

/-- The character of a numeric escape, behind its letter `u`. -/
def readCodePoint : Reader Char := fun bytes => do
  let (n, rest) ← hex4 bytes
  if isTrailSurrogate n then .error (.here .loneSurrogate rest)
  else if isLeadSurrogate n then
    let rest ← pairByte 0x5C rest
    let rest ← pairByte 0x75 rest
    let (m, rest) ← hex4 rest
    if isTrailSurrogate m then
      return (Char.ofNat ((n - 0xD800) * 0x400 + (m - 0xDC00) + 0x10000), rest)
    else .error (.here .loneSurrogate rest)
  else return (Char.ofNat n, rest)

/-- The bytes that an escape stands for, behind its backslash. -/
def readEscape : Reader (List UInt8)
  | [] => .error (.here .endInString [])
  | b :: rest =>
    if b = 0x75 then do
      let (c, rest) ← readCodePoint rest
      return (String.utf8EncodeChar c, rest)
    else match shortEscape? b with
      | some a => .ok ([a], rest)
      | none => .error (.here .invalidEscape rest)

/-! ## Reading -/

/-- The decoded bytes of a string behind `acc`, which is in reverse.  Every round takes at least one
byte and one item of the clock, so the bytes themselves are a clock that does not run out. -/
def readBytes : List UInt8 → List UInt8 → Reader (List UInt8)
  | _ :: clock, acc, b :: rest =>
    if b = 0x22 then .ok (acc.reverse, rest)
    else if b = 0x5C then
      match readEscape rest with
      | .ok (bytes, rest) => readBytes clock (bytes.reverse ++ acc) rest
      | .error f => .error f
    else if b < 0x20 then .error (.here .controlCharacter rest)
    else readBytes clock (b :: acc) rest
  | _, _, _ => .error (.here .endInString [])

/-- A string, whose opening quote has been read.  A byte that belongs to no character is placed as
many bytes before the closing quote as there are decoded ones from it on. -/
def readText : Reader String := fun bytes => do
  let (raw, rest) ← readBytes bytes [] bytes
  match Text.Utf8.decode raw with
  | .ok cs => return (String.ofList cs, rest)
  | .error bad => .error ⟨.invalidCodePoint, rest.length + bad.length, []⟩

/-! ## Skipping -/

/-- What is behind an escape whose backslash has been read. -/
def skipEscape : List UInt8 → Except Fault (List UInt8)
  | [] => .error (.here .endInString [])
  | b :: rest =>
    if b = 0x75 then (hex4 rest).map Prod.snd
    else if (shortEscape? b).isSome then .ok rest
    else .error (.here .invalidEscape rest)

/-- What is behind a string, with a clock as for reading. -/
def skipBytes : List UInt8 → List UInt8 → Except Fault (List UInt8)
  | _ :: clock, b :: rest =>
    if b = 0x22 then .ok rest
    else if b = 0x5C then
      match skipEscape rest with
      | .ok rest => skipBytes clock rest
      | .error f => .error f
    else if b < 0x20 then .error (.here .controlCharacter (b :: rest))
    else skipBytes clock rest
  | _, _ => .error (.here .endInString [])

/-- What is behind a string, whose opening quote has been read. -/
def skipText (bytes : List UInt8) : Except Fault (List UInt8) := skipBytes bytes bytes

end AuditLabels.Json

import AuditLabels.Text.Numeral
import AuditLabels.Text.Utf8

/-!
# Percent-encoded text

A percent sign and two hexadecimal digits stand for a byte; every other character stands for its
bytes in UTF-8, also a percent sign that no two digits follow.
-/

namespace AuditLabels.Http.Percent

/-- The value of a byte that is a hexadecimal digit. -/
def hexValue? (b : UInt8) : Option Nat := Text.hexDigit? (Char.ofNat b.toNat)

/-- The bytes that encoded bytes stand for. -/
def decodeBytes : List UInt8 → List UInt8
  | 0x25 :: x :: y :: r =>
    match hexValue? x, hexValue? y with
    | some high, some low => UInt8.ofNat (16 * high + low) :: decodeBytes r
    | _, _ => 0x25 :: decodeBytes (x :: y :: r)
  | b :: r => b :: decodeBytes r
  | [] => []

/-- The text that an encoded text stands for, if the bytes are one. -/
def decode? (cs : List Char) : Option (List Char) :=
  Text.Utf8.decode? (decodeBytes (Text.Utf8.encode cs))

end AuditLabels.Http.Percent

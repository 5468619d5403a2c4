/-!
# UTF-8

Bytes of a text and texts of bytes.  `encode` writes each character in its one to four bytes;
`decode` reads them back and refuses every other sequence: a stray or missing continuation byte, a
character written longer than needed, a surrogate, a code point above the last.  A text is cut at a
number of bytes by `takeBytes` and `dropBytes`.
-/

namespace AuditLabels.Text.Utf8

/-! ## Writing -/

/-- The bytes of a text. -/
def encode (cs : List Char) : List UInt8 := cs.flatMap String.utf8EncodeChar

@[simp] theorem encode_nil : encode [] = [] := rfl

@[simp] theorem encode_cons (c : Char) (cs : List Char) :
    encode (c :: cs) = String.utf8EncodeChar c ++ encode cs := by simp [encode]

/-- Texts are encoded one after another. -/
theorem encode_append (a b : List Char) : encode (a ++ b) = encode a ++ encode b := by
  simp [encode]

/-- The number of bytes of a text. -/
def size (cs : List Char) : Nat := (encode cs).length

/-! ## Places -/

/-- The text behind its first `n` bytes, from the next character on. -/
def dropBytes : Nat → List Char → List Char
  | _, [] => []
  | n, c :: cs => if c.utf8Size ≤ n then dropBytes (n - c.utf8Size) cs else c :: cs

/-- The characters among the first `n` bytes of a text. -/
def takeBytes (n : Nat) (cs : List Char) : List Char :=
  cs.take (cs.length - (dropBytes n cs).length)

/-- Dropping leaves a part of the text. -/
theorem dropBytes_suffix (n : Nat) (cs : List Char) : dropBytes n cs <:+ cs := by
  induction cs generalizing n with
  | nil => exact List.suffix_refl _
  | cons c cs ih =>
    unfold dropBytes
    split
    · exact (ih _).trans (List.suffix_cons c cs)
    · exact List.suffix_refl _

/-- A text is what its first bytes hold and what is behind them. -/
theorem takeBytes_append_dropBytes (n : Nat) (cs : List Char) :
    takeBytes n cs ++ dropBytes n cs = cs := by
  have h := (List.suffix_iff_eq_drop.1 (dropBytes_suffix n cs)).symm
  calc takeBytes n cs ++ dropBytes n cs
      = takeBytes n cs ++ cs.drop (cs.length - (dropBytes n cs).length) := by rw [h]
    _ = cs := List.take_append_drop _ _

/-- Behind the bytes of a text stands what follows it. -/
theorem dropBytes_append (a b : List Char) :
    dropBytes (size a) (a ++ b) = b := by
  induction a with
  | nil => cases b with
    | nil => rfl
    | cons c b => simp [size, dropBytes, Nat.not_le.2 c.utf8Size_pos]
  | cons c a ih =>
    have hsize : size (c :: a) = c.utf8Size + size a := by simp [size]
    simp [hsize, dropBytes, ih]

/-! ## Reading -/

/-- A continuation byte: `80` to `BF`. -/
def isTail (b : UInt8) : Bool := 0x80 ≤ b && b ≤ 0xBF

/-- The six low bits of a continuation byte. -/
def tailBits (b : UInt8) : Nat := b.toNat % 0x40

/-- The two bytes are the start of a character of three bytes. -/
def isLead3 (a b : UInt8) : Bool :=
  if a = 0xE0 then 0xA0 ≤ b && b ≤ 0xBF
  else if a = 0xED then 0x80 ≤ b && b ≤ 0x9F
  else isTail b

/-- The two bytes are the start of a character of four bytes. -/
def isLead4 (a b : UInt8) : Bool :=
  if a = 0xF0 then 0x90 ≤ b && b ≤ 0xBF
  else if a = 0xF4 then 0x80 ≤ b && b ≤ 0x8F
  else isTail b

/-- Read on behind `acc`, the characters read so far in reverse.  An error holds the bytes from the
first one that begins no character. -/
def decodeOnto (acc : List Char) : List UInt8 → Except (List UInt8) (List Char)
  | [] => .ok acc.reverse
  | a :: r =>
    let bad := .error (a :: r)
    if a < 0x80 then decodeOnto (Char.ofNat a.toNat :: acc) r
    else match r with
      | [] => bad
      | b :: r =>
        if 0xC2 ≤ a && a ≤ 0xDF then
          if isTail b then
            decodeOnto (Char.ofNat (a.toNat % 0x20 * 0x40 + tailBits b) :: acc) r
          else bad
        else match r with
          | [] => bad
          | c :: r =>
            if 0xE0 ≤ a && a ≤ 0xEF then
              if isLead3 a b && isTail c then
                decodeOnto
                  (Char.ofNat ((a.toNat % 0x10 * 0x40 + tailBits b) * 0x40 + tailBits c) :: acc) r
              else bad
            else match r with
              | [] => bad
              | d :: r =>
                if 0xF0 ≤ a && a ≤ 0xF4 then
                  if isLead4 a b && isTail c && isTail d then
                    decodeOnto
                      (Char.ofNat (((a.toNat % 8 * 0x40 + tailBits b) * 0x40 + tailBits c) * 0x40
                        + tailBits d) :: acc) r
                  else bad
                else bad

/-- The text whose bytes these are, or the bytes from the first one that begins no character. -/
def decode (bytes : List UInt8) : Except (List UInt8) (List Char) := decodeOnto [] bytes

/-- The text whose bytes these are, if there is one. -/
def decode? (bytes : List UInt8) : Option (List Char) := (decode bytes).toOption

end AuditLabels.Text.Utf8

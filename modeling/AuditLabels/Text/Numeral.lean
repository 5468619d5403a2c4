/-!
# Decimal numerals

Texts of whole numbers.  A numeral has one or more ASCII digits, any number of them leading zeros,
after an optional sign; it has no blanks and no separators.  Reading is by exact value, so the
bounds of a reader are compared with the number that is written, however many digits it has.
-/

namespace AuditLabels.Text

/-! ## Digits -/

/-- The value of an ASCII digit. -/
def digit? (c : Char) : Option Nat :=
  if '0' ≤ c ∧ c ≤ '9' then some (c.toNat - '0'.toNat) else none

/-- Read on behind the digits of `n`. -/
def digitsOnto (n : Nat) : List Char → Option Nat
  | [] => some n
  | c :: cs => match digit? c with
    | some d => digitsOnto (10 * n + d) cs
    | none => none

/-- The value of a text of one or more digits. -/
def digits? : List Char → Option Nat
  | [] => none
  | cs => digitsOnto 0 cs

/-! ## Signed and unsigned numerals -/

/-- A number without sign or with a plus. -/
def unsigned? : List Char → Option Nat
  | '+' :: cs => digits? cs
  | cs => digits? cs

/-- A number without sign, with a plus or with a minus. -/
def signed? : List Char → Option Int
  | '-' :: cs => (digits? cs).map fun n => -(n : Int)
  | cs => (unsigned? cs).map Int.ofNat

/-- A number of the 64-bit range `-2^63, …, 2^63 - 1`. -/
def isInt64 (n : Int) : Bool := -0x8000000000000000 ≤ n && n < 0x8000000000000000

/-- A signed numeral of the 64-bit range. -/
def int64? (cs : List Char) : Option Int := (signed? cs).filter isInt64

/-- An unsigned numeral up to 65535. -/
def uint16? (cs : List Char) : Option UInt16 :=
  (unsigned? cs).bind fun n => if n < 0x10000 then some (UInt16.ofNat n) else none

/-- An unsigned numeral up to 4294967295. -/
def uint32? (cs : List Char) : Option UInt32 :=
  (unsigned? cs).bind fun n => if n < 0x100000000 then some (UInt32.ofNat n) else none

/-! ## Writing -/

/-- The decimal digits of a number, without leading zeros. -/
def ofNat (n : Nat) : String := String.ofList (Nat.toDigits 10 n)

/-- The decimal digits of a number, after a minus if it is below zero. -/
def ofInt : Int → String
  | .ofNat n => ofNat n
  | .negSucc n => "-" ++ ofNat (n + 1)

/-! ## Digits in other bases -/

/-- The value of a hexadecimal digit of either case. -/
def hexDigit? (c : Char) : Option Nat :=
  if '0' ≤ c ∧ c ≤ '9' then some (c.toNat - '0'.toNat)
  else if 'a' ≤ c ∧ c ≤ 'f' then some (c.toNat - 'a'.toNat + 10)
  else if 'A' ≤ c ∧ c ≤ 'F' then some (c.toNat - 'A'.toNat + 10)
  else none

/-- Hexadecimal digits are ASCII. -/
theorem toNat_lt_of_hexDigit? {c : Char} {v : Nat} (h : hexDigit? c = some v) :
    c.toNat < 0x80 := by
  have hle : ∀ d : Char, d.toNat < 0x80 → c ≤ d → c.toNat < 0x80 := by
    intro d hd hc
    exact Nat.lt_of_le_of_lt (UInt32.le_iff_toNat_le.1 hc) hd
  unfold hexDigit? at h
  split at h
  · next hc => exact hle '9' (by decide) hc.2
  split at h
  · next hc => exact hle 'f' (by decide) hc.2
  split at h
  · next hc => exact hle 'F' (by decide) hc.2
  · cases h

/-- The hexadecimal digits of a number, small and without leading zeros. -/
def ofNatHex (n : Nat) : String := String.ofList (Nat.toDigits 16 n)

/-- Only digits are read: another character spoils the numeral. -/
theorem digitsOnto_of_digit?_eq_none {c : Char} {cs : List Char} (hc : c ∈ cs)
    (h : digit? c = none) (n : Nat) : digitsOnto n cs = none := by
  induction cs generalizing n with
  | nil => simp at hc
  | cons d r ih =>
    unfold digitsOnto
    cases hd : digit? d with
    | none => rfl
    | some v =>
      rcases List.mem_cons.1 hc with rfl | hr
      · simp [h] at hd
      · exact ih hr _

end AuditLabels.Text

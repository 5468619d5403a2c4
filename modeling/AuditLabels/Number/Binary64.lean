/-!
# Binary floating point with 64 bits

The finite numbers from zero up, kept as a mantissa below `2^53` and an exponent of two not below
`-1074`.  Sums of powers of two are exact fractions, so every operation computes its exact result
as a quotient of two natural numbers and rounds once, to the nearest number and on a tie to the one
with even mantissa.  A result beyond the largest number is `none`.
-/

namespace AuditLabels.Number

/-! ## Rounding -/

/-- The whole number nearest to `num / den`, the even one of two. -/
def roundHalfEven (num den : Nat) : Nat :=
  let q := num / den
  let r := num % den
  if 2 * r < den || (2 * r == den && q % 2 == 0) then q else q + 1

/-- A whole quotient is not changed by rounding. -/
theorem roundHalfEven_mul (q : Nat) {den : Nat} (h : 0 < den) :
    roundHalfEven (q * den) den = q := by
  simp [roundHalfEven, h]

/-- The number `mantissa * 2 ^ exponent`. -/
structure Binary64 where
  mantissa : Nat
  exponent : Int
  deriving DecidableEq, Repr

namespace Binary64

/-- The exponent of the numbers nearest to zero. -/
def leastExponent : Int := -1074

/-- The exponent of the largest numbers. -/
def greatestExponent : Int := 971

/-- Zero. -/
def zero : Binary64 := ⟨0, leastExponent⟩

/-- The numerator of the number as a fraction. -/
def num (x : Binary64) : Nat := x.mantissa <<< x.exponent.toNat

/-- The denominator of the number as a fraction. -/
def den (x : Binary64) : Nat := 1 <<< (-x.exponent).toNat

/-- The exponent of the greatest power of two that is at most `n / d`, for positive `n` and `d`. -/
def floorLog2 (n d : Nat) : Int :=
  let a : Int := n.log2 - d.log2
  if d <<< a.toNat ≤ n <<< (-a).toNat then a else a - 1

/-- The number nearest to `n / d`. -/
def nearest (n d : Nat) : Option Binary64 :=
  if n = 0 then some zero
  else
    let e := max (floorLog2 n d - 52) leastExponent
    let m := roundHalfEven (n <<< (-e).toNat) (d <<< e.toNat)
    let x : Binary64 := if m = 1 <<< 53 then ⟨1 <<< 52, e + 1⟩ else ⟨m, e⟩
    if x.exponent ≤ greatestExponent then some x else none

/-! ## Operations -/

/-- The number nearest to a natural number. -/
def ofNat (n : Nat) : Option Binary64 := nearest n 1

/-- The rounded product. -/
def mul (x y : Binary64) : Option Binary64 := nearest (x.num * y.num) (x.den * y.den)

/-- The rounded quotient, for a divisor that is not zero. -/
def div (x y : Binary64) : Option Binary64 := nearest (x.num * y.den) (x.den * y.num)

/-- The number nearest to a power of ten. -/
def pow10 (k : Nat) : Option Binary64 := nearest (Nat.pow 10 k) 1

/-- The largest power of ten that is still in range. -/
def greatestPow10 : Nat := 308

/-- `digits * 10 ^ exponent` in steps that round one at a time: the digits are rounded first and
then multiplied by a power of ten or divided by one, by two in turn if one is out of range. -/
def ofDecimal (digits : Nat) (exponent : Int) : Option Binary64 := do
  let x ← ofNat digits
  if x.mantissa = 0 then return zero
  if exponent > greatestPow10 then none
  else if 0 ≤ exponent then x.mul (← pow10 exponent.toNat)
  else if -(greatestPow10 : Int) ≤ exponent then x.div (← pow10 (-exponent).toNat)
  else if -(2 * greatestPow10 : Int) ≤ exponent then
    let y ← x.div (← pow10 greatestPow10)
    y.div (← pow10 (-exponent - greatestPow10).toNat)
  else return zero

end Binary64

end AuditLabels.Number

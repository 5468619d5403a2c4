import AuditLabels.Number.Binary64
import AuditLabels.Text.Numeral

/-!
# The fewest digits that read back

A floating-point number stands for all reals nearer to it than to its neighbours.  Among the
decimals in that interval `shortest` takes one with the fewest digits, and of those the nearest to
the number.  For each count of digits the only candidates are the two neighbours of the number on
the grid of decimals with that many digits.
-/

namespace AuditLabels.Number

/-- The decimal `digits * 10 ^ exponent`. -/
structure Decimal where
  digits : Nat
  exponent : Int
  deriving DecidableEq, Repr

namespace Binary64

/-! ## The interval of a number -/

/-- A quarter of the distance to the next number, as a fraction. -/
def quarter (x : Binary64) : Nat × Nat :=
  (1 <<< (x.exponent - 2).toNat, 1 <<< (2 - x.exponent).toNat)

/-- How many quarters below the number its interval begins: numbers of a smaller exponent are
closer together. -/
def quartersBelow (x : Binary64) : Nat :=
  if x.mantissa = 1 <<< 52 ∧ leastExponent < x.exponent then 1 else 2

/-- The decimal lies in the interval of the number; the ends belong to even mantissas. -/
def covers (x : Binary64) (d : Decimal) : Bool :=
  let point := d.digits * Nat.pow 10 d.exponent.toNat * x.quarter.2
  let unit := Nat.pow 10 (-d.exponent).toNat * x.quarter.1
  let low := (4 * x.mantissa - x.quartersBelow) * unit
  let high := (4 * x.mantissa + 2) * unit
  if x.mantissa % 2 = 0 then low ≤ point && point ≤ high else low < point && point < high

/-! ## Candidates -/

/-- The exponent of the greatest power of ten that is at most `n / d`, for positive `n` and `d`. -/
def floorLog10 (n d : Nat) : Int :=
  if d ≤ n then (Nat.toDigits 10 (n / d)).length - 1
  else -((Nat.toDigits 10 ((n + d - 1) / n - 1)).length : Int)

/-- The nearest decimal of `count` digits in the interval of the number, if there is one. -/
def withDigits? (x : Binary64) (count : Nat) : Option Decimal :=
  let e := floorLog10 x.num x.den - count + 1
  let n := x.num * Nat.pow 10 (-e).toNat
  let d := x.den * Nat.pow 10 e.toNat
  let below : Decimal := ⟨n / d, e⟩
  let above : Decimal := ⟨n / d + 1, e⟩
  match x.covers below, x.covers above with
  | true, true => some (if roundHalfEven n d = n / d then below else above)
  | true, false => some below
  | false, true => some above
  | false, false => none

/-- The shortest decimal of a positive number; 17 digits are always enough. -/
def shortest (x : Binary64) : Decimal :=
  ((List.range' 1 17).findSome? x.withDigits?).getD ⟨x.num / x.den, 0⟩

end Binary64

/-! ## Text -/

/-- The digits without the zeros at their end. -/
def trimZeros (cs : List Char) : List Char := (cs.reverse.dropWhile (· == '0')).reverse

/-- The digits before and after a point that stands behind the first `n` digits; missing digits are
zeros, and there is at least one on either side. -/
def pointAt (cs : List Char) (n : Int) : List Char :=
  if n ≤ 0 then '0' :: '.' :: (List.replicate (-n).toNat '0' ++ cs)
  else
    let whole := cs.take n.toNat
    let part := cs.drop n.toNat
    whole ++ List.replicate (n.toNat - whole.length) '0' ++
      '.' :: (if part.isEmpty then ['0'] else part)

/-- The exponent of a number in scientific form, always with its sign. -/
def exponentText (e : Int) : List Char :=
  'e' :: (if e < 0 then '-' else '+') :: Nat.toDigits 10 e.natAbs

/-- The text of a floating-point number: positional from `10 ^ -5` up to but not including
`10 ^ 16`, with a point and a digit on either side of it; scientific outside, without a point behind
a single digit. -/
def floatText (negative : Bool) (x : Binary64) : String :=
  let magnitude :=
    if x.mantissa = 0 then ['0', '.', '0']
    else
      let d := x.shortest
      let all := Nat.toDigits 10 d.digits
      let e := d.exponent + all.length - 1
      let cs := trimZeros all
      if -5 ≤ e ∧ e < 16 then pointAt cs (e + 1)
      else match cs with
        | [c] => c :: exponentText e
        | c :: r => c :: '.' :: (r ++ exponentText e)
        | [] => exponentText e
  String.ofList (if negative then '-' :: magnitude else magnitude)

end AuditLabels.Number

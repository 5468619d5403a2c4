import AuditLabels.Text.Numeral

/-!
# IP addresses

An address of version 4 is written as four decimal bytes with points between them; one of version 6
as eight hexadecimal groups with colons between them, where two colons stand for a run of zeros and
the last two groups may be written as an address of version 4.  Readers take an address off the
front of a text and leave the rest.
-/

namespace AuditLabels.Net

/-- An address of either version. -/
inductive Ip where
  | v4 (a b c d : UInt8)
  /-- Eight groups. -/
  | v6 (groups : List UInt16)
  deriving DecidableEq, Repr

/-! ## Reading -/

/-- The leading digits of a text in some base, and the rest. -/
def takeDigits (digit? : Char → Option Nat) (cs : List Char) : List Nat × List Char :=
  ((cs.takeWhile fun c => (digit? c).isSome).filterMap digit?,
    cs.dropWhile fun c => (digit? c).isSome)

/-- The number with these digits. -/
def ofDigits (base : Nat) (ds : List Nat) : Nat := ds.foldl (fun n d => base * n + d) 0

/-- A byte in one to three decimal digits, without leading zeros. -/
def takeByte (cs : List Char) : Option (UInt8 × List Char) :=
  let (ds, rest) := takeDigits Text.digit? cs
  let n := ofDigits 10 ds
  if ds = [] ∨ 3 < ds.length ∨ (ds.head? = some 0 ∧ 1 < ds.length) ∨ 255 < n then none
  else some (UInt8.ofNat n, rest)

/-- A character that has to stand there. -/
def takeChar (c : Char) : List Char → Option (List Char)
  | [] => none
  | d :: cs => if d = c then some cs else none

/-- An address of version 4. -/
def takeV4 (cs : List Char) : Option ((UInt8 × UInt8 × UInt8 × UInt8) × List Char) := do
  let (a, cs) ← takeByte cs
  let (b, cs) ← takeByte (← takeChar '.' cs)
  let (c, cs) ← takeByte (← takeChar '.' cs)
  let (d, cs) ← takeByte (← takeChar '.' cs)
  return ((a, b, c, d), cs)

/-- A group of one to four hexadecimal digits. -/
def takeGroup (cs : List Char) : Option (UInt16 × List Char) :=
  let (ds, rest) := takeDigits Text.hexDigit? cs
  if ds = [] ∨ 4 < ds.length then none else some (UInt16.ofNat (ofDigits 16 ds), rest)

/-- The two groups that an address of version 4 stands for. -/
def groupsOfV4 (a b c d : UInt8) : List UInt16 :=
  [UInt16.ofNat (a.toNat * 256 + b.toNat), UInt16.ofNat (c.toNat * 256 + d.toNat)]

/-- The text behind a colon, which is not asked for in front of the first group. -/
def takeColon (first : Bool) (cs : List Char) : Option (List Char) :=
  if first then some cs else takeChar ':' cs

/-- Up to `limit` groups, as many as there are, and whether the last two of them are written as an
address of version 4. -/
def takeGroups : Nat → Bool → List Char → List UInt16 × Bool × List Char
  | 0, _, cs => ([], false, cs)
  | limit + 1, first, cs =>
    match takeColon first cs with
    | none => ([], false, cs)
    | some start =>
      match if limit = 0 then none else takeV4 start with
      | some ((a, b, c, d), rest) => (groupsOfV4 a b c d, true, rest)
      | none =>
        match takeGroup start with
        | none => ([], false, cs)
        | some (g, rest) =>
          let (gs, four, rest) := takeGroups limit false rest
          (g :: gs, four, rest)

/-- An address of version 6. -/
def takeV6 (cs : List Char) : Option (List UInt16 × List Char) := do
  let (front, four, cs) := takeGroups 8 true cs
  if front.length = 8 then return (front, cs)
  if four then none
  let cs ← takeChar ':' (← takeChar ':' cs)
  let (back, _, cs) := takeGroups (7 - front.length) true cs
  return (front ++ List.replicate (8 - front.length - back.length) 0 ++ back, cs)

/-! ## Writing -/

/-- Four decimal bytes. -/
def v4Text (a b c d : UInt8) : String :=
  String.intercalate "." ([a, b, c, d].map fun x => Text.ofNat x.toNat)

/-- The number of zeros at the beginning of a list. -/
def leadingZeros (gs : List UInt16) : Nat := (gs.takeWhile (· == 0)).length

/-- The place and the length of the first of the longest runs of zeros. -/
def longestZeros : List UInt16 → Nat × Nat
  | [] => (0, 0)
  | g :: gs =>
    let (i, n) := longestZeros gs
    let here := leadingZeros (g :: gs)
    if n ≤ here then (0, here) else (i + 1, n)

/-- Groups with colons between them. -/
def groupsText (gs : List UInt16) : String :=
  String.intercalate ":" (gs.map fun g => Text.ofNatHex g.toNat)

/-- An address of version 6 in its shortest form.  One that stands for an address of version 4 shows
it. -/
def v6Text (gs : List UInt16) : String :=
  match gs with
  | [0, 0, 0, 0, 0, 0xFFFF, x, y] =>
    "::ffff:" ++ v4Text (x / 256).toUInt8 x.toUInt8 (y / 256).toUInt8 y.toUInt8
  | _ =>
    let (i, n) := longestZeros gs
    if 1 < n then groupsText (gs.take i) ++ "::" ++ groupsText (gs.drop (i + n))
    else groupsText gs

end AuditLabels.Net

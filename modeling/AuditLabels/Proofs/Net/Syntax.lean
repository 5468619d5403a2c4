import Mathlib
import AuditLabels.Net.Endpoint

/-!
# How addresses are written

The texts of addresses, said without a reader.  A host is an address of version 4, or one of version
6 in brackets, where the number of a scope may follow it; nothing else is a host, so a host never
carries a port.
-/

namespace AuditLabels.Net

/-! ## Addresses of version 4 -/

/-- Four decimal bytes without needless zeros, with points between them. -/
def quad (a b c d : UInt8) : List Char :=
  Nat.toDigits 10 a.toNat ++ '.' :: (Nat.toDigits 10 b.toNat ++ '.' ::
    (Nat.toDigits 10 c.toNat ++ '.' :: Nat.toDigits 10 d.toNat))

/-! ## Addresses of version 6 -/

/-- Characters and the digits that they are, one for one. -/
def HasDigits (digit? : Char → Option Nat) (w : List Char) (ds : List Nat) : Prop :=
  List.Forall₂ (fun c d => digit? c = some d) w ds

/-- A group: one to four hexadecimal digits of either case. -/
def IsGroup (w : List Char) (g : UInt16) : Prop :=
  ∃ ds, HasDigits Text.hexDigit? w ds ∧ ds ≠ [] ∧ ds.length ≤ 4 ∧
    g.toNat = Nat.ofDigits 16 ds.reverse

/-- What stands before a group: a colon, unless it is the first one. -/
def separator (first : Bool) : List Char := if first then [] else [':']

/-- Any number of groups with colons between them; `four` says that the last two of them are written
as an address of version 4, and `first` that no group stands before them. -/
inductive Groups : (first four : Bool) → List Char → List UInt16 → Prop
  | nil {first : Bool} : Groups first false [] []
  | quad {first : Bool} (a b c d : UInt8) : Groups first true (separator first ++ quad a b c d)
      [UInt16.ofNat (a.toNat * 256 + b.toNat), UInt16.ofNat (c.toNat * 256 + d.toNat)]
  | cons {first four : Bool} {w v : List Char} {g : UInt16} {gs : List UInt16} : IsGroup w g →
      Groups false four v gs → Groups first four (separator first ++ (w ++ v)) (g :: gs)

/-- Eight groups, or fewer of them with two colons in the place of the ones that are zero. -/
inductive IsV6 : List Char → List UInt16 → Prop
  | full {four : Bool} {w : List Char} {gs : List UInt16} : Groups true four w gs →
      gs.length = 8 → IsV6 w gs
  | short {four : Bool} {v w : List Char} {front back : List UInt16} : Groups true false v front →
      Groups true four w back → front.length + back.length ≤ 7 →
      IsV6 (v ++ ':' :: ':' :: w)
        (front ++ List.replicate (8 - front.length - back.length) 0 ++ back)

/-! ## Hosts -/

/-- The number of a scope behind a percent sign, or nothing for the scope zero. -/
inductive IsScope : List Char → UInt32 → Prop
  | none : IsScope [] 0
  | number {w : List Char} {n : UInt32} : Text.digits? w = some n.toNat → IsScope ('%' :: w) n

/-- A host, with the address that it says and the scope. -/
inductive IsHost : List Char → Ip → UInt32 → Prop
  | v4 (a b c d : UInt8) : IsHost (quad a b c d) (.v4 a b c d) 0
  | v6 {w s : List Char} {gs : List UInt16} {scope : UInt32} : IsV6 w gs → IsScope s scope →
      IsHost ('[' :: (w ++ (s ++ [']']))) (.v6 gs) scope

end AuditLabels.Net

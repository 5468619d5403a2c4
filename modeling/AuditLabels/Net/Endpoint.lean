import AuditLabels.Net.Ip

/-!
# Endpoints

Where a server listens: an address and a port.  The address of version 6 stands in brackets, where a
numeric scope may follow it.
-/

namespace AuditLabels.Net

/-- An address with a port.  The scope is zero for an address of version 4. -/
structure Endpoint where
  ip : Ip
  scope : UInt32
  port : UInt16
  deriving DecidableEq, Repr

namespace Endpoint

/-- A decimal number below `bound` with any number of leading zeros. -/
def takeNumber (bound : Nat) (cs : List Char) : Option (Nat × List Char) :=
  let (ds, rest) := takeDigits Text.digit? cs
  let n := ofDigits 10 ds
  if ds = [] ∨ bound ≤ n then none else some (n, rest)

/-- A percent sign and the number of a scope, or nothing and the scope zero. -/
def takeScope (cs : List Char) : Nat × List Char :=
  ((takeChar '%' cs).bind (takeNumber 0x100000000)).getD (0, cs)

/-- An address with what goes around it. -/
def takeHost (cs : List Char) : Option ((Ip × Nat) × List Char) :=
  match takeV4 cs with
  | some ((a, b, c, d), rest) => some ((.v4 a b c d, 0), rest)
  | none => do
    let cs ← takeChar '[' cs
    let (gs, cs) ← takeV6 cs
    let (scope, cs) := takeScope cs
    return ((.v6 gs, scope), ← takeChar ']' cs)

/-- The endpoint that a whole text says. -/
def parse? (s : String) : Option Endpoint := do
  let ((ip, scope), cs) ← takeHost s.toList
  let (port, cs) ← takeNumber 0x10000 (← takeChar ':' cs)
  if cs.isEmpty then some ⟨ip, UInt32.ofNat scope, UInt16.ofNat port⟩ else none

/-- The address as it stands in front of a port. -/
def hostText (e : Endpoint) : String :=
  match e.ip with
  | .v4 a b c d => v4Text a b c d
  | .v6 gs =>
    let scope := if e.scope = 0 then "" else "%" ++ Text.ofNat e.scope.toNat
    "[" ++ v6Text gs ++ scope ++ "]"

/-- The text of an endpoint. -/
def text (e : Endpoint) : String := e.hostText ++ ":" ++ Text.ofNat e.port.toNat

end Endpoint

end AuditLabels.Net

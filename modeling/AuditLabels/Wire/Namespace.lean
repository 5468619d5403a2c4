import AuditLabels.Json.Skip
import AuditLabels.Label.Namespace

/-!
# Namespaces in JSON

A namespace is written as its exact name, or as a map with that name and `null`.
-/

namespace AuditLabels.Wire

open Json

/-- The namespace with the name that is read behind an opening quote. -/
def readName : Reader Namespace := fun bytes => do
  let (name, rest) ← readText bytes
  match Namespace.ofName? name with
  | some ns => return (ns, rest)
  | none => .error (.here (.unknownNamespace name) rest)

/-- What is behind the opening quote of the only name of a map. -/
def onlyName (bytes : List UInt8) : Except Fault (List UInt8) :=
  match skipSpace bytes with
  | [] => .error (.here .endInObject [])
  | b :: rest =>
    if b = 0x22 then .ok rest
    else if b = 0x7D then .error (.past .expectedValue (b :: rest))
    else .error (.past .keyNotText (b :: rest))

/-- A name with `null` and the closing bracket. -/
def readTagged : Reader Namespace := fun bytes => do
  let rest ← onlyName bytes
  let (ns, rest) ← readName rest
  let rest ← skipColon rest
  let (_, rest) ← readUnit rest
  match skipSpace rest with
  | [] => .error (.here .endInObject [])
  | b :: more =>
    if b = 0x7D then return (ns, more) else .error (.here .expectedValue (b :: more))

/-- A namespace in either of its forms. -/
def readNamespace : Reader Namespace := fun bytes =>
  match skipSpace bytes with
  | [] => .error (.here .endInValue [])
  | b :: rest =>
    if b = 0x22 then readName rest
    else if b = 0x7B then readTagged rest
    else .error (.past .expectedValue (b :: rest))

end AuditLabels.Wire

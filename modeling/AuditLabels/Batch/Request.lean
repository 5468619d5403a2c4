import AuditLabels.Json.Members

/-!
# Batch requests

A batch asks for the labels of a list of action codes and of a list of resource codes.  It is
written as a map with the two lists under their names, either of which may be missing and each of
which stands there at most once, among any other members; or as a list of up to two lists.
-/

namespace AuditLabels

/-- The codes to look up, in order. -/
structure BatchRequest where
  actions : List Int
  resources : List Int
  deriving DecidableEq, Repr

namespace BatchRequest

open Json

/-! ## Reading -/

/-- The name of the list of action codes. -/
def actionsName : String := "action_types"

/-- The name of the list of resource codes. -/
def resourcesName : String := "resource_types"

/-- The lists that have been read so far. -/
structure Draft where
  actions : Option (List Int)
  resources : Option (List Int)

/-- A list that is missing is empty. -/
def Draft.finish (d : Draft) : BatchRequest := ⟨d.actions.getD [], d.resources.getD []⟩

/-- A list of codes. -/
def readCodes : Reader (List Int) := readList readInt64

/-- A list that is there already; the fault is placed behind the name, or behind the map if it ends
there. -/
def duplicate {α : Type} (name : String) (rest : List UInt8) : Except Fault α :=
  .error (.here (.duplicateField name) (passMapEnd rest))

/-- A member with this name. -/
def readField (d : Draft) (name : String) : Reader Draft := fun rest =>
  if name = actionsName then
    if d.actions.isSome then duplicate name rest
    else (readMember readCodes name rest).map fun (xs, r) => ({ d with actions := some xs }, r)
  else if name = resourcesName then
    if d.resources.isSome then duplicate name rest
    else (readMember readCodes name rest).map fun (xs, r) => ({ d with resources := some xs }, r)
  else
    (readMember (fun bytes => (skipValue bytes).map fun r => ((), r)) name rest).map
      fun (_, r) => (d, r)

/-- The members of a map and its closing bracket.  Every round takes at least one byte and one item
of the clock. -/
def readFields : List UInt8 → Bool → Draft → Reader BatchRequest
  | [], _, _, _ => .error (.here .endInObject [])
  | _ :: clock, first, d, bytes =>
    match nextName first bytes with
    | .error f => .error f
    | .ok none => .ok (d.finish, passMapEnd bytes)
    | .ok (some start) =>
      match readText start with
      | .error f => .error f
      | .ok (name, rest) =>
        match readField d name rest with
        | .error f => .error f
        | .ok (d, rest) => readFields clock false d rest

/-- The list of codes that is the element `i` of a list of lists, if there is one. -/
def readItem (i : Nat) : Reader (Option (List Int)) := fun bytes => do
  match ← nextElement (i == 0) bytes with
  | none => return (none, bytes)
  | some start =>
    match readCodes start with
    | .ok (xs, rest) => return (some xs, rest)
    | .error f => .error (f.within (.index i))

/-- The second list, which is asked for only behind a first one. -/
def readSecond (actions : Option (List Int)) : Reader (Option (List Int)) := fun bytes =>
  if actions.isSome then readItem 1 bytes else .ok (none, bytes)

/-- Up to two lists of codes and the closing bracket. -/
def readItems : Reader BatchRequest := fun bytes => do
  let (actions, rest) ← readItem 0 bytes
  let (resources, rest) ← readSecond actions rest
  let rest ← closeList rest
  return (Draft.finish ⟨actions, resources⟩, rest)

/-- A batch request in either of its forms. -/
def read : Reader BatchRequest := fun bytes => do
  let (h, rest) ← readHead bytes
  match h, rest with
  | .map, _ :: rest => readFields rest true ⟨none, none⟩ rest
  | .list, _ :: rest => readItems rest
  | _, _ => refuse h .batch rest

/-! ## Limits -/

/-- How many codes a list may have. -/
def limit : Nat := 100

/-- A list that is too long. -/
structure Excess where
  /-- The name of the list. -/
  field : String
  /-- What the message calls the codes of the list. -/
  noun : String
  /-- The whole list. -/
  codes : List Int
  deriving DecidableEq, Repr

/-- The message about a list that is too long. -/
def Excess.message (e : Excess) : String :=
  "At most " ++ Text.ofNat limit ++ " " ++ e.noun ++ " per request"

/-- The lists of a request that are too long. -/
def excesses (r : BatchRequest) : List Excess :=
  (if limit < r.actions.length then [⟨actionsName, "action types", r.actions⟩] else []) ++
  (if limit < r.resources.length then [⟨resourcesName, "resource types", r.resources⟩] else [])

/-- Nothing is wrong with two lists of up to a hundred codes. -/
theorem excesses_eq_nil_iff (r : BatchRequest) :
    r.excesses = [] ↔ r.actions.length ≤ limit ∧ r.resources.length ≤ limit := by
  simp [excesses]

end BatchRequest

end AuditLabels

import AuditLabels.Json.Sequence

/-!
# Members of maps

The rules for the names of the members, the commas between members and the bracket that ends a map.
-/

namespace AuditLabels.Json

/-- What is behind the opening quote of the next name, or `none` at the closing bracket, which is
not taken.  `first` says that no member has been read. -/
def nextName (first : Bool) (bytes : List UInt8) : Except Fault (Option (List UInt8)) :=
  match skipSpace bytes with
  | [] => .error (.here .endInObject [])
  | b :: rest =>
    if b = 0x7D then .ok none
    else if first then
      if b = 0x22 then .ok (some rest) else .error (.past .keyNotText (b :: rest))
    else if b = 0x2C then
      match skipSpace rest with
      | [] => .error (.here .endInValue [])
      | c :: more =>
        if c = 0x22 then .ok (some more)
        else if c = 0x7D then .error (.past .trailingComma (c :: more))
        else .error (.past .keyNotText (c :: more))
    else .error (.past .expectedObjectEnd (b :: rest))

/-- What is behind the closing bracket of a map that stands there, and otherwise behind the
blanks. -/
def passMapEnd (bytes : List UInt8) : List UInt8 :=
  match skipSpace bytes with
  | [] => []
  | b :: rest => if b = 0x7D then rest else b :: rest

/-- The value of a member, behind its name; a fault in it is placed under that name. -/
def readMember {α : Type} (read : Reader α) (name : String) : Reader α := fun bytes => do
  let rest ← skipColon bytes
  match read rest with
  | .ok r => return r
  | .error f => .error (f.within (.key name))

end AuditLabels.Json

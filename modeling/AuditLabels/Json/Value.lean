import AuditLabels.Text.Numeral

/-!
# JSON values and their compact text

The values that answers and log lines are made of.  Their text has no blanks; inside strings only
quotes, backslashes and controls are escaped.
-/

namespace AuditLabels

/-- A JSON value as the service writes it.  Members of an object keep their order. -/
inductive Json where
  | boolean (b : Bool)
  | number (n : Int)
  | text (s : String)
  | array (items : List Json)
  | object (members : List (String × Json))

namespace Json

/-! ## Strings -/

/-- A character inside a JSON string. -/
def escape (c : Char) : List Char :=
  if c = '"' then ['\\', '"']
  else if c = '\\' then ['\\', '\\']
  else if c.toNat = 0x08 then ['\\', 'b']
  else if c.toNat = 0x09 then ['\\', 't']
  else if c.toNat = 0x0A then ['\\', 'n']
  else if c.toNat = 0x0C then ['\\', 'f']
  else if c.toNat = 0x0D then ['\\', 'r']
  else if c.toNat < 0x20 then
    ['\\', 'u', '0', '0', if c.toNat < 0x10 then '0' else '1'] ++ Nat.toDigits 16 (c.toNat % 16)
  else [c]

/-- A JSON string with its quotes. -/
def stringText (s : String) : List Char := '"' :: (s.toList.flatMap escape ++ ['"'])

/-! ## Values -/

mutual

/-- The text of a value. -/
def chars : Json → List Char
  | boolean b => (if b then "true" else "false").toList
  | number n => (Text.ofInt n).toList
  | text s => stringText s
  | array items => '[' :: (itemChars items ++ [']'])
  | object members => '\x7b' :: (memberChars members ++ ['\x7d'])

/-- The items of an array with commas between them. -/
def itemChars : List Json → List Char
  | [] => []
  | [v] => chars v
  | v :: vs => chars v ++ ',' :: itemChars vs

/-- The members of an object with commas between them. -/
def memberChars : List (String × Json) → List Char
  | [] => []
  | [(k, v)] => stringText k ++ ':' :: chars v
  | (k, v) :: ms => stringText k ++ ':' :: (chars v ++ ',' :: memberChars ms)

end

/-- The text of a value. -/
def render (v : Json) : String := String.ofList v.chars

end Json

end AuditLabels

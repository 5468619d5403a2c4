import AuditLabels.Number.Shortest
import AuditLabels.Text.Quoted

/-!
# Faults in JSON texts

A fault says what is wrong, where in the text, and in which element of the value that was being
read.  The place is kept as the number of bytes that follow it, so readers need only the bytes they
have not read yet; line and column are worked out when the message is written.
-/

namespace AuditLabels.Json

/-! ## Causes -/

/-- The kind of value that stands in a text. -/
inductive Found where
  | null
  | boolean (b : Bool)
  | integer (n : Int)
  | float (negative : Bool) (x : Number.Binary64)
  | text (s : String)
  | sequence
  | map
  deriving DecidableEq, Repr

/-- How a message shows what stands in the text. -/
def Found.describe : Found → String
  | null => "null"
  | boolean b => "boolean `" ++ (if b then "true" else "false") ++ "`"
  | integer n => "integer `" ++ Text.ofInt n ++ "`"
  | float negative x => "floating point `" ++ Number.floatText negative x ++ "`"
  | text s => "string " ++ Text.quote s
  | sequence => "sequence"
  | map => "map"

/-- The kind of value that is asked for. -/
inductive Expected where
  | int16 | int64 | sequence | batch | unit
  deriving DecidableEq, Repr

/-- How a message names what is asked for. -/
def Expected.describe : Expected → String
  | int16 => "i16"
  | int64 => "i64"
  | sequence => "a sequence"
  | batch => "struct ResolveLabelsRequest"
  | unit => "unit"

/-- What is wrong with a text. -/
inductive Cause where
  | endInValue | endInList | endInObject | endInString
  | expectedColon | expectedListEnd | expectedObjectEnd | expectedIdent | expectedValue
  | trailingComma | trailingCharacters | keyNotText
  | invalidNumber | numberOutOfRange
  | invalidEscape | controlCharacter | loneSurrogate | unpairedEscape | invalidCodePoint
  | invalidType (found : Found) (expected : Expected)
  | integerOutOfRange (n : Int) (expected : Expected)
  | duplicateField (name : String)
  | unknownNamespace (name : String)
  deriving DecidableEq, Repr

namespace Cause

/-- The wording of a cause. -/
def message : Cause → String
  | endInValue => "EOF while parsing a value"
  | endInList => "EOF while parsing a list"
  | endInObject => "EOF while parsing an object"
  | endInString => "EOF while parsing a string"
  | expectedColon => "expected `:`"
  | expectedListEnd => "expected `,` or `]`"
  | expectedObjectEnd => "expected `,` or `\x7d`"
  | expectedIdent => "expected ident"
  | expectedValue => "expected value"
  | trailingComma => "trailing comma"
  | trailingCharacters => "trailing characters"
  | keyNotText => "key must be a string"
  | invalidNumber => "invalid number"
  | numberOutOfRange => "number out of range"
  | invalidEscape => "invalid escape"
  | controlCharacter => "control character (\\u0000-\\u001F) found while parsing a string"
  | loneSurrogate => "lone leading surrogate in hex escape"
  | unpairedEscape => "unexpected end of hex escape"
  | invalidCodePoint => "invalid unicode code point"
  | invalidType found expected =>
    "invalid type: " ++ found.describe ++ ", expected " ++ expected.describe
  | integerOutOfRange n expected =>
    "invalid value: integer `" ++ Text.ofInt n ++ "`, expected " ++ expected.describe
  | duplicateField name => "duplicate field `" ++ name ++ "`"
  | unknownNamespace name => "unknown variant `" ++ name ++ "`, expected `action` or `resource`"

/-- The text is well formed as far as it was read, but it says the wrong thing. -/
def isData : Cause → Bool
  | invalidType .. | integerOutOfRange .. | duplicateField _ | unknownNamespace _ => true
  | _ => false

end Cause

/-! ## Places -/

/-- A line, counted from one, and the number of bytes before the place on that line. -/
structure Position where
  line : Nat
  column : Nat
  deriving DecidableEq, Repr

namespace Position

/-- The beginning of a text. -/
def start : Position := ⟨1, 0⟩

/-- The place behind one more byte. -/
def advance (p : Position) (b : UInt8) : Position :=
  if b = 0x0A then ⟨p.line + 1, 0⟩ else ⟨p.line, p.column + 1⟩

/-- The place behind a text. -/
def behind (bytes : List UInt8) : Position := bytes.foldl advance start

/-- Reading on moves the place byte by byte. -/
theorem behind_append (a b : List UInt8) : behind (a ++ b) = b.foldl advance (behind a) := by
  simp [behind]

end Position

/-- One step from a value to an element of it. -/
inductive Step where
  | key (name : String)
  | index (i : Nat)
  deriving DecidableEq, Repr

/-- The way to an element: keys with points between them, indices in brackets. -/
def pathText : List Step → String
  | [] => ""
  | .key k :: r => k ++ rest r
  | .index i :: r => "[" ++ Text.ofNat i ++ "]" ++ rest r
where
  /-- The steps behind the first one. -/
  rest : List Step → String
    | [] => ""
    | .key k :: r => "." ++ k ++ rest r
    | .index i :: r => "[" ++ Text.ofNat i ++ "]" ++ rest r

/-! ## Faults -/

/-- What is wrong, the number of bytes behind the place, and the element it is in. -/
structure Fault where
  cause : Cause
  unread : Nat
  path : List Step
  deriving DecidableEq, Repr

namespace Fault

/-- A fault in front of the bytes `rest`. -/
def here (cause : Cause) (rest : List UInt8) : Fault := ⟨cause, rest.length, []⟩

/-- A fault that the first byte of `rest` makes, if there is one; the place is behind it. -/
def past (cause : Cause) (rest : List UInt8) : Fault := ⟨cause, rest.tail.length, []⟩

/-- The same fault, seen from the value that has the element. -/
def within (f : Fault) (s : Step) : Fault := { f with path := s :: f.path }

/-- The place of a fault in its text. -/
def position (f : Fault) (bytes : List UInt8) : Position :=
  Position.behind (bytes.take (bytes.length - f.unread))

/-- The message of a fault in its text, with line and column. -/
def message (f : Fault) (bytes : List UInt8) : String :=
  let p := f.position bytes
  f.cause.message ++ " at line " ++ Text.ofNat p.line ++ " column " ++ Text.ofNat p.column

@[simp] theorem within_cause (f : Fault) (s : Step) : (f.within s).cause = f.cause := rfl

@[simp] theorem within_unread (f : Fault) (s : Step) : (f.within s).unread = f.unread := rfl

/-- The way to the element does not show in the plain message. -/
@[simp] theorem message_within (f : Fault) (s : Step) (bytes : List UInt8) :
    (f.within s).message bytes = f.message bytes := rfl

end Fault

/-- A reader takes a value off the front of the bytes and leaves the rest. -/
abbrev Reader (α : Type) : Type := List UInt8 → Except Fault (α × List UInt8)

end AuditLabels.Json

import AuditLabels.Http.Target
import AuditLabels.Json.Value
import AuditLabels.Text.Utf8

/-!
# Requests and answers

The parts of HTTP messages that the service looks at and writes.  Names of headers are in small
letters, values are bytes, and a header may be there several times.
-/

namespace AuditLabels.Http

/-! ## Headers -/

/-- A header of a message. -/
structure Header where
  name : String
  value : List UInt8
  deriving DecidableEq, Repr

/-- A header whose value is a text. -/
def Header.ofText (name value : String) : Header := ⟨name, Text.Utf8.encode value.toList⟩

/-- The first value of a header. -/
def firstValue? (headers : List Header) (name : String) : Option (List UInt8) :=
  (headers.find? fun h => h.name == name).map Header.value

/-- A byte that shows: visible ASCII, a blank or a tab. -/
def isVisible (b : UInt8) : Bool := b = 0x09 || (0x20 ≤ b && b ≤ 0x7E)

/-- The text of a value all of whose bytes show. -/
def visibleText? (value : List UInt8) : Option (List Char) :=
  if value.all isVisible then some (value.map fun b => Char.ofNat b.toNat) else none

/-- A byte that may stand in a value. -/
def isValueByte (b : UInt8) : Bool := b = 0x09 || (0x20 ≤ b && b ≠ 0x7F)

/-! ## Methods -/

/-- What a request wants done. -/
structure Method where
  name : String
  deriving DecidableEq, Repr

namespace Method

/-- Ask for what is there. -/
def get : Method := ⟨"GET"⟩

/-- Ask only for the headers of what is there. -/
def head : Method := ⟨"HEAD"⟩

/-- Hand something in. -/
def post : Method := ⟨"POST"⟩

/-- Ask what may be done. -/
def options : Method := ⟨"OPTIONS"⟩

/-- A character of a token: of a method or of the name of a header. -/
def isTokenChar (c : Char) : Bool :=
  c.isAlphanum || "!#$%&'*+-.^_|~".toList.contains c || c.toNat = 0x60

/-- The method with a name, if the name is a token. -/
def ofName? (name : String) : Option Method :=
  if !name.isEmpty && name.toList.all isTokenChar then some ⟨name⟩ else none

end Method

/-! ## Messages -/

/-- What a client sends. -/
structure Request where
  method : Method
  target : Target
  headers : List Header
  body : List UInt8

/-- The first value of a header of a request. -/
def Request.header? (r : Request) (name : String) : Option (List UInt8) :=
  firstValue? r.headers name

/-- What an answer carries. -/
inductive Body where
  | empty
  | json (v : Json)

namespace Body

/-- The text of a body. -/
def text : Body → String
  | empty => ""
  | json v => v.render

/-- The number of bytes of a body. -/
def size (b : Body) : Nat := Text.Utf8.size b.text.toList

end Body

/-- What a client gets. -/
structure Answer where
  status : Nat
  headers : List Header
  body : Body

namespace Answer

/-- An answer that carries a value. -/
def json (status : Nat) (v : Json) : Answer :=
  ⟨status, [.ofText "content-type" "application/json"], .json v⟩

/-- An answer that carries nothing. -/
def bare (status : Nat) : Answer := ⟨status, [], .empty⟩

/-- The same answer with more headers. -/
def withHeaders (a : Answer) (headers : List Header) : Answer :=
  { a with headers := a.headers ++ headers }

/-- The same answer with the length of its body. -/
def withLength (a : Answer) : Answer :=
  a.withHeaders [.ofText "content-length" (Text.ofNat a.body.size)]

/-- The same answer without its body. -/
def withoutBody (a : Answer) : Answer := { a with body := .empty }

end Answer

end AuditLabels.Http

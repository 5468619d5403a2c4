import AuditLabels.Json.Head
import AuditLabels.Json.Value
import AuditLabels.Label.Lookup

/-!
# Codes in JSON

A member of a vocabulary is written as its code.  Reading takes an integer of 16 bits and looks it
up; an integer that is no code is refused as such, before the rest of the text is looked at.
-/

namespace AuditLabels.Wire

/-- An integer of 16 bits that is no code of a vocabulary, whose members are called `noun`s. -/
structure UnknownCode where
  noun : String
  code : Int
  deriving DecidableEq, Repr

/-- The message for an integer that is no code. -/
def UnknownCode.message (e : UnknownCode) : String :=
  "unknown audit " ++ e.noun ++ " type: " ++ Text.ofInt e.code

/-- Why a text is no code. -/
inductive CodeError where
  | malformed (f : Json.Fault)
  | unknown (e : UnknownCode)
  deriving DecidableEq, Repr

/-- The message of an error in its text; an unknown code has no place in it. -/
def CodeError.message (bytes : List UInt8) : CodeError → String
  | malformed f => f.message bytes
  | unknown e => e.message

variable {α : Type} [Vocabulary α]

/-- The member with a code of 16 bits. -/
def ofCode (noun : String) (code : Int) : Except UnknownCode α :=
  match Vocabulary.ofCode? code with
  | some x => .ok x
  | none => .error ⟨noun, code⟩

/-- The member whose code is the whole text. -/
def readCode (noun : String) (bytes : List UInt8) : Except CodeError α :=
  match Json.readInt16 bytes with
  | .error f => .error (.malformed f)
  | .ok (code, rest) =>
    match ofCode noun code with
    | .error e => .error (.unknown e)
    | .ok x =>
      match Json.readWhole (fun _ => .ok (x, rest)) bytes with
      | .error f => .error (.malformed f)
      | .ok x => .ok x

/-- The text of a code. -/
def codeText (x : α) : String := (Json.number (Vocabulary.code x)).render

end AuditLabels.Wire

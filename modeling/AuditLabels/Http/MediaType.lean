import AuditLabels.Http.Message
import AuditLabels.Text.Lowercase

/-!
# Media types

A media type is a type and a subtype with a slash between them, and parameters behind semicolons.
What follows the last plus sign of the subtype is its suffix.  A body is JSON if its type is
`application` and its subtype or suffix is `json`, in any case.
-/

namespace AuditLabels.Http.MediaType

/-! ## Parameters -/

/-- A character between the quotes of the value of a parameter. -/
def isQuotable (c : Char) : Bool := 31 < c.toNat && c.toNat ≠ 127

/-- Where in the parameters a character stands. -/
inductive Scan where
  /-- In front of a name, where blanks may stand. -/
  | start
  | name
  /-- Behind an equals sign. -/
  | equals
  | value
  /-- Behind an opening quote, where a further quote is part of the value. -/
  | quote
  | quoted
  /-- Behind a closing quote, where only blanks may stand. -/
  | closed
  deriving DecidableEq, Repr

/-- Take one more character of the parameters, if it may stand there. -/
def Scan.step : Scan → Char → Option Scan
  | start, c => if c = ' ' then some start else if Method.isTokenChar c then some name else none
  | name, c => if c = '=' then some equals else if Method.isTokenChar c then some name else none
  | equals, c => if c = '"' then some quote else if Method.isTokenChar c then some value else none
  | value, c => if c = ';' then some start else if Method.isTokenChar c then some value else none
  | quote, c => if isQuotable c then some quoted else none
  | quoted, c => if c = '"' then some closed else if isQuotable c then some quoted else none
  | closed, c => if c = ';' then some start else if c = ' ' then some closed else none

/-- The parameters may end here. -/
def Scan.atEnd : Scan → Bool
  | start | equals | value | closed => true
  | _ => false

/-- The text behind the first semicolon is a list of parameters. -/
def areParameters (s : Scan) : List Char → Bool
  | [] => s.atEnd
  | c :: cs => match s.step c with
    | some next => areParameters next cs
    | none => false

/-! ## JSON -/

/-- A subtype without and with the suffix behind its last plus sign. -/
def splitSuffix (cs : List Char) : List Char × Option (List Char) :=
  match cs.reverse.dropWhile (· != '+') with
  | _ :: c :: before => ((c :: before).reverse, some (cs.reverse.takeWhile (· != '+')).reverse)
  | _ => (cs, none)

/-- The word `json` in any case. -/
def isJsonWord (cs : List Char) : Bool := cs.map Text.asciiLower = ['j', 's', 'o', 'n']

/-- A subtype that says JSON, by itself or by its suffix. -/
def isJsonSubtype (cs : List Char) : Bool :=
  let (base, suffix?) := splitSuffix cs
  isJsonWord base || suffix?.any isJsonWord

/-- Nothing, or parameters behind a semicolon. -/
def isTail : List Char → Bool
  | [] => true
  | _ :: cs => areParameters .start cs

/-- A media type that says JSON. -/
def isJson (cs : List Char) : Bool :=
  match cs.dropWhile (· != '/') with
  | [] => false
  | _ :: rest =>
    let subtype := rest.takeWhile (· != ';')
    (cs.takeWhile (· != '/')).map Text.asciiLower = "application".toList &&
      !subtype.isEmpty && subtype.all Method.isTokenChar && isJsonSubtype subtype &&
      isTail (rest.dropWhile (· != ';'))

/-- The first content type of a request says JSON. -/
def saysJson (r : Request) : Bool :=
  match (r.header? "content-type").bind visibleText? with
  | some cs => isJson cs
  | none => false

end AuditLabels.Http.MediaType

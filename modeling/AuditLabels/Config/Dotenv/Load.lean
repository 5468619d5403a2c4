import AuditLabels.Config.Dotenv.Line
import AuditLabels.Config.Dotenv.Value

/-!
# Loading a file of variables

The lines of the file are assignments.  They define variables one after another, and a line may use
the variables defined above it.  Variables that are set keep their values.  The first line that is
neither empty nor an assignment ends the file.
-/

namespace AuditLabels.Dotenv

/-! ## Assignments -/

/-- What a line says. -/
inductive Content where
  | nothing
  | assignment (name value : String)
  | malformed
  deriving DecidableEq, Repr

/-- A character of a name behind its first one. -/
def isNameChar (c : Char) : Bool := c.isAlphanum || c = '_' || c = '.'

/-- A name at the beginning of a text, and the text behind it and the blanks that follow. -/
def takeName : List Char → Option (String × List Char)
  | [] => none
  | c :: cs =>
    if c.isAlpha || c = '_' then
      some (String.ofList (c :: cs.takeWhile isNameChar), Text.trimStart (cs.dropWhile isNameChar))
    else none

/-- The text behind an equals sign. -/
def takeEquals : List Char → Option (List Char)
  | '=' :: cs => some cs
  | _ => none

/-- The name that is assigned to, and the text behind the equals sign.  The word `export` may stand
before the name, and is a name itself where the equals sign follows. -/
def takeTarget (cs : List Char) : Option (String × List Char) := do
  let (name, rest) ← takeName cs
  match takeEquals rest with
  | some more => return (name, more)
  | none =>
    if name = "export" then
      let (name, rest) ← takeName rest
      return (name, ← takeEquals rest)
    else none

/-- Nothing, or a comment. -/
def isVoid : List Char → Bool
  | [] => true
  | c :: _ => c = '#'

/-- What a line says, given the variables that are defined. -/
def Content.of (vars : Variables) (line : List Char) : Content :=
  let line := Text.trim line
  if isVoid line then .nothing
  else match takeTarget line with
    | none => .malformed
    | some (name, rest) =>
      let rest := Text.trimStart rest
      if isVoid rest then .assignment name ""
      else match value? vars rest with
        | some value => .assignment name value
        | none => .malformed

/-! ## Loading -/

/-- The variables that lines define, together with those that are set. -/
def loadLines (vars : Variables) : List (List Char) → Variables
  | [] => vars
  | line :: rest => match Content.of vars line with
    | .nothing => loadLines vars rest
    | .assignment name value => loadLines (vars.define name value) rest
    | .malformed => vars

/-- The text without a byte order mark. -/
def dropMark : List Char → List Char
  | [] => []
  | c :: cs => if c.toNat = 0xFEFF then cs else c :: cs

/-- The variables that a text defines, together with those that are set. -/
def load (vars : Variables) (text : String) : Variables :=
  loadLines vars (lines (dropMark text.toList))

/-- Loading never changes a variable that is set. -/
theorem get?_loadLines {vars : Variables} {name : String} (h : (vars.get? name).isSome)
    (ls : List (List Char)) : (loadLines vars ls).get? name = vars.get? name := by
  induction ls generalizing vars with
  | nil => rfl
  | cons line rest ih =>
    unfold loadLines
    split
    · exact ih h
    · rename_i key value _
      have hd := Variables.get?_define_of_isSome h key value
      rw [ih (by rw [hd]; exact h), hd]
    · rfl

end AuditLabels.Dotenv

import AuditLabels.Config.Variables
import AuditLabels.Text.Alphanumeric

/-!
# Values in a file of variables

A value is one word, parts of which may be quoted.  Strong quotes keep everything between them.
Elsewhere a backslash escapes a quote, a blank, a dollar sign or itself and makes a line break of
an `n`; and a dollar sign stands before the name of a variable, which is replaced by its value.
-/

namespace AuditLabels.Dotenv

/-! ## Reading modes -/

/-- Where in a value a character stands.  `quoted` says whether a weak quote is open. -/
inductive Mode where
  | free (quoted : Bool)
  /-- Behind the end of the word, where only blanks and a comment may follow. -/
  | ended
  | escape (quoted : Bool)
  | strong
  /-- In the name of a variable, whose letters so far are given in reverse. -/
  | name (quoted : Bool) (letters : List Char)
  /-- In the name of a variable between braces. -/
  | braced (quoted : Bool) (letters : List Char)
  deriving DecidableEq, Repr

/-- What a backslash before a character means. -/
def unescape? (c : Char) : Option Char :=
  if c = 'n' then some '\n'
  else if c = '\\' ∨ c = '\'' ∨ c = '"' ∨ c = '$' ∨ c = ' ' then some c
  else none

/-- The text behind a name and an equals sign where variables are written as a name, an equals sign
and a value.  A name with an equals sign of its own reaches into the value. -/
def textBehind? (vars : Variables) (name : List Char) : Option (List Char) := do
  let value ← vars.get? (String.ofList (name.takeWhile (· != '=')))
  match name.dropWhile (· != '=') with
  | [] => return value.toList
  | _ :: part => (part ++ ['=']).isPrefixOf? value.toList

/-- What replaces the name of a variable; nothing for one that is not set. -/
def substitute (vars : Variables) (letters : List Char) : List Char :=
  (textBehind? vars letters.reverse).getD []

/-! ## Reading -/

/-- A character outside strong quotes, escapes and names: the mode behind it and what it yields. -/
def freeStep (quoted : Bool) (c : Char) : Mode × List Char :=
  if c = '$' then (.name quoted [], [])
  else if c = '\\' then (.escape quoted, [])
  else if c = '"' then (.free !quoted, [])
  else if quoted then (.free true, [c])
  else if c = '\'' then (.strong, [])
  else if c = ' ' || c = '\t' then (.ended, [])
  else (.free false, [c])

/-- One character of a value: the mode behind it and what it yields, if it may stand there.  A name
without braces ends at the first character that is no letter or digit, and that character is kept
unless it begins another name. -/
def Mode.step (vars : Variables) : Mode → Char → Option (Mode × List Char)
  | .free quoted, c => some (freeStep quoted c)
  | .ended, c => if c = ' ' || c = '\t' then some (.ended, []) else none
  | .escape quoted, c => (unescape? c).map fun d => (.free quoted, [d])
  | .strong, c => some (if c = '\'' then (.free false, []) else (.strong, [c]))
  | .name quoted letters, c =>
    some <|
      if Text.isAlphanumeric c then (.name quoted (c :: letters), [])
      else if c = '\x7b' && letters.isEmpty then (.braced quoted [], [])
      else if c = '$' then (.name quoted [], substitute vars letters)
      else (.free quoted, substitute vars letters ++ [c])
  | .braced quoted letters, c =>
    some <|
      if c = '\x7d' then (.free quoted, substitute vars letters)
      else (.braced quoted (c :: letters), [])

/-- What is still to come at the end of a value, if it may end there. -/
def Mode.finish? (vars : Variables) : Mode → Option (List Char)
  | .free false | .ended | .escape false => some []
  | .name false letters => some (substitute vars letters)
  | _ => none

/-- The value that the characters yield, if they are one.  A comment ends it. -/
def valueFrom (vars : Variables) : Mode → List Char → Option (List Char)
  | mode, [] => mode.finish? vars
  | mode, c :: cs =>
    if mode = .ended ∧ c = '#' then some []
    else do
      let (next, out) ← mode.step vars c
      let rest ← valueFrom vars next cs
      return out ++ rest

/-- The value that a text yields, if it is one. -/
def value? (vars : Variables) (text : List Char) : Option String :=
  (valueFrom vars (.free false) text).map String.ofList

end AuditLabels.Dotenv

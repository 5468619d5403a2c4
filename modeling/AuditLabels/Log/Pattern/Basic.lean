import AuditLabels.Log.Pattern.Class
import AuditLabels.Log.Pattern.Group
import AuditLabels.Text.Lowercase

/-!
# Patterns

What a filter may ask of the value of a field: a number, or a pattern for texts.  A pattern is a
regular expression with groups, alternatives, repetitions and classes of characters.  Only its form
matters here: whether it makes sense with the settings, and how deep its parts are nested.
-/

namespace AuditLabels.Log.Pattern

/-! ## Reading -/

/-- What has been read of a pattern. -/
structure Scan where
  /-- The innermost group. -/
  group : OpenGroup
  /-- The groups around it, from the innermost. -/
  outer : List OpenGroup
  /-- The names of groups. -/
  names : List (List Char)

namespace Scan

/-- Nothing has been read. -/
def start : Scan := ⟨.start .standard, [], []⟩

/-- One more part. -/
def push (s : Scan) (height : Nat) : Scan := { s with group := s.group.push height }

/-- Open a group, unless its name is taken, or change the settings. -/
def enter (s : Scan) : Opening → Option Scan
  | .settings settings => some { s with group := s.group.change settings }
  | .group settings none => some ⟨.start settings, s.group :: s.outer, s.names⟩
  | .group settings (some name) =>
    if s.names.contains name then none
    else some ⟨.start settings, s.group :: s.outer, name :: s.names⟩

/-- Close a group.  The settings are those of the group around it again. -/
def leave (s : Scan) : Option Scan :=
  match s.outer with
  | [] => none
  | g :: outer => some ⟨g.push (s.group.rows.total + 1), outer, s.names⟩

/-- Repeat the last part. -/
def repeatLast (s : Scan) : Option Scan := s.group.repeatLast.map fun g => { s with group := g }

/-- What has been read is a pattern. -/
def isComplete (s : Scan) : Bool := s.outer.isEmpty && s.group.rows.total ≤ heightLimit

end Scan

/-- Take the part of a pattern that begins with `c`.  A repetition may be followed by a question
mark that makes it a lazy one.  A number of repetitions between braces never makes sense, since no
closing brace can stand in a filter. -/
def takePart (s : Scan) (c : Char) (cs : List Char) : Option (Scan × List Char) :=
  let settings := s.group.settings
  if c = '(' then do
    let (opening, rest) ← takeOpening settings cs
    return (← s.enter opening, rest)
  else if c = ')' then s.leave.map fun s => (s, cs)
  else if c = '|' then some ({ s with group := s.group.alternate }, cs)
  else if c = '[' then do
    let (height, rest) ← takeClass settings cs .start [] (← openClass settings cs)
    return (s.push height, rest)
  else if c = '*' ∨ c = '+' ∨ c = '?' then
    s.repeatLast.map fun s => (s, if cs.head? = some '?' then cs.tail else cs)
  else if c = '\x7b' then none
  else do
    let (sign, rest) ← Sign.take settings c cs
    if sign.isKnown settings then some (s.push 0, rest) else none

/-- The characters are the rest of a pattern.  Every round takes at least one character and one item
of the clock. -/
def isRest : List Char → Scan → List Char → Bool
  | [], s, cs => (s.group.settings.skip cs).isEmpty && s.isComplete
  | _ :: clock, s, cs => match s.group.settings.skip cs with
    | [] => s.isComplete
    | c :: cs => match takePart s c cs with
      | some (s, rest) => isRest clock s rest
      | none => false

/-- The characters are a pattern. -/
def isPattern (cs : List Char) : Bool := isRest cs .start cs

/-! ## Values -/

/-- The characters are digits, and there is one. -/
def areDigits (cs : List Char) : Bool := !cs.isEmpty && cs.all Char.isDigit

/-- An exponent, or nothing. -/
def isExponent : List Char → Bool
  | [] => true
  | c :: cs =>
    (c = 'e' || c = 'E') &&
      areDigits (if cs.head? = some '+' ∨ cs.head? = some '-' then cs.tail else cs)

/-- A decimal number without a sign, with a digit on at least one side of its point, or the name of
a number that has no digits. -/
def isDecimal (cs : List Char) : Bool :=
  let rest := cs.dropWhile Char.isDigit
  let (fraction, exponent) := match rest with
    | '.' :: r => (r.takeWhile Char.isDigit, r.dropWhile Char.isDigit)
    | r => ([], r)
  (((cs.takeWhile Char.isDigit) ++ fraction).length != 0 && isExponent exponent) ||
    ["inf", "infinity", "nan"].contains (String.ofList (cs.map Text.asciiLower))

/-- The characters are what a filter may ask of a value.  A number with a plus sign in front is no
pattern; every other number is. -/
def isValue : List Char → Bool
  | '+' :: cs => isDecimal cs
  | cs => isPattern cs

end AuditLabels.Log.Pattern

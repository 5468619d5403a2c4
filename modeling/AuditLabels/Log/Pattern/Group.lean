import AuditLabels.Log.Pattern.Row
import AuditLabels.Log.Pattern.Settings
import AuditLabels.Text.Alphanumeric

/-!
# Groups of patterns

A group stands between parentheses.  Behind a question mark it may have a name or change the
settings, for itself or for the rest of the group that it stands in.
-/

namespace AuditLabels.Log.Pattern

/-! ## Names -/

/-- A character at the beginning of the name of a group. -/
def isNameHead (c : Char) : Bool := c = '_' || Text.isAlphabetic c

/-- A character of the name of a group. -/
def isNameChar (c : Char) : Bool :=
  c = '_' || c = '.' || c = '[' || c = ']' || Text.isAlphanumeric c

/-- The name of a group, up to the bracket that closes it, and the rest. -/
def takeName (cs : List Char) : Option (List Char × List Char) :=
  let name := cs.takeWhile (· != '>')
  match cs.dropWhile (· != '>') with
  | _ :: rest =>
    if name.head?.any isNameHead && name.all isNameChar then some (name, rest) else none
  | [] => none

/-! ## Openings -/

/-- What an opening parenthesis opens. -/
inductive Opening where
  /-- A group with its settings and, perhaps, its name. -/
  | group (settings : Settings) (name? : Option (List Char))
  /-- Settings for what follows; the parenthesis is closed already. -/
  | settings (settings : Settings)

/-- What is opened by settings behind a question mark, and the rest. -/
def takeChange (s : Settings) (cs : List Char) : Option (Opening × List Char) :=
  let change := cs.takeWhile fun c => c != ':' && c != ')'
  if Settings.isChange change then
    match cs.drop change.length with
    | [] => none
    | c :: rest =>
      if c = ':' then some (.group (s.apply change) none, rest)
      else if change.isEmpty then none
      else some (.settings (s.apply change), rest)
  else none

/-- What an opening parenthesis opens, and the rest. -/
def takeOpening (s : Settings) (cs : List Char) : Option (Opening × List Char) :=
  match s.skip cs with
  | '?' :: 'P' :: '<' :: rest | '?' :: '<' :: rest =>
    (takeName rest).map fun (name, rest) => (.group s (some name), rest)
  | '?' :: rest => takeChange s rest
  | rest => some (.group s none, rest)

/-! ## Groups -/

/-- A group that is not closed, or the whole pattern. -/
structure OpenGroup where
  /-- The settings for what follows. -/
  settings : Settings
  /-- Its alternatives. -/
  rows : Rows
  /-- The height of the last part, if it may be repeated. -/
  repeatable? : Option Nat

namespace OpenGroup

/-- Nothing has been read. -/
def start (s : Settings) : OpenGroup := ⟨s, .empty, none⟩

/-- One more part, which may be repeated. -/
def push (g : OpenGroup) (height : Nat) : OpenGroup :=
  { g with rows := g.rows.push height, repeatable? := some height }

/-- One more part, which changes the settings. -/
def change (g : OpenGroup) (s : Settings) : OpenGroup := ⟨s, g.rows.push 0, none⟩

/-- Begin an alternative. -/
def alternate (g : OpenGroup) : OpenGroup :=
  { g with rows := g.rows.alternate, repeatable? := none }

/-- Repeat the last part, which is then nested once more. -/
def repeatLast (g : OpenGroup) : Option OpenGroup :=
  g.repeatable?.map fun height =>
    { g with rows := g.rows.grow (height + 1), repeatable? := some (height + 1) }

end OpenGroup

end AuditLabels.Log.Pattern

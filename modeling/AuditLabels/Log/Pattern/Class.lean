import AuditLabels.Log.Pattern.Row
import AuditLabels.Log.Pattern.Sign

/-!
# Classes of characters

A class stands between brackets: characters, ranges, families, named classes and classes, one after
another.  Two equal signs of `&`, `-` or `~` combine what is in front of them with what follows.  A
class of the characters that are not in it needs characters: among bytes those are not ASCII.
-/

namespace AuditLabels.Log.Pattern

/-! ## Members -/

/-- The names of classes between colons. -/
def classNames : List String :=
  ["alnum", "alpha", "ascii", "blank", "cntrl", "digit", "graph", "lower", "print", "punct",
   "space", "upper", "word", "xdigit"]

/-- A named class whose opening bracket has been taken: whether it stands for all other characters,
and the rest. -/
def takeNamed : List Char → Option (Bool × List Char)
  | ':' :: cs =>
    let others := cs.head? == some '^'
    let cs := if others then cs.tail else cs
    match cs.dropWhile (· != ':') with
    | ':' :: ']' :: rest =>
      if classNames.contains (String.ofList (cs.takeWhile (· != ':'))) then some (others, rest)
      else none
    | _ => none
  | _ => none

/-- A named class makes sense. -/
def isNamed (s : Settings) (others : Bool) : Bool := if s.unicode then !s.anyCase else !others

/-- A member of a class, and the rest. -/
def takeMember (s : Settings) : List Char → Option (Sign × List Char)
  | [] => none
  | c :: cs => do
    let (sign, rest) ← if c = '\\' then Sign.takeEscape s cs else some (.char c, cs)
    if sign.isMember s then some (sign, rest) else none

/-- Two members are the ends of a range, which ascends. -/
def ascends (low high : Sign) : Bool :=
  match low.char?, high.char? with
  | some a, some b => a ≤ b
  | _, _ => false

/-- What is behind a member of a class or a range of them. -/
def takeRange (s : Settings) (cs : List Char) : Option (List Char) := do
  let (low, rest) ← takeMember s cs
  match s.skip rest with
  | '-' :: more =>
    if s.next? more = some ']' ∨ s.next? more = some '-' then some ('-' :: more)
    else do
      let (high, rest) ← takeMember s (s.skip more)
      if ascends low high then some rest else none
  | rest => some rest

/-! ## Classes -/

/-- Two characters that combine the classes around them. -/
def isCombination (a b : Char) : Bool := a = b && (a = '&' || a = '-' || a = '~')

/-- A class that is not closed. -/
structure OpenClass where
  /-- At the beginning, where dashes stand for themselves. -/
  fresh : Bool
  /-- Its members. -/
  rows : Rows

namespace OpenClass

/-- Nothing has been read. -/
def start : OpenClass := ⟨true, .empty⟩

/-- One more member. -/
def push (k : OpenClass) (height : Nat) : OpenClass := ⟨false, k.rows.push height⟩

/-- The character is a member and no sign: a dash at the beginning, or a closing bracket there with
nothing in front of it. -/
def isPlain (k : OpenClass) (c : Char) : Bool :=
  k.fresh && (c = '-' || (c = ']' && k.rows.last.count = 0))

end OpenClass

/-- What is behind the beginning of a class, and the mark of a class of all other characters. -/
def openClass (s : Settings) (cs : List Char) : Option (List Char) :=
  match s.skip cs with
  | '^' :: rest => if s.unicode then some rest else none
  | rest => some rest

/-- The height of the class `k` within the classes `outer`, and what is behind the outermost.  Every
round takes at least one character and one item of the clock. -/
def takeClass (s : Settings) :
    List Char → OpenClass → (outer : List OpenClass) → List Char → Option (Nat × List Char)
  | [], _, _, _ => none
  | _ :: clock, k, outer, cs => match s.skip cs with
    | [] => none
    | c :: cs =>
      if k.isPlain c then
        if (Sign.char c).isMember s then takeClass s clock ⟨c = '-', k.rows.push 0⟩ outer cs
        else none
      else if c = ']' then
        match outer with
        | [] => some (k.rows.total + 1, cs)
        | o :: outer => takeClass s clock (o.push (k.rows.total + 1)) outer cs
      else if c = '[' then
        match takeNamed cs with
        | some (others, rest) =>
          if isNamed s others then takeClass s clock (k.push 0) outer rest else none
        | none => match openClass s cs with
          | some rest => takeClass s clock .start (k :: outer) rest
          | none => none
      else if cs.head?.any (isCombination c) then
        takeClass s clock ⟨false, k.rows.combine⟩ outer cs.tail
      else match takeRange s (c :: cs) with
        | some rest => takeClass s clock (k.push 0) outer rest
        | none => none

end AuditLabels.Log.Pattern

import AuditLabels.Log.Entry
import AuditLabels.Log.Pattern.Basic
import AuditLabels.Text.Alphanumeric
import AuditLabels.Text.Blank
import AuditLabels.Text.Lowercase
import AuditLabels.Text.Utf8

/-!
# Log filters

A filter is a list of directives with commas between them.  A directive is a level for every target,
a target whose entries are all written, or a target with the level up to which they are.  A target
stands for all that begin with it, and may be followed by brackets with the name of a field that the
entries have to have.  Of the directives that concern an entry the one with the longest target
decides, and of those with the same target one with a field.  A directive that asks for a span or
for the value of a field does not concern events outside of spans.
-/

namespace AuditLabels.Log

/-! ## Levels -/

/-- The level up to which entries are written; `off` writes none. -/
inductive Threshold where
  | off
  | upTo (level : Level)
  deriving DecidableEq, Repr

namespace Threshold

/-- Entries of this level are written. -/
def admits : Threshold → Level → Bool
  | off, _ => false
  | upTo most, level => level.rank ≤ most.rank

/-- Thresholds with their names, in the order of their numbers. -/
def names : List (String × Threshold) :=
  [("off", off), ("error", upTo .error), ("warn", upTo .warn), ("info", upTo .info),
   ("debug", upTo .debug), ("trace", upTo .trace)]

/-- The threshold that a number or a name in any ASCII case says. -/
def parse? (cs : List Char) : Option Threshold :=
  match (Text.unsigned? cs).bind fun n => names[n]? with
  | some (_, t) => some t
  | none => names.lookup (String.ofList (cs.map Text.asciiLower))

end Threshold

/-! ## Directives -/

/-- What to do with the entries of every target that begins with the given one and, if there is a
field, have it. -/
structure Rule where
  target : List Char
  field? : Option String
  threshold : Threshold
  deriving DecidableEq, Repr

/-- One part of a filter. -/
inductive Directive where
  | rule (r : Rule)
  /-- Entries inside of some spans. -/
  | inSpan
  deriving DecidableEq, Repr

namespace Rule

/-- The rule is about an event. -/
def concerns (r : Rule) (e : Event) : Bool :=
  r.target.isPrefixOf e.target.toList &&
    r.field?.all fun f => f = "message" || e.fields.any fun field => field.1 == f

/-- Of two rules about one event, the first one counts: its target is longer or, where both have the
same target, it has a field and the other has none or one whose name is not greater. -/
def precedes (a b : Rule) : Bool :=
  b.target.length < a.target.length ||
    (a.target.length == b.target.length &&
      match a.field?, b.field? with
      | _, none => true
      | none, some _ => false
      | some f, some g => g ≤ f)

end Rule

namespace Directive

/-- What may stand at the beginning of a directive. -/
def isHead (c : Char) : Bool :=
  c = '[' || c = '-' || c = ':' || c = '_' || Text.isAlphanumeric c

/-- A threshold behind an equals sign; none means everything. -/
def threshold? (cs : List Char) : Option Threshold :=
  if cs.isEmpty then some (.upTo .trace) else Threshold.parse? cs

/-- A field in braces: its name, which may be empty in front of a value, and whether a value is
asked for. -/
def parseField? (cs : List Char) : Option (String × Bool) :=
  let name := cs.takeWhile (· != '=')
  match cs.dropWhile (· != '=') with
  | [] => if name.isEmpty then none else some (String.ofList name, false)
  | _ :: value =>
    if Pattern.isValue (value.takeWhile (· != '=')) then some (String.ofList name, true) else none

/-- The number of bytes of the first `n` characters of a text. -/
def bytesOf (word : List Char) (n : Nat) : Nat := Text.Utf8.size (word.take n)

/-- The text `cs` up to where the place `n` of `word` would be, if `word` were its beginning. -/
def before (cs word : List Char) (n : Nat) : List Char := Text.Utf8.takeBytes (bytesOf word n) cs

/-- The text `cs` from where the place `n` of `word` would be, if `word` were its beginning. -/
def behind (cs word : List Char) (n : Nat) : List Char := Text.Utf8.dropBytes (bytesOf word n) cs

/-- What is said behind the brackets of a directive, which end in front of the place `p`. -/
def parseEnd? (cs word : List Char) (p : Nat) : Option Threshold :=
  match word.drop p with
  | [] => some (.upTo .trace)
  | '=' :: _ => threshold? (behind cs word (p + 1))
  | _ => none

/-- A directive with brackets, the first of which is at the place `p`. -/
def parseBrackets? (cs word : List Char) (p : Nat) : Option Directive :=
  let span := (word.drop (p + 1)).takeWhile fun c => c != ']' && c != '\x7b'
  let q := p + 1 + span.length
  match word.drop q with
  | ']' :: _ => (parseEnd? cs word (q + 1)).map fun _ => inSpan
  | '\x7b' :: rest =>
    let stop := q + 1 + (rest.takeWhile (· != '\x7d')).length
    match word.drop stop with
    | '\x7d' :: ']' :: _ => do
      let length := bytesOf word stop - bytesOf word (q + 1)
      let (name, valued) ← parseField? (Text.Utf8.takeBytes length (behind cs word (q + 1)))
      let threshold ← parseEnd? cs word (stop + 2)
      return if span.isEmpty && !valued then rule ⟨before cs word p, some name, threshold⟩
        else inSpan
    | _ => none
  | _ => none

/-- The directive that a part of a filter says.  Blanks around it do not count where its signs are
looked for, but they do where the text between the signs is taken from it. -/
def parse? (cs : List Char) : Option Directive :=
  let word := Text.trim cs
  if word.head?.any isHead then
    let p := (word.takeWhile fun c => c != '=' && c != '[').length
    match word.drop p with
    | [] => some <| match Threshold.parse? cs with
      | some t => rule ⟨[], none, t⟩
      | none => rule ⟨cs, none, .upTo .trace⟩
    | '[' :: _ => parseBrackets? cs word p
    | _ => (threshold? (behind cs word (p + 1))).map fun t => rule ⟨before cs word p, none, t⟩
  else none

end Directive

/-! ## Filters -/

/-- The parts of a filter, in order. -/
structure Filter where
  directives : List Directive
  deriving DecidableEq, Repr

namespace Filter

/-- The filter that a text says, if each of its parts is a directive.  Empty parts do not count. -/
def parse? (s : String) : Option Filter :=
  (((Text.split ',' s.toList).filter fun cs => !cs.isEmpty).mapM Directive.parse?).map Filter.mk

/-- Entries up to a level. -/
def upTo (level : Level) : Filter := ⟨[.rule ⟨[], none, .upTo level⟩]⟩

/-- The filter that a text says, or, where there is none or it does not make sense, everything up to
a level. -/
def ofText? (text? : Option String) (level : Level) : Filter :=
  (text?.bind parse?).getD (upTo level)

/-- The rule that decides about an event so far; of two equal ones the later counts. -/
def better (e : Event) (best : Option Rule) : Directive → Option Rule
  | .inSpan => best
  | .rule r => if r.concerns e && best.all r.precedes then some r else best

/-- The rule that decides about an event, if there is one. -/
def rule? (f : Filter) (e : Event) : Option Rule := f.directives.foldl (better e) none

/-- An event is written. -/
def admits (f : Filter) (e : Event) : Bool :=
  (f.rule? e).any fun r => r.threshold.admits e.level

end Filter

end AuditLabels.Log

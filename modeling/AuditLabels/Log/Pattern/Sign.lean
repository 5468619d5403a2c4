import AuditLabels.Log.Pattern.Settings
import AuditLabels.Text.Numeral

/-!
# Signs of patterns

A sign is the smallest part of a pattern: a character, a family of characters that a letter names,
or a place in the text.  Some signs make sense only with some settings: no tables of characters are
at hand, so families and the places around words are known for bytes alone, and letters of any case
again for bytes alone.  What bytes alone match has to be ASCII.
-/

namespace AuditLabels.Log.Pattern

/-- What a sign stands for. -/
inductive Sign where
  /-- A character. -/
  | char (c : Char)
  /-- The character or the byte of a number below 256. -/
  | byte (c : Char)
  /-- A family of characters, or all others than those. -/
  | family (others : Bool)
  /-- Any character. -/
  | any
  /-- The beginning or the end of a line or of the text. -/
  | edge
  /-- A place at the edge of a word, or elsewhere. -/
  | wordEdge
  deriving DecidableEq, Repr

namespace Sign

/-! ## Meaning -/

/-- The sign makes sense by itself. -/
def isKnown (s : Settings) : Sign → Bool
  | char _ => !(s.unicode && s.anyCase)
  | byte c => if s.unicode then !s.anyCase else c.toNat < 0x80
  | family others => !s.unicode && !others
  | any => s.unicode
  | edge => true
  | wordEdge => !s.unicode

/-- The sign makes sense in a class. -/
def isMember (s : Settings) : Sign → Bool
  | char c | byte c => if s.unicode then !s.anyCase else c.toNat < 0x80
  | family others => !s.unicode && !others
  | any | edge | wordEdge => false

/-- The character that the sign stands for, if it stands for one. -/
def char? : Sign → Option Char
  | char c | byte c => some c
  | _ => none

/-! ## Escapes -/

/-- A character with a meaning of its own in patterns. -/
def isMeta (c : Char) : Bool := "\\.+*?()|[]\x7b\x7d^$#&-~".toList.contains c

/-- A character that a backslash makes stand for itself. -/
def isEscapable (c : Char) : Bool :=
  isMeta c || (c.toNat < 0x80 && !c.isAlphanum && c != '<' && c != '>')

/-- The letters with a meaning behind a backslash, except those in front of a number. -/
def ofLetter? (c : Char) : Option Sign :=
  ([('a', char '\x07'), ('f', char '\x0c'), ('t', char '\t'), ('n', char '\n'), ('r', char '\r'),
    ('v', char '\x0b'), ('A', edge), ('z', edge), ('b', wordEdge), ('B', wordEdge),
    ('<', wordEdge), ('>', wordEdge), ('d', family false), ('s', family false),
    ('w', family false), ('D', family true), ('S', family true), ('W', family true)] :
    List (Char × Sign)).lookup c

/-- The number that `count` hexadecimal digits go on to write behind those of `n`, and the rest. -/
def takeHex (s : Settings) : (count n : Nat) → List Char → Option (Nat × List Char)
  | 0, n, cs => some (n, cs)
  | count + 1, n, cs => match s.skip cs with
    | [] => none
    | c :: cs => (Text.hexDigit? c).bind fun d => takeHex s count (16 * n + d) cs

/-- The character with the code point that `count` hexadecimal digits write, and the rest. -/
def takeCodePoint (s : Settings) (count : Nat) (cs : List Char) : Option (Char × List Char) :=
  (takeHex s count 0 cs).bind fun (n, rest) =>
    if n.isValidChar then some (Char.ofNat n, rest) else none

/-- The sign that a backslash introduces, and the rest. -/
def takeEscape (s : Settings) : List Char → Option (Sign × List Char)
  | [] => none
  | c :: cs =>
    if isEscapable c then some (char c, cs)
    else if c = 'x' then (takeCodePoint s 2 cs).map fun (d, rest) => (byte d, rest)
    else if c = 'u' then (takeCodePoint s 4 cs).map fun (d, rest) => (char d, rest)
    else if c = 'U' then (takeCodePoint s 8 cs).map fun (d, rest) => (char d, rest)
    else (ofLetter? c).map fun sign => (sign, cs)

/-- The sign at the beginning of a text that begins with `c`, and the rest. -/
def take (s : Settings) (c : Char) (cs : List Char) : Option (Sign × List Char) :=
  if c = '\\' then takeEscape s cs
  else if c = '.' then some (any, cs)
  else if c = '^' ∨ c = '$' then some (edge, cs)
  else some (char c, cs)

end Sign

end AuditLabels.Log.Pattern

import AuditLabels.Text.Blank

/-!
# Settings of patterns

Letters in a pattern say how what follows in the same group is read: whether the case of letters
counts, whether signs stand for characters or for bytes, and whether blanks and comments count.  The
other letters concern only what the pattern matches.
-/

namespace AuditLabels.Log.Pattern

/-- How a part of a pattern is read. -/
structure Settings where
  /-- The case of letters does not count. -/
  anyCase : Bool
  /-- Signs stand for characters, and not for bytes. -/
  unicode : Bool
  /-- Blanks and comments do not count. -/
  spaced : Bool
  deriving DecidableEq, Repr

namespace Settings

/-- The settings at the beginning of a pattern. -/
def standard : Settings := ⟨false, true, false⟩

/-! ## Changes -/

/-- The letters that a change of settings may have, and the dash in front of those that are switched
off. -/
def letters : List Char := "-imsRuUx".toList

/-- The characters change settings: there is nothing twice, and a letter behind the dash. -/
def isChange (cs : List Char) : Bool :=
  cs.all letters.contains && cs.eraseDups.length == cs.length && cs.getLast? != some '-'

/-- What a change makes of the setting of one letter. -/
def switch (change : List Char) (letter : Char) (old : Bool) : Bool :=
  if (change.takeWhile (· != '-')).contains letter then true else old && !change.contains letter

/-- The settings after a change. -/
def apply (s : Settings) (change : List Char) : Settings :=
  ⟨switch change 'i' s.anyCase, switch change 'u' s.unicode, switch change 'x' s.spaced⟩

/-! ## Blanks and comments -/

/-- The text from its first character that is neither blank nor in a comment.  A comment begins with
a hash and ends with its line, or with the text. -/
def skipSpace : (inComment : Bool) → List Char → List Char
  | _, [] => []
  | true, c :: cs => skipSpace (c != '\n') cs
  | false, c :: cs =>
    if c = '#' then skipSpace true cs
    else if Text.isBlank c then skipSpace false cs
    else c :: cs

/-- The text from its first character that counts. -/
def skip (s : Settings) (cs : List Char) : List Char := if s.spaced then skipSpace false cs else cs

/-- The character behind a dash that says whether the dash makes a range.  Where blanks do not count
it is the first that is not blank, and the mark of a comment does not count either. -/
def next? (s : Settings) (cs : List Char) : Option Char :=
  if s.spaced then
    match Text.trimStart cs with
    | '#' :: cs => (Text.trimStart cs).head?
    | cs => cs.head?
  else cs.head?

end Settings

end AuditLabels.Log.Pattern

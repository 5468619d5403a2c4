import AuditLabels.Text.Blank

/-!
# Lines of a file of variables

A line ends at a line break outside quotes, so a quoted value may go over several lines of the text.
A hash sign that opens a line, or that follows a blank outside quotes, starts a comment up to the
line break.  A last line whose quotes are not closed, or that ends in a lone backslash or in a
blank, is not a line.
-/

namespace AuditLabels.Dotenv

/-! ## The scanner -/

/-- What the characters of a line so far mean for the next one. -/
inductive Scan where
  /-- Nothing but blanks so far. -/
  | start
  | plain
  /-- Behind a blank, where a comment may begin. -/
  | blank
  /-- Behind a backslash outside quotes. -/
  | escape
  | weak
  | weakEscape
  | strong
  | strongEscape
  | comment
  deriving DecidableEq, Repr

namespace Scan

/-- A character that is neither quoted nor behind a blank. -/
def bare (c : Char) : Scan :=
  if c = '\\' then escape
  else if c = '"' then weak
  else if c = '\'' then strong
  else plain

/-- Take one more character of the line. -/
def step : Scan → Char → Scan
  | start, c => if c = '#' then comment else if Text.isBlank c then start else bare c
  | plain, c => if Text.isBlank c && c != '\n' && c != '\r' then blank else bare c
  | blank, c => if c = '#' then comment else bare c
  | escape, _ => plain
  | weak, c => if c = '\\' then weakEscape else if c = '"' then plain else weak
  | weakEscape, _ => weak
  | strong, c => if c = '\\' then strongEscape else if c = '\'' then plain else strong
  | strongEscape, _ => strong
  | comment, _ => comment

/-- A line may end here. -/
def atEnd : Scan → Bool
  | start | plain | comment => true
  | _ => false

end Scan

/-! ## Lines -/

/-- The lines of a text, the first of which has begun: `acc` holds its characters in reverse.
Characters of comments are left out. -/
def linesFrom : Scan → List Char → List Char → List (List Char)
  | s, acc, [] => if s.atEnd then [acc.reverse] else []
  | s, acc, c :: cs =>
    let next := s.step c
    if c = '\n' && next.atEnd then acc.reverse :: linesFrom .start [] cs
    else if next = .comment then linesFrom next acc cs
    else linesFrom next (c :: acc) cs

/-- The lines of a text. -/
def lines (text : List Char) : List (List Char) := linesFrom .start [] text

end AuditLabels.Dotenv

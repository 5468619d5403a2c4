import Mathlib
import AuditLabels.Json.Skip

/-!
# The form of JSON texts

What stands in a text, said without a reader: blanks, numerals, strings and values as sets of words
over characters.  A string that is only read past may hold any escape of the right shape; a string
that is decoded may not hold half of a pair.
-/

namespace AuditLabels.Json

/-! ## Blanks -/

/-- Blank, line feed, tab or carriage return. -/
def isBlank (c : Char) : Bool := c == ' ' || c == '\n' || c == '\t' || c == '\r'

/-- Any number of blanks. -/
def Blanks (w : List Char) : Prop := ∀ c ∈ w, isBlank c = true

theorem blanks_nil : Blanks [] := by
  intro c hc
  cases hc

theorem Blanks.append {a b : List Char} (ha : Blanks a) (hb : Blanks b) : Blanks (a ++ b) := by
  intro c hc
  rcases List.mem_append.1 hc with h | h
  · exact ha c h
  · exact hb c h

theorem blanks_takeWhile (w : List Char) : Blanks (w.takeWhile isBlank) := by
  intro c hc
  exact List.all_eq_true.1 List.all_takeWhile c hc

/-! ## Numerals -/

/-- One or more digits. -/
def Digits (w : List Char) : Prop := w ≠ [] ∧ ∀ c ∈ w, c.isDigit = true

/-- The digits before the point: a lone zero, or digits that do not begin with one. -/
def Whole (w : List Char) : Prop := w = ['0'] ∨ Digits w ∧ w.head? ≠ some '0'

/-- A point and digits, or nothing. -/
inductive Fraction : List Char → Prop
  | none : Fraction []
  | digits {w : List Char} : Digits w → Fraction ('.' :: w)

/-- The letter of the exponent, a sign if need be and digits, or nothing. -/
inductive Exponent : List Char → Prop
  | none : Exponent []
  | digits {e : Char} {s w : List Char} : e = 'e' ∨ e = 'E' → s = [] ∨ s = ['+'] ∨ s = ['-'] →
      Digits w → Exponent (e :: s ++ w)

/-- A number, of whatever size. -/
inductive Numeral : List Char → Prop
  | intro {m w f e : List Char} : m = [] ∨ m = ['-'] → Whole w → Fraction f → Exponent e →
      Numeral (m ++ w ++ f ++ e)

/-- An integer of any size: no fraction, no exponent, and no minus before a zero. -/
inductive Integer : List Char → Int → Prop
  | natural {w : List Char} {n : Nat} : Whole w → Text.digits? w = some n → Integer w n
  | negative {w : List Char} {n : Nat} : Whole w → Text.digits? w = some n → 0 < n →
      Integer ('-' :: w) (-(n : Int))

/-- An integer of 64 bits: no fraction, no exponent, and no minus before a zero. -/
inductive Integer64 : List Char → Int → Prop
  | natural {w : List Char} {n : Nat} : Whole w → Text.digits? w = some n → n < 2 ^ 63 →
      Integer64 w n
  | negative {w : List Char} {n : Nat} : Whole w → Text.digits? w = some n → 0 < n → n ≤ 2 ^ 63 →
      Integer64 ('-' :: w) (-(n : Int))

theorem integer64_iff {w : List Char} {n : Int} :
    Integer64 w n ↔ Integer w n ∧ -2 ^ 63 ≤ n ∧ n < 2 ^ 63 := by
  constructor
  · intro h
    cases h with
    | natural hw hn hlt => exact ⟨.natural hw hn, by omega, by omega⟩
    | negative hw hn hpos hle => exact ⟨.negative hw hn hpos, by omega, by omega⟩
  · rintro ⟨h, hlow, hhigh⟩
    cases h with
    | natural hw hn => exact .natural hw hn (by omega)
    | negative hw hn hpos => exact .negative hw hn hpos (by omega)

/-! ## Strings -/

/-- A character that stands for itself inside a string. -/
def IsPlain (c : Char) : Prop := c ≠ '"' ∧ c ≠ '\\' ∧ 0x20 ≤ c.toNat

/-- The character that a letter behind a backslash stands for. -/
def shortMeaning? : Char → Option Char
  | '"' => some '"'
  | '\\' => some '\\'
  | '/' => some '/'
  | 'b' => some (Char.ofNat 0x08)
  | 'f' => some (Char.ofNat 0x0C)
  | 'n' => some (Char.ofNat 0x0A)
  | 'r' => some (Char.ofNat 0x0D)
  | 't' => some (Char.ofNat 0x09)
  | _ => none

/-- Four hexadecimal digits and the number they write. -/
inductive Hex4 : List Char → Nat → Prop
  | intro {a b c d : Char} {p q r s : Nat} : Text.hexDigit? a = some p → Text.hexDigit? b = some q →
      Text.hexDigit? c = some r → Text.hexDigit? d = some s →
      Hex4 [a, b, c, d] (((p * 16 + q) * 16 + r) * 16 + s)

/-- The digits of a numeric escape and the character it means: a number that is no surrogate, or the
two halves of a pair with the start of an escape between them. -/
inductive CodePoint : List Char → Char → Prop
  | one {h : List Char} {n : Nat} : Hex4 h n → isTrailSurrogate n = false →
      isLeadSurrogate n = false → CodePoint h (Char.ofNat n)
  | two {h k : List Char} {n m : Nat} : Hex4 h n → isLeadSurrogate n = true → Hex4 k m →
      isTrailSurrogate m = true →
      CodePoint (h ++ '\\' :: 'u' :: k)
        (Char.ofNat ((n - 0xD800) * 0x400 + (m - 0xDC00) + 0x10000))

/-- What may stand behind a backslash, and the character it means. -/
inductive Escape : List Char → Char → Prop
  | short {c d : Char} : shortMeaning? c = some d → Escape [c] d
  | numeric {h : List Char} {c : Char} : CodePoint h c → Escape ('u' :: h) c

/-- What may stand behind a backslash if nobody asks what it means. -/
inductive EscapeShape : List Char → Prop
  | short {c d : Char} : shortMeaning? c = some d → EscapeShape [c]
  | numeric {h : List Char} {n : Nat} : Hex4 h n → EscapeShape ('u' :: h)

/-- What may stand between the quotes of a string that is decoded, and the text it means. -/
inductive Spells : List Char → List Char → Prop
  | nil : Spells [] []
  | plain {c : Char} {w m : List Char} : IsPlain c → Spells w m → Spells (c :: w) (c :: m)
  | escape {e w m : List Char} {c : Char} : Escape e c → Spells w m →
      Spells ('\\' :: (e ++ w)) (c :: m)

/-- What may stand between the quotes of a string that is read past. -/
inductive Inside : List Char → Prop
  | nil : Inside []
  | plain {c : Char} {w : List Char} : IsPlain c → Inside w → Inside (c :: w)
  | escape {e w : List Char} : EscapeShape e → Inside w → Inside ('\\' :: (e ++ w))

/-! ## Values -/

/-- The character that opens a bracket. -/
def Bracket.opener : Bracket → Char
  | list => '['
  | map => '{'

/-- The byte that opens a bracket. -/
def Bracket.opening : Bracket → UInt8
  | list => 0x5B
  | map => 0x7B

/-- The character that closes a bracket. -/
def Bracket.closer : Bracket → Char
  | list => ']'
  | map => '}'

/-- What stands before an element of a bracket: blanks, and in a map a name and a colon. -/
inductive Label : Bracket → List Char → Prop
  | list {a : List Char} : Blanks a → Label .list a
  | map {a n b c : List Char} : Blanks a → Inside n → Blanks b → Blanks c →
      Label .map (a ++ '"' :: (n ++ '"' :: (b ++ ':' :: c)))

/-- A value that is no list and no map. -/
inductive Scalar : List Char → Prop
  | nullWord : Scalar ['n', 'u', 'l', 'l']
  | trueWord : Scalar ['t', 'r', 'u', 'e']
  | falseWord : Scalar ['f', 'a', 'l', 's', 'e']
  | numeral {w : List Char} : Numeral w → Scalar w
  | text {w : List Char} : Inside w → Scalar ('"' :: (w ++ ['"']))

mutual

/-- A value of any kind, nested as deep as may be. -/
inductive Value : List Char → Prop
  | scalar {w : List Char} : Scalar w → Value w
  | empty {k : Bracket} {w : List Char} : Blanks w → Value (k.opener :: (w ++ [k.closer]))
  | bracket {k : Bracket} {w : List Char} : Items k w → Value (k.opener :: (w ++ [k.closer]))

/-- The elements of a bracket, one or more, with commas between them and blanks around them. -/
inductive Items : Bracket → List Char → Prop
  | last {k : Bracket} {l w b : List Char} : Label k l → Value w → Blanks b →
      Items k (l ++ (w ++ b))
  | more {k : Bracket} {l w b v : List Char} : Label k l → Value w → Blanks b → Items k v →
      Items k (l ++ (w ++ (b ++ ',' :: v)))

end

/-! ## Sequences -/

/-- What stands before an element: blanks, and a comma unless it is the first one. -/
inductive Before : Bool → List Char → Prop
  | first {a : List Char} : Blanks a → Before true a
  | later {a b : List Char} : Blanks a → Blanks b → Before false (a ++ ',' :: b)

/-- Any number of words of one form, with commas between them and blanks around them; without more
words, only blanks.  The flag says that none stands before them. -/
inductive Elements {α : Type} (P : List Char → α → Prop) : Bool → List Char → List α → Prop
  | nil {first : Bool} {a : List Char} : Blanks a → Elements P first a []
  | cons {first : Bool} {l w v : List Char} {x : α} {xs : List α} : Before first l → P w x →
      Elements P false v xs → Elements P first (l ++ (w ++ v)) (x :: xs)

/-- What stands before one more word of a sequence: words of one form, with what stands before each
of them and before the one to come. -/
inductive Leading {α : Type} (P : List Char → α → Prop) : Bool → List Char → List α → Prop
  | nil {first : Bool} {l : List Char} : Before first l → Leading P first l []
  | cons {first : Bool} {l w v : List Char} {x : α} {xs : List α} : Before first l → P w x →
      Leading P false v xs → Leading P first (l ++ (w ++ v)) (x :: xs)

/-- A bracket around any number of words of one form. -/
inductive Bracketed {α : Type} (k : Bracket) (P : List Char → α → Prop) :
    List Char → List α → Prop
  | intro {w : List Char} {xs : List α} : Elements P true w xs →
      Bracketed k P (k.opener :: (w ++ [k.closer])) xs

/-- A member of a map: its name, and a value of a form that depends on the name. -/
inductive Member {α : Type} (P : String → List Char → α → Prop) : List Char → String × α → Prop
  | intro {n b c w : List Char} {name : String} {x : α} : Spells n name.toList → Blanks b →
      Blanks c → P name w x →
      Member P ('"' :: (n ++ '"' :: (b ++ ':' :: (c ++ w)))) (name, x)

/-- A word of one form with blanks around it. -/
def Document {α : Type} (P : List Char → α → Prop) (t : List Char) (x : α) : Prop :=
  ∃ a w b, Blanks a ∧ P w x ∧ Blanks b ∧ t = a ++ w ++ b

/-- A word without blanks around it. -/
theorem document_of {α : Type} {P : List Char → α → Prop} {w : List Char} {x : α} (h : P w x) :
    Document P w x :=
  ⟨[], w, [], blanks_nil, h, blanks_nil, by rw [List.append_nil, List.nil_append]⟩

theorem Before.append_blanks {first : Bool} {l b : List Char} (hl : Before first l)
    (hb : Blanks b) : Before first (l ++ b) := by
  cases hl with
  | first ha => exact .first (ha.append hb)
  | later ha hc =>
    rw [List.append_assoc, List.cons_append]
    exact .later ha (hc.append hb)

end AuditLabels.Json

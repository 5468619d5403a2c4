import AuditLabels.Http.Percent
import AuditLabels.Http.Target
import AuditLabels.Proofs.Text.Utf8

/-!
# Percent-encoding is undone

A text can be percent-encoded in many ways: any of its bytes may be escaped, in digits of either
case, and an unreserved character may also stand for itself.  Decoding undoes all of them.
-/

namespace AuditLabels.Http.Percent

open Text.Utf8

/-! ## Ways of writing -/

/-- A character that may always stand for itself: a letter, a digit or one of four signs. -/
def isUnreserved (c : Char) : Bool :=
  ('a' ≤ c && c ≤ 'z') || ('A' ≤ c && c ≤ 'Z') || ('0' ≤ c && c ≤ '9') || c == '-' || c == '.' ||
    c == '_' || c == '~'

/-- The characters write the bytes. -/
inductive Writes : List Char → List UInt8 → Prop
  | nil : Writes [] []
  | literal {c : Char} {w : List Char} {bs : List UInt8} : isUnreserved c = true → Writes w bs →
      Writes (c :: w) (UInt8.ofNat c.toNat :: bs)
  | escaped {x y : Char} {high low : Nat} {w : List Char} {bs : List UInt8} :
      Text.hexDigit? x = some high → Text.hexDigit? y = some low → Writes w bs →
      Writes ('%' :: x :: y :: w) (UInt8.ofNat (16 * high + low) :: bs)

/-- The characters write the text. -/
def Spells (w : List Char) (s : String) : Prop := Writes w (encode s.toList)

/-! ## Decoding -/

theorem hexValue?_of_isByte {c : Char} {b : UInt8} (h : IsByte c b) :
    hexValue? b = Text.hexDigit? c := by
  rw [hexValue?, h.ofNat_toNat]

theorem decodeBytes_cons_of_ne {b : UInt8} (hb : b ≠ 0x25) (r : List UInt8) :
    decodeBytes (b :: r) = b :: decodeBytes r := by
  rw [decodeBytes.eq_def]
  split
  · next h => exact absurd (List.cons.inj h).1 hb
  · next h =>
    obtain ⟨rfl, rfl⟩ := List.cons.inj h
    rfl
  · next h => cases h

theorem decodeBytes_escaped {x y : UInt8} {high low : Nat} (hx : hexValue? x = some high)
    (hy : hexValue? y = some low) (r : List UInt8) :
    decodeBytes (0x25 :: x :: y :: r) = UInt8.ofNat (16 * high + low) :: decodeBytes r := by
  rw [decodeBytes, hx, hy]

theorem toNat_lt_of_isUnreserved {c : Char} (h : isUnreserved c = true) : c.toNat < 0x80 := by
  have hle : ∀ d : Char, d.toNat < 0x80 → c ≤ d → c.toNat < 0x80 := by
    intro d hd hc
    exact Nat.lt_of_le_of_lt (UInt32.le_iff_toNat_le.1 hc) hd
  simp only [isUnreserved, Bool.or_eq_true, Bool.and_eq_true, decide_eq_true_iff, beq_iff_eq] at h
  rcases h with (((((h | h) | h) | rfl) | rfl) | rfl) | rfl
  · exact hle 'z' (by decide) h.2
  · exact hle 'Z' (by decide) h.2
  · exact hle '9' (by decide) h.2
  all_goals decide

/-- **Decoding undoes every way of writing.** -/
theorem decodeBytes_encode {w : List Char} {bs : List UInt8} (h : Writes w bs) :
    decodeBytes (encode w) = bs := by
  induction h with
  | nil => rfl
  | @literal c w bs hc _ ih =>
    have hbyte : IsByte c (UInt8.ofNat c.toNat) := ⟨toNat_lt_of_isUnreserved hc, rfl⟩
    have hne : c ≠ '%' := by
      rintro rfl
      exact absurd hc (by decide)
    rw [encode_cons_of_isByte hbyte,
      decodeBytes_cons_of_ne (hbyte.ne (d := '%') (by decide) hne), ih]
  | @escaped x y high low w bs hx hy _ ih =>
    have hx' : IsByte x (UInt8.ofNat x.toNat) := ⟨Text.toNat_lt_of_hexDigit? hx, rfl⟩
    have hy' : IsByte y (UInt8.ofNat y.toNat) := ⟨Text.toNat_lt_of_hexDigit? hy, rfl⟩
    rw [encode_cons_of_isByte (b := 0x25) (by decide), encode_cons_of_isByte hx',
      encode_cons_of_isByte hy',
      decodeBytes_escaped ((hexValue?_of_isByte hx').trans hx) ((hexValue?_of_isByte hy').trans hy),
      ih]

theorem decode?_of_spells {w : List Char} {s : String} (h : Spells w s) :
    decode? w = some s.toList := by
  rw [decode?, decodeBytes_encode h, decode?_encode]

/-- A text of unreserved characters may be written as it is. -/
theorem spells_toList {s : String} (h : ∀ c ∈ s.toList, isUnreserved c = true) :
    Spells s.toList s := by
  have hwrites : ∀ cs : List Char, (∀ c ∈ cs, isUnreserved c = true) → Writes cs (encode cs) := by
    intro cs hcs
    induction cs with
    | nil => exact .nil
    | cons c cs ih =>
      have hc := hcs c List.mem_cons_self
      rw [encode_cons_of_lt (toNat_lt_of_isUnreserved hc)]
      exact .literal hc (ih fun d hd => hcs d (List.mem_cons_of_mem c hd))
  exact hwrites _ h

/-- Only the empty text is written with no characters. -/
theorem ne_nil_of_spells {w : List Char} {s : String} (h : Spells w s) (hs : s ≠ "") : w ≠ [] := by
  rintro rfl
  have hnil : ∀ {bs : List UInt8}, Writes [] bs → bs = [] := by
    rintro bs ⟨⟩
    rfl
  exact hs (String.toList_eq_nil_iff.1 (eq_nil_of_encode_eq_nil (hnil h)))

/-! ## Characters that are written -/

/-- A character that may stand in a segment of a path wherever the path is cut. -/
def isSegmentChar (c : Char) : Bool :=
  Target.isPathChar c && c != '/' && c != '?' && c != '#'

/-- The characters that percent-encoding writes are ASCII, so they can be gone through. -/
theorem isSegmentChar_of_or {c : Char} (hascii : c.toNat < 0x80)
    (hc : isUnreserved c = true ∨ (Text.hexDigit? c).isSome = true) : isSegmentChar c = true := by
  have hall : ∀ n < 0x80, isUnreserved (Char.ofNat n) = true ∨
      (Text.hexDigit? (Char.ofNat n)).isSome = true → isSegmentChar (Char.ofNat n) = true := by
    decide
  have hchar := hall c.toNat hascii
  rw [Char.ofNat_toNat] at hchar
  exact hchar hc

theorem isSegmentChar_of_isUnreserved {c : Char} (hc : isUnreserved c = true) :
    isSegmentChar c = true :=
  isSegmentChar_of_or (toNat_lt_of_isUnreserved hc) (.inl hc)

theorem isSegmentChar_of_hexDigit? {c : Char} {v : Nat} (hc : Text.hexDigit? c = some v) :
    isSegmentChar c = true := by
  refine isSegmentChar_of_or (Text.toNat_lt_of_hexDigit? hc) (.inr ?_)
  rw [hc]
  rfl

/-- **No way of writing ends a segment.** -/
theorem isSegmentChar_of_writes {w : List Char} {bs : List UInt8} (h : Writes w bs) :
    ∀ c ∈ w, isSegmentChar c = true := by
  induction h with
  | nil =>
    intro c hc
    cases hc
  | literal hl _ ih =>
    intro c hc
    rcases List.mem_cons.1 hc with rfl | hc
    · exact isSegmentChar_of_isUnreserved hl
    · exact ih c hc
  | escaped hx hy _ ih =>
    intro c hc
    rcases List.mem_cons.1 hc with rfl | hc
    · decide
    rcases List.mem_cons.1 hc with rfl | hc
    · exact isSegmentChar_of_hexDigit? hx
    rcases List.mem_cons.1 hc with rfl | hc
    · exact isSegmentChar_of_hexDigit? hy
    · exact ih c hc

end AuditLabels.Http.Percent

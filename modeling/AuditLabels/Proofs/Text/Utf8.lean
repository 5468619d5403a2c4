import AuditLabels.Text.Utf8

/-!
# Bytes of texts

Decoding the bytes of a text gives the text back, and a byte below `80` at the front of the bytes
of a text is a whole character.  With the second fact, readers that look at one ASCII byte at a time
can be followed along the characters of the text.
-/

namespace AuditLabels.Text.Utf8

/-! ## Decoding what was encoded -/

/-- A number below 256 is kept by a byte. -/
theorem toNat_ofNat {n : Nat} (h : n < 256) : (UInt8.ofNat n).toNat = n := by
  rw [UInt8.toNat_ofNat']
  omega

/-- A byte below `80` is a character. -/
theorem decodeOnto_one (acc : List Char) (r : List UInt8) {v : Nat} (h : v ≤ 0x7F) :
    decodeOnto acc (UInt8.ofNat v :: r) = decodeOnto (Char.ofNat v :: acc) r := by
  have ha : (UInt8.ofNat v).toNat = v := toNat_ofNat (by omega)
  have hlow : UInt8.ofNat v < 0x80 := by
    rw [UInt8.lt_iff_toNat_lt, ha]
    show v < 128
    omega
  rw [decodeOnto.eq_def]
  dsimp only
  rw [if_pos hlow, ha]

/-- A byte from `80` on is no character by itself. -/
theorem not_lt_of_le_toNat {a : UInt8} (h : 0x80 ≤ a.toNat) : ¬ a < 0x80 := by
  rw [UInt8.lt_iff_toNat_lt]
  show ¬ a.toNat < 128
  omega

/-- A byte in a range. -/
theorem between_iff {low high a : UInt8} :
    (low ≤ a && a ≤ high) = true ↔ low.toNat ≤ a.toNat ∧ a.toNat ≤ high.toNat := by
  rw [Bool.and_eq_true, decide_eq_true_iff, decide_eq_true_iff, UInt8.le_iff_toNat_le,
    UInt8.le_iff_toNat_le]

/-- A continuation byte. -/
theorem isTail_ofNat (n : Nat) : isTail (UInt8.ofNat (n % 0x40 + 0x80)) = true := by
  have hb : (UInt8.ofNat (n % 0x40 + 0x80)).toNat = n % 0x40 + 0x80 := toNat_ofNat (by omega)
  rw [isTail, between_iff, hb]
  show 128 ≤ n % 64 + 128 ∧ n % 64 + 128 ≤ 191
  omega

/-- The bits of a continuation byte. -/
theorem tailBits_ofNat (n : Nat) : tailBits (UInt8.ofNat (n % 0x40 + 0x80)) = n % 0x40 := by
  rw [tailBits, toNat_ofNat (by omega)]
  omega

/-- A character of two bytes. -/
theorem decodeOnto_two (acc : List Char) (r : List UInt8) {v : Nat} (hlow : 0x7F < v)
    (hhigh : v ≤ 0x7FF) :
    decodeOnto acc (UInt8.ofNat (v / 64 % 0x20 + 0xC0) :: UInt8.ofNat (v % 0x40 + 0x80) :: r) =
      decodeOnto (Char.ofNat v :: acc) r := by
  have ha : (UInt8.ofNat (v / 64 % 0x20 + 0xC0)).toNat = v / 64 % 0x20 + 0xC0 :=
    toNat_ofNat (by omega)
  have hb := isTail_ofNat v
  have hbits := tailBits_ofNat v
  generalize UInt8.ofNat (v / 64 % 0x20 + 0xC0) = a at *
  generalize UInt8.ofNat (v % 0x40 + 0x80) = b at *
  have h2 : (0xC2 ≤ a && a ≤ 0xDF) = true := by
    rw [between_iff, ha]
    show 194 ≤ v / 64 % 32 + 192 ∧ v / 64 % 32 + 192 ≤ 223
    omega
  have hv : a.toNat % 0x20 * 0x40 + tailBits b = v := by
    rw [ha, hbits]
    omega
  rw [decodeOnto.eq_def]
  dsimp only
  rw [if_neg (not_lt_of_le_toNat (by omega))]
  simp only [h2, hb, hv, if_true]

/-- A character of three bytes, which is no surrogate. -/
theorem decodeOnto_three (acc : List Char) (r : List UInt8) {v : Nat} (hlow : 0x7FF < v)
    (hhigh : v ≤ 0xFFFF) (hs : v < 0xD800 ∨ 0xDFFF < v) :
    decodeOnto acc (UInt8.ofNat (v / 4096 % 0x10 + 0xE0) :: UInt8.ofNat (v / 64 % 0x40 + 0x80) ::
      UInt8.ofNat (v % 0x40 + 0x80) :: r) = decodeOnto (Char.ofNat v :: acc) r := by
  have ha : (UInt8.ofNat (v / 4096 % 0x10 + 0xE0)).toNat = v / 4096 % 0x10 + 0xE0 :=
    toNat_ofNat (by omega)
  have hb : (UInt8.ofNat (v / 64 % 0x40 + 0x80)).toNat = v / 64 % 0x40 + 0x80 :=
    toNat_ofNat (by omega)
  have htail := isTail_ofNat (v / 64)
  have hbbits := tailBits_ofNat (v / 64)
  have hc := isTail_ofNat v
  have hcbits := tailBits_ofNat v
  generalize UInt8.ofNat (v / 4096 % 0x10 + 0xE0) = a at *
  generalize UInt8.ofNat (v / 64 % 0x40 + 0x80) = b at *
  generalize UInt8.ofNat (v % 0x40 + 0x80) = c at *
  have h2 : ¬ (0xC2 ≤ a && a ≤ 0xDF) = true := by
    rw [between_iff, ha]
    show ¬ (194 ≤ v / 4096 % 16 + 224 ∧ v / 4096 % 16 + 224 ≤ 223)
    omega
  have h3 : (0xE0 ≤ a && a ≤ 0xEF) = true := by
    rw [between_iff, ha]
    show 224 ≤ v / 4096 % 16 + 224 ∧ v / 4096 % 16 + 224 ≤ 239
    omega
  -- behind `E0` and `ED` the second byte is bounded: no short form, no surrogate
  have hlead : isLead3 a b = true := by
    unfold isLead3
    split
    · next he =>
      have he' : v / 4096 % 0x10 + 0xE0 = 224 := by rw [← ha, he]; rfl
      rw [between_iff, hb]
      show 160 ≤ v / 64 % 64 + 128 ∧ v / 64 % 64 + 128 ≤ 191
      omega
    · split
      · next he =>
        have he' : v / 4096 % 0x10 + 0xE0 = 237 := by rw [← ha, he]; rfl
        rw [between_iff, hb]
        show 128 ≤ v / 64 % 64 + 128 ∧ v / 64 % 64 + 128 ≤ 159
        omega
      · exact htail
  have hv : (a.toNat % 0x10 * 0x40 + tailBits b) * 0x40 + tailBits c = v := by
    rw [ha, hbbits, hcbits]
    omega
  rw [decodeOnto.eq_def]
  dsimp only
  rw [if_neg (not_lt_of_le_toNat (by omega))]
  simp only [h2, h3, hlead, hc, hv, Bool.and_self, if_true, if_false, Bool.false_eq_true]

/-- A character of four bytes. -/
theorem decodeOnto_four (acc : List Char) (r : List UInt8) {v : Nat} (hlow : 0xFFFF < v)
    (hhigh : v ≤ 0x10FFFF) :
    decodeOnto acc (UInt8.ofNat (v / 262144 % 0x08 + 0xF0) ::
      UInt8.ofNat (v / 4096 % 0x40 + 0x80) :: UInt8.ofNat (v / 64 % 0x40 + 0x80) ::
      UInt8.ofNat (v % 0x40 + 0x80) :: r) = decodeOnto (Char.ofNat v :: acc) r := by
  have ha : (UInt8.ofNat (v / 262144 % 0x08 + 0xF0)).toNat = v / 262144 % 0x08 + 0xF0 :=
    toNat_ofNat (by omega)
  have hb : (UInt8.ofNat (v / 4096 % 0x40 + 0x80)).toNat = v / 4096 % 0x40 + 0x80 :=
    toNat_ofNat (by omega)
  have htail := isTail_ofNat (v / 4096)
  have hbbits := tailBits_ofNat (v / 4096)
  have hc := isTail_ofNat (v / 64)
  have hcbits := tailBits_ofNat (v / 64)
  have hd := isTail_ofNat v
  have hdbits := tailBits_ofNat v
  generalize UInt8.ofNat (v / 262144 % 0x08 + 0xF0) = a at *
  generalize UInt8.ofNat (v / 4096 % 0x40 + 0x80) = b at *
  generalize UInt8.ofNat (v / 64 % 0x40 + 0x80) = c at *
  generalize UInt8.ofNat (v % 0x40 + 0x80) = d at *
  have h2 : ¬ (0xC2 ≤ a && a ≤ 0xDF) = true := by
    rw [between_iff, ha]
    show ¬ (194 ≤ v / 262144 % 8 + 240 ∧ v / 262144 % 8 + 240 ≤ 223)
    omega
  have h3 : ¬ (0xE0 ≤ a && a ≤ 0xEF) = true := by
    rw [between_iff, ha]
    show ¬ (224 ≤ v / 262144 % 8 + 240 ∧ v / 262144 % 8 + 240 ≤ 239)
    omega
  have h4 : (0xF0 ≤ a && a ≤ 0xF4) = true := by
    rw [between_iff, ha]
    show 240 ≤ v / 262144 % 8 + 240 ∧ v / 262144 % 8 + 240 ≤ 244
    omega
  -- behind `F0` and `F4` the second byte is bounded: no short form, nothing beyond the last plane
  have hlead : isLead4 a b = true := by
    unfold isLead4
    split
    · next he =>
      have he' : v / 262144 % 0x08 + 0xF0 = 240 := by rw [← ha, he]; rfl
      rw [between_iff, hb]
      show 144 ≤ v / 4096 % 64 + 128 ∧ v / 4096 % 64 + 128 ≤ 191
      omega
    · split
      · next he =>
        have he' : v / 262144 % 0x08 + 0xF0 = 244 := by rw [← ha, he]; rfl
        rw [between_iff, hb]
        show 128 ≤ v / 4096 % 64 + 128 ∧ v / 4096 % 64 + 128 ≤ 143
        omega
      · exact htail
  have hv : ((a.toNat % 8 * 0x40 + tailBits b) * 0x40 + tailBits c) * 0x40 + tailBits d = v := by
    rw [ha, hbbits, hcbits, hdbits]
    omega
  rw [decodeOnto.eq_def]
  dsimp only
  rw [if_neg (not_lt_of_le_toNat (by omega))]
  simp only [h2, h3, h4, hlead, hc, hd, hv, Bool.and_self, if_true, if_false,
    Bool.false_eq_true]

/-- The bytes of a character are decoded as the character. -/
theorem decodeOnto_utf8EncodeChar (acc : List Char) (c : Char) (r : List UInt8) :
    decodeOnto acc (String.utf8EncodeChar c ++ r) = decodeOnto (c :: acc) r := by
  have hc : Char.ofNat c.val.toNat = c := Char.ofNat_toNat c
  have hvalid : c.val.toNat < 0xD800 ∨ 0xDFFF < c.val.toNat ∧ c.val.toNat < 0x110000 := c.valid
  unfold String.utf8EncodeChar
  dsimp only
  split
  · next h => rw [List.cons_append, List.nil_append, decodeOnto_one acc r h, hc]
  · split
    · next h1 h =>
      rw [List.cons_append, List.cons_append, List.nil_append,
        decodeOnto_two acc r (by omega) h, hc]
    · split
      · next h2 h =>
        rw [List.cons_append, List.cons_append, List.cons_append, List.nil_append,
          decodeOnto_three acc r (by omega) h (by omega), hc]
      · next h =>
        rw [List.cons_append, List.cons_append, List.cons_append, List.cons_append,
          List.nil_append, decodeOnto_four acc r (by omega) (by omega), hc]

/-- Characters are decoded one after another. -/
theorem decodeOnto_encode (acc cs : List Char) :
    decodeOnto acc (encode cs) = .ok (acc.reverse ++ cs) := by
  induction cs generalizing acc with
  | nil =>
    rw [encode_nil, List.append_nil]
    rfl
  | cons c cs ih =>
    rw [encode_cons, decodeOnto_utf8EncodeChar, ih, List.reverse_cons, List.append_assoc,
      List.singleton_append]

/-- **What was encoded is decoded.** -/
@[simp] theorem decode_encode (cs : List Char) : decode (encode cs) = .ok cs :=
  decodeOnto_encode [] cs

/-- The bytes of a text have the text. -/
@[simp] theorem decode?_encode (cs : List Char) : decode? (encode cs) = some cs := by
  rw [decode?, decode_encode]
  rfl

/-! ## Characters at the front -/

/-- An ASCII character is one byte. -/
theorem utf8EncodeChar_of_lt {c : Char} (h : c.toNat < 0x80) :
    String.utf8EncodeChar c = [UInt8.ofNat c.toNat] := by
  have hle : c.val.toNat ≤ 0x7F := Nat.le_of_lt_succ h
  rw [String.utf8EncodeChar, if_pos hle]
  rfl

/-- All bytes of a character beyond ASCII are continuation bytes or lead to some. -/
theorem le_of_mem_utf8EncodeChar {c : Char} (h : 0x80 ≤ c.toNat) {b : UInt8}
    (hb : b ∈ String.utf8EncodeChar c) : 0x80 ≤ b.toNat := by
  have hne : ¬ c.val.toNat ≤ 0x7F := Nat.not_le_of_lt h
  have hlarge : ∀ n k : Nat, 0x80 ≤ k → n + k < 256 → 0x80 ≤ (UInt8.ofNat (n + k)).toNat := by
    intro n k hk hlt
    rw [toNat_ofNat hlt]
    omega
  unfold String.utf8EncodeChar at hb
  simp only [if_neg hne] at hb
  split at hb
  · simp only [List.mem_cons, List.not_mem_nil, or_false] at hb
    rcases hb with rfl | rfl <;> exact hlarge _ _ (by omega) (by omega)
  · split at hb
    · simp only [List.mem_cons, List.not_mem_nil, or_false] at hb
      rcases hb with rfl | rfl | rfl <;> exact hlarge _ _ (by omega) (by omega)
    · simp only [List.mem_cons, List.not_mem_nil, or_false] at hb
      rcases hb with rfl | rfl | rfl | rfl <;> exact hlarge _ _ (by omega) (by omega)

/-- An ASCII character at the front of a text is its byte at the front of the bytes. -/
theorem encode_cons_of_lt {c : Char} (h : c.toNat < 0x80) (cs : List Char) :
    encode (c :: cs) = UInt8.ofNat c.toNat :: encode cs := by
  rw [encode_cons, utf8EncodeChar_of_lt h]
  rfl

/-- ASCII characters have one byte each. -/
theorem size_eq_length {cs : List Char} (h : ∀ c ∈ cs, c.toNat < 0x80) : size cs = cs.length := by
  induction cs with
  | nil => rfl
  | cons c cs ih =>
    have hrest := ih fun d hd => h d (List.mem_cons_of_mem c hd)
    rw [size] at hrest ⊢
    rw [encode_cons_of_lt (h c List.mem_cons_self), List.length_cons, List.length_cons, hrest]

/-- A text without bytes is empty. -/
theorem eq_nil_of_encode_eq_nil {cs : List Char} (h : encode cs = []) : cs = [] := by
  cases cs with
  | nil => rfl
  | cons c cs =>
    have hlen := congrArg List.length h
    rw [encode_cons, List.length_append, String.length_utf8EncodeChar, List.length_nil] at hlen
    have := c.utf8Size_pos
    omega

/-- **ASCII is where it seems to be.**  A byte below `80` at the front of the bytes of a text is its
first character. -/
theorem front_of_encode_eq_cons {cs : List Char} {b : UInt8} {rest : List UInt8}
    (h : encode cs = b :: rest) (hb : b < 0x80) :
    ∃ v, cs = Char.ofNat b.toNat :: v ∧ rest = encode v := by
  cases cs with
  | nil => cases h
  | cons c v =>
    by_cases hc : c.toNat < 0x80
    · rw [encode_cons_of_lt hc] at h
      obtain ⟨rfl, rfl⟩ := List.cons.inj h
      rw [toNat_ofNat (by omega)]
      exact ⟨v, by rw [Char.ofNat_toNat], rfl⟩
    -- the first byte of any other character is too large
    · have hmem : b ∈ String.utf8EncodeChar c := by
        have hpos : String.utf8EncodeChar c ≠ [] := by
          intro hnil
          have hlen := String.length_utf8EncodeChar c
          have := c.utf8Size_pos
          rw [hnil, List.length_nil] at hlen
          omega
        obtain ⟨a, t, ht⟩ := List.exists_cons_of_ne_nil hpos
        rw [encode_cons, ht, List.cons_append] at h
        obtain ⟨rfl, -⟩ := List.cons.inj h
        rw [ht]
        exact List.mem_cons_self
      have hhigh := le_of_mem_utf8EncodeChar (by omega) hmem
      exact absurd hb (not_lt_of_le_toNat hhigh)

/-- The character is written as this one byte. -/
def IsByte (c : Char) (b : UInt8) : Prop := c.toNat < 0x80 ∧ UInt8.ofNat c.toNat = b

instance (c : Char) (b : UInt8) : Decidable (IsByte c b) :=
  inferInstanceAs (Decidable (_ ∧ _))

theorem isByte_ofNat_toNat {b : UInt8} (hb : b < 0x80) : IsByte (Char.ofNat b.toNat) b := by
  have hlt : b.toNat < 0x80 := UInt8.lt_iff_toNat_lt.1 hb
  have hc : (Char.ofNat b.toNat).toNat = b.toNat := by
    rw [Char.ofNat, dif_pos (Or.inl (by omega))]
    rfl
  refine ⟨by omega, ?_⟩
  rw [hc, UInt8.ofNat_toNat]

/-- The byte of a character has the number of the character. -/
theorem IsByte.toNat_eq {c : Char} {b : UInt8} (h : IsByte c b) : b.toNat = c.toNat := by
  rw [← h.2, toNat_ofNat (by have := h.1; omega)]

theorem IsByte.ofNat_toNat {c : Char} {b : UInt8} (h : IsByte c b) : Char.ofNat b.toNat = c := by
  rw [h.toNat_eq, Char.ofNat_toNat]

/-- Different characters have different bytes. -/
theorem IsByte.ne {c d : Char} {a b : UInt8} (hc : IsByte c a) (hd : IsByte d b) (h : c ≠ d) :
    a ≠ b := by
  rintro rfl
  exact h (Char.toNat_inj.1 (hc.toNat_eq.symm.trans hd.toNat_eq))

theorem encode_cons_of_isByte {c : Char} {b : UInt8} (h : IsByte c b) (cs : List Char) :
    encode (c :: cs) = b :: encode cs := by
  rw [encode_cons_of_lt h.1, h.2]

/-- The byte at the front of a text tells the character. -/
theorem front_of_isByte {c : Char} {b : UInt8} {cs : List Char} {rest : List UInt8}
    (hc : IsByte c b) (h : encode cs = b :: rest) : ∃ v, cs = c :: v ∧ rest = encode v := by
  have hlt : b < 0x80 := by
    rw [UInt8.lt_iff_toNat_lt, hc.toNat_eq]
    exact hc.1
  obtain ⟨v, hv, hr⟩ := front_of_encode_eq_cons h hlt
  rw [hc.toNat_eq, Char.ofNat_toNat] at hv
  exact ⟨v, hv, hr⟩

/-- A whole word at the front of a text. -/
theorem front_of_encode_append {w cs : List Char} (hw : ∀ c ∈ w, c.toNat < 0x80)
    {rest : List UInt8} (h : encode cs = encode w ++ rest) :
    ∃ v, cs = w ++ v ∧ rest = encode v := by
  induction w generalizing cs with
  | nil => exact ⟨cs, rfl, h.symm⟩
  | cons c w ih =>
    have hc : IsByte c (UInt8.ofNat c.toNat) := ⟨hw c List.mem_cons_self, rfl⟩
    rw [encode_cons_of_isByte hc, List.cons_append] at h
    obtain ⟨u, rfl, hu⟩ := front_of_isByte hc h
    obtain ⟨v, rfl, hv⟩ := ih (fun d hd => hw d (List.mem_cons_of_mem c hd)) hu.symm
    exact ⟨v, rfl, hv⟩

/-- A class of bytes and a class of characters that say the same: ASCII only. -/
structure SameClass (p : UInt8 → Bool) (q : Char → Bool) : Prop where
  low : ∀ n < 0x80, p (UInt8.ofNat n) = q (Char.ofNat n)
  byte : ∀ b : UInt8, p b = true → b < 0x80
  char : ∀ c : Char, q c = true → c.toNat < 0x80

namespace SameClass

variable {p : UInt8 → Bool} {q : Char → Bool}

theorem eq_of_isByte (h : SameClass p q) {c : Char} {b : UInt8} (hc : IsByte c b) :
    p b = q c := by
  have hlow := h.low c.toNat hc.1
  rw [hc.2, Char.ofNat_toNat] at hlow
  exact hlow

/-- The first characters of a class are the first bytes of it. -/
theorem span_encode (h : SameClass p q) (cs : List Char) :
    (encode cs).takeWhile p = encode (cs.takeWhile q) ∧
      (encode cs).dropWhile p = encode (cs.dropWhile q) := by
  induction cs with
  | nil => exact ⟨rfl, rfl⟩
  | cons c cs ih =>
    by_cases hq : q c = true
    · have hc : IsByte c (UInt8.ofNat c.toNat) := ⟨h.char c hq, rfl⟩
      have hp : p (UInt8.ofNat c.toNat) = true := by rw [h.eq_of_isByte hc, hq]
      rw [List.takeWhile_cons_of_pos hq, List.dropWhile_cons_of_pos hq, encode_cons_of_isByte hc,
        encode_cons_of_isByte hc, List.takeWhile_cons_of_pos hp, List.dropWhile_cons_of_pos hp,
        ih.1, ih.2]
      exact ⟨rfl, rfl⟩
    · rw [List.takeWhile_cons_of_neg hq, List.dropWhile_cons_of_neg hq]
      cases hbytes : encode (c :: cs) with
      | nil => cases eq_nil_of_encode_eq_nil hbytes
      | cons b rest =>
        -- a byte of the class would be a character of it
        have hp : ¬ p b = true := by
          intro hp
          obtain ⟨v, hv, -⟩ := front_of_encode_eq_cons hbytes (h.byte b hp)
          obtain ⟨rfl, -⟩ := List.cons.inj hv
          exact hq (by rw [← h.eq_of_isByte (isByte_ofNat_toNat (h.byte b hp)), hp])
        rw [List.takeWhile_cons_of_neg hp, List.dropWhile_cons_of_neg hp]
        exact ⟨rfl, rfl⟩

end SameClass

end AuditLabels.Text.Utf8

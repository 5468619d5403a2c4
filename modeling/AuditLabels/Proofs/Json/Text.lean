import AuditLabels.Json.Value
import AuditLabels.Proofs.Json.Accepts

/-!
# Strings are read as written

A string is decoded exactly if its escapes and characters are in order, to the text it means, and
read past exactly if they have the right shape.  What is written of a string means that string.
-/

namespace AuditLabels.Json

open Text.Utf8

/-! ## Escapes of one letter -/

theorem shortMeaning?_ascii {c d : Char} (h : shortMeaning? c = some d) :
    c.toNat < 0x80 ∧ d.toNat < 0x80 := by
  unfold shortMeaning? at h
  split at h
  case h_9 => cases h
  all_goals
    obtain rfl := Option.some.inj h
    decide

/-- A letter behind a backslash means the same as a byte and as a character. -/
theorem shortEscape?_of_isByte {c : Char} {b : UInt8} (hc : IsByte c b) :
    shortEscape? b = (shortMeaning? c).map fun d => UInt8.ofNat d.toNat := by
  have hall : ∀ n < 0x80, shortEscape? (UInt8.ofNat n) =
      (shortMeaning? (Char.ofNat n)).map fun d => UInt8.ofNat d.toNat := by decide
  have h := hall c.toNat hc.1
  rw [hc.2, Char.ofNat_toNat] at h
  exact h

theorem lt_of_shortEscape? {a b : UInt8} (h : shortEscape? b = some a) : b < 0x80 := by
  unfold shortEscape? at h
  split at h
  · next hb => rcases hb with rfl | rfl | rfl <;> decide
  repeat (split at h; next hb => subst hb; decide)
  cases h

/-! ## Hexadecimal digits -/

theorem hexValue?_of_isByte {c : Char} {b : UInt8} (hc : IsByte c b) :
    hexValue? b = Text.hexDigit? c := by
  rw [hexValue?, hc.ofNat_toNat]

theorem lt_of_hexValue? {b : UInt8} {v : Nat} (h : hexValue? b = some v) : b < 0x80 := by
  have hc := Text.toNat_lt_of_hexDigit? h
  have hb : b.toNat < 256 := b.toNat_lt
  have hto : (Char.ofNat b.toNat).toNat = b.toNat := by
    rw [Char.ofNat, dif_pos (Or.inl (by omega))]
    rfl
  rw [UInt8.lt_iff_toNat_lt, ← hto]
  exact hc

/-- A hexadecimal digit at the front of a text. -/
theorem front_of_hexValue? {cs : List Char} {b : UInt8} {rest : List UInt8} {v : Nat}
    (h : encode cs = b :: rest) (hb : hexValue? b = some v) :
    ∃ c u, cs = c :: u ∧ Text.hexDigit? c = some v ∧ rest = encode u := by
  have hbyte := isByte_ofNat_toNat (lt_of_hexValue? hb)
  obtain ⟨u, rfl, rfl⟩ := front_of_isByte hbyte h
  rw [hexValue?_of_isByte hbyte] at hb
  exact ⟨_, u, rfl, hb, rfl⟩

theorem hex4_of_hex4 {cs : List Char} {n : Nat} {rest : List UInt8}
    (h : hex4 (encode cs) = .ok (n, rest)) : ∃ w v, Hex4 w n ∧ cs = w ++ v ∧ rest = encode v := by
  unfold hex4 at h
  split at h
  · next a b c d r hbytes =>
    split at h
    · next p q s t ha hb hc hd =>
      obtain ⟨rfl, rfl⟩ := Prod.mk.inj (Except.ok.inj h)
      obtain ⟨a', u, rfl, ha', hu⟩ := front_of_hexValue? hbytes ha
      obtain ⟨b', x, rfl, hb', hx⟩ := front_of_hexValue? hu.symm hb
      obtain ⟨c', y, rfl, hc', hy⟩ := front_of_hexValue? hx.symm hc
      obtain ⟨d', z, rfl, hd', hz⟩ := front_of_hexValue? hy.symm hd
      exact ⟨[a', b', c', d'], z, .intro ha' hb' hc' hd', rfl, hz⟩
    · cases h
  · cases h

theorem hex4_append {w : List Char} {n : Nat} (h : Hex4 w n) (rest : List UInt8) :
    hex4 (encode w ++ rest) = .ok (n, rest) := by
  obtain ⟨ha, hb, hc, hd⟩ := h
  have hbyte : ∀ {x : Char} {v : Nat}, Text.hexDigit? x = some v →
      IsByte x (UInt8.ofNat x.toNat) := fun hx => ⟨Text.toNat_lt_of_hexDigit? hx, rfl⟩
  rw [encode_cons_of_isByte (hbyte ha), encode_cons_of_isByte (hbyte hb),
    encode_cons_of_isByte (hbyte hc), encode_cons_of_isByte (hbyte hd), encode_nil]
  rw [List.cons_append, List.cons_append, List.cons_append, List.cons_append, List.nil_append, hex4]
  rw [hexValue?_of_isByte (hbyte ha), hexValue?_of_isByte (hbyte hb),
    hexValue?_of_isByte (hbyte hc), hexValue?_of_isByte (hbyte hd), ha, hb, hc, hd]

/-! ## Numeric escapes -/

theorem pairByte_eq_ok {b : UInt8} {bytes rest : List UInt8} :
    pairByte b bytes = .ok rest ↔ bytes = b :: rest := by
  cases bytes with
  | nil =>
    constructor
    · intro h
      cases h
    · intro h
      cases h
  | cons a r =>
    rw [pairByte]
    split
    · next hab =>
      constructor
      · intro h
        rw [hab, Except.ok.inj h]
      · intro h
        rw [(List.cons.inj h).2]
    · next hab =>
      constructor
      · intro h
        cases h
      · intro h
        exact absurd (List.cons.inj h).1 hab

/-- A number that was read is no surrogate, or the first half of a pair whose second half
follows. -/
theorem codePoint_of_readCodePoint {cs : List Char} {c : Char} {rest : List UInt8}
    (h : readCodePoint (encode cs) = .ok (c, rest)) :
    ∃ w v, CodePoint w c ∧ cs = w ++ v ∧ rest = encode v := by
  obtain ⟨⟨n, r⟩, hn, h⟩ := bind_eq_ok.1 h
  obtain ⟨w, v, hw, rfl, rfl⟩ := hex4_of_hex4 hn
  dsimp only at h
  split at h
  · cases h
  · next htrail =>
    split at h
    · next hlead =>
      -- the second half stands behind a backslash and a `u`
      obtain ⟨r₁, h₁, h⟩ := bind_eq_ok.1 h
      obtain ⟨v, rfl, rfl⟩ := front_of_isByte (c := '\\') (by decide) (pairByte_eq_ok.1 h₁)
      obtain ⟨r₂, h₂, h⟩ := bind_eq_ok.1 h
      obtain ⟨v, rfl, rfl⟩ := front_of_isByte (c := 'u') (by decide) (pairByte_eq_ok.1 h₂)
      obtain ⟨⟨m, r₃⟩, hm, h⟩ := bind_eq_ok.1 h
      obtain ⟨k, v, hk, rfl, rfl⟩ := hex4_of_hex4 hm
      dsimp only at h
      split at h
      · next hm' =>
        obtain ⟨rfl, rfl⟩ := Prod.mk.inj (Except.ok.inj h)
        refine ⟨_, v, .two hw hlead hk hm', ?_, rfl⟩
        rw [List.append_assoc, List.cons_append, List.cons_append]
      · cases h
    · next hlead =>
      obtain ⟨rfl, rfl⟩ := Prod.mk.inj (Except.ok.inj h)
      exact ⟨w, v, .one hw (Bool.eq_false_iff.2 htrail) (Bool.eq_false_iff.2 hlead), rfl, rfl⟩

/-- No number is both halves of a pair. -/
theorem not_isTrailSurrogate {n : Nat} (h : isLeadSurrogate n = true) :
    isTrailSurrogate n = false := by
  have hle : n ≤ 0xDBFF := of_decide_eq_true (Bool.and_eq_true_iff.1 h).2
  rw [isTrailSurrogate, decide_eq_false (by omega), Bool.false_and]

theorem readCodePoint_append {w : List Char} {c : Char} (h : CodePoint w c) (rest : List UInt8) :
    readCodePoint (encode w ++ rest) = .ok (c, rest) := by
  cases h with
  | one hw htrail hlead =>
    refine bind_eq_ok.2 ⟨_, hex4_append hw rest, ?_⟩
    dsimp only
    rw [htrail, hlead]
    rfl
  | two hw hlead hk htrail =>
    rw [encode_append, encode_cons_of_isByte (b := 0x5C) (by decide),
      encode_cons_of_isByte (b := 0x75) (by decide), List.append_assoc]
    refine bind_eq_ok.2 ⟨_, hex4_append hw _, ?_⟩
    dsimp only
    rw [not_isTrailSurrogate hlead, hlead]
    refine bind_eq_ok.2 ⟨_, pairByte_eq_ok.2 rfl, ?_⟩
    refine bind_eq_ok.2 ⟨_, pairByte_eq_ok.2 rfl, ?_⟩
    refine bind_eq_ok.2 ⟨_, hex4_append hk rest, ?_⟩
    dsimp only
    rw [htrail]
    rfl

/-! ## Escapes -/

theorem escape_of_readEscape {cs : List Char} {bytes rest : List UInt8}
    (h : readEscape (encode cs) = .ok (bytes, rest)) :
    ∃ e c v, Escape e c ∧ bytes = String.utf8EncodeChar c ∧ cs = e ++ v ∧ rest = encode v := by
  cases hcs : encode cs with
  | nil =>
    rw [hcs] at h
    cases h
  | cons b r =>
    rw [hcs, readEscape] at h
    split at h
    · next hb =>
      obtain ⟨v, rfl, rfl⟩ := front_of_isByte (c := 'u') (by rw [hb]; decide) hcs
      obtain ⟨⟨c, r⟩, hc, h⟩ := bind_eq_ok.1 h
      obtain ⟨rfl, rfl⟩ := Prod.mk.inj (Except.ok.inj h)
      obtain ⟨w, v, hw, rfl, rfl⟩ := codePoint_of_readCodePoint hc
      exact ⟨'u' :: w, c, v, .numeric hw, rfl, rfl, rfl⟩
    · split at h
      · next a ha =>
        obtain ⟨rfl, rfl⟩ := Prod.mk.inj (Except.ok.inj h)
        have hbyte := isByte_ofNat_toNat (lt_of_shortEscape? ha)
        obtain ⟨v, rfl, rfl⟩ := front_of_isByte hbyte hcs
        rw [shortEscape?_of_isByte hbyte, Option.map_eq_some_iff] at ha
        obtain ⟨d, hd, rfl⟩ := ha
        refine ⟨[_], d, v, .short hd, ?_, rfl, rfl⟩
        rw [utf8EncodeChar_of_lt (shortMeaning?_ascii hd).2]
      · cases h

/-- A letter that means something behind a backslash, as a byte. -/
theorem byte_of_shortMeaning? {l d : Char} (h : shortMeaning? l = some d) :
    ∃ b, IsByte l b ∧ b ≠ 0x75 ∧ shortEscape? b = some (UInt8.ofNat d.toNat) := by
  have hbyte : IsByte l (UInt8.ofNat l.toNat) := ⟨(shortMeaning?_ascii h).1, rfl⟩
  have hshort := shortEscape?_of_isByte hbyte
  rw [h] at hshort
  refine ⟨_, hbyte, ?_, hshort⟩
  intro hu
  rw [hu] at hshort
  cases hshort

theorem readEscape_append {e : List Char} {c : Char} (h : Escape e c) (rest : List UInt8) :
    readEscape (encode e ++ rest) = .ok (String.utf8EncodeChar c, rest) := by
  cases h with
  | short hl =>
    obtain ⟨b, hbyte, hu, hshort⟩ := byte_of_shortMeaning? hl
    rw [encode_cons_of_isByte hbyte, encode_nil, List.cons_append, List.nil_append, readEscape,
      if_neg hu, hshort, utf8EncodeChar_of_lt (shortMeaning?_ascii hl).2]
  | numeric hw =>
    rw [encode_cons_of_isByte (b := 0x75) (by decide), List.cons_append, readEscape, if_pos rfl]
    exact bind_eq_ok.2 ⟨_, readCodePoint_append hw rest, rfl⟩

theorem shape_of_skipEscape {cs : List Char} {rest : List UInt8}
    (h : skipEscape (encode cs) = .ok rest) :
    ∃ e v, EscapeShape e ∧ cs = e ++ v ∧ rest = encode v := by
  cases hcs : encode cs with
  | nil =>
    rw [hcs] at h
    cases h
  | cons b r =>
    rw [hcs, skipEscape] at h
    split at h
    · next hb =>
      obtain ⟨v, rfl, rfl⟩ := front_of_isByte (c := 'u') (by rw [hb]; decide) hcs
      obtain ⟨⟨n, r⟩, hn, rfl⟩ := map_eq_ok.1 h
      obtain ⟨w, v, hw, rfl, rfl⟩ := hex4_of_hex4 hn
      exact ⟨'u' :: w, v, .numeric hw, rfl, rfl⟩
    · split at h
      · next hb =>
        obtain rfl := Except.ok.inj h
        obtain ⟨a, ha⟩ := Option.isSome_iff_exists.1 hb
        have hbyte := isByte_ofNat_toNat (lt_of_shortEscape? ha)
        obtain ⟨v, rfl, rfl⟩ := front_of_isByte hbyte hcs
        rw [shortEscape?_of_isByte hbyte, Option.map_eq_some_iff] at ha
        obtain ⟨d, hd, -⟩ := ha
        exact ⟨[_], v, .short hd, rfl, rfl⟩
      · cases h

theorem skipEscape_append {e : List Char} (h : EscapeShape e) (rest : List UInt8) :
    skipEscape (encode e ++ rest) = .ok rest := by
  cases h with
  | short hl =>
    obtain ⟨b, hbyte, hu, hshort⟩ := byte_of_shortMeaning? hl
    rw [encode_cons_of_isByte hbyte, encode_nil, List.cons_append, List.nil_append, skipEscape,
      if_neg hu, hshort]
    rfl
  | numeric hw =>
    rw [encode_cons_of_isByte (b := 0x75) (by decide), List.cons_append, skipEscape, if_pos rfl,
      hex4_append hw rest]
    rfl

/-! ## Characters that stand for themselves -/

/-- A byte that stands for itself inside a string. -/
def IsPlainByte (b : UInt8) : Prop := b ≠ 0x22 ∧ b ≠ 0x5C ∧ ¬ b < 0x20

/-- The bytes of a plain character are plain. -/
theorem IsPlain.bytes {c : Char} (hc : IsPlain c) :
    ∀ b ∈ String.utf8EncodeChar c, IsPlainByte b := by
  intro b hb
  by_cases hlt : c.toNat < 0x80
  · rw [utf8EncodeChar_of_lt hlt, List.mem_singleton] at hb
    have hbyte : IsByte c b := ⟨hlt, hb.symm⟩
    refine ⟨hbyte.ne (d := '"') (by decide) hc.1, hbyte.ne (d := '\\') (by decide) hc.2.1, ?_⟩
    rw [UInt8.lt_iff_toNat_lt, hbyte.toNat_eq]
    exact Nat.not_lt_of_le hc.2.2
  · have hle := le_of_mem_utf8EncodeChar (Nat.le_of_not_lt hlt) hb
    have hne : ∀ x : UInt8, x.toNat < 0x80 → b ≠ x := by
      rintro x hx rfl
      omega
    refine ⟨hne 0x22 (by decide), hne 0x5C (by decide), ?_⟩
    rw [UInt8.lt_iff_toNat_lt]
    show ¬ b.toNat < 32
    omega

/-- Plain bytes are read one after another. -/
theorem readBytes_plain {bs : List UInt8} (hbs : ∀ b ∈ bs, IsPlainByte b) {clock : List UInt8}
    (hclock : bs.length ≤ clock.length) (acc r : List UInt8) :
    readBytes clock acc (bs ++ r) = readBytes (clock.drop bs.length) (bs.reverse ++ acc) r := by
  induction bs generalizing clock acc with
  | nil => rfl
  | cons b bs ih =>
    cases clock with
    | nil => cases hclock
    | cons t clock =>
      obtain ⟨hquote, hslash, hcontrol⟩ := hbs b List.mem_cons_self
      rw [List.cons_append, readBytes, if_neg hquote, if_neg hslash, if_neg hcontrol,
        ih (fun x hx => hbs x (List.mem_cons_of_mem b hx)) (Nat.le_of_succ_le_succ hclock),
        List.length_cons, List.drop_succ_cons, List.reverse_cons, List.append_assoc,
        List.singleton_append]

/-- Plain bytes are read past one after another. -/
theorem skipBytes_plain {bs : List UInt8} (hbs : ∀ b ∈ bs, IsPlainByte b) {clock : List UInt8}
    (hclock : bs.length ≤ clock.length) (r : List UInt8) :
    skipBytes clock (bs ++ r) = skipBytes (clock.drop bs.length) r := by
  induction bs generalizing clock with
  | nil => rfl
  | cons b bs ih =>
    cases clock with
    | nil => cases hclock
    | cons t clock =>
      obtain ⟨hquote, hslash, hcontrol⟩ := hbs b List.mem_cons_self
      rw [List.cons_append, skipBytes, if_neg hquote, if_neg hslash, if_neg hcontrol,
        ih (fun x hx => hbs x (List.mem_cons_of_mem b hx)) (Nat.le_of_succ_le_succ hclock),
        List.length_cons, List.drop_succ_cons]

/-- A byte that may not stand inside a string. -/
def IsControl (b : UInt8) : Prop := b ≠ 0x22 ∧ b ≠ 0x5C ∧ b < 0x20

/-- A character inside a string stands for itself, ends the string, begins an escape or is a
control. -/
theorem isPlain_or (c : Char) :
    IsPlain c ∨ c = '"' ∨ c = '\\' ∨ ∃ b, IsByte c b ∧ IsControl b := by
  by_cases hquote : c = '"'
  · exact .inr (.inl hquote)
  by_cases hslash : c = '\\'
  · exact .inr (.inr (.inl hslash))
  by_cases hlow : 0x20 ≤ c.toNat
  · exact .inl ⟨hquote, hslash, hlow⟩
  have hbyte : IsByte c (UInt8.ofNat c.toNat) := ⟨by omega, rfl⟩
  refine .inr (.inr (.inr ⟨_, hbyte, hbyte.ne (d := '"') (by decide) hquote,
    hbyte.ne (d := '\\') (by decide) hslash, ?_⟩))
  rw [UInt8.lt_iff_toNat_lt, hbyte.toNat_eq]
  exact Nat.lt_of_not_le hlow

/-! ## Strings -/

/-- A string that was read was written: by induction on the text, one character or escape at a
time. -/
theorem spells_of_readBytes {clock acc : List UInt8} {cs : List Char} {raw rest : List UInt8}
    (hclock : (encode cs).length ≤ clock.length)
    (h : readBytes clock acc (encode cs) = .ok (raw, rest)) :
    ∃ w m v, Spells w m ∧ cs = w ++ '"' :: v ∧ raw = acc.reverse ++ encode m ∧
      rest = encode v := by
  induction hlen : cs.length using Nat.strongRecOn generalizing clock acc cs with
  | ind n ih =>
  cases cs with
  | nil =>
    rw [encode_nil] at h
    cases clock <;> cases h
  | cons c cs =>
    rcases isPlain_or c with hplain | rfl | rfl | ⟨b, hbyte, hquote, hslash, hcontrol⟩
    -- a plain character is taken byte by byte, but only as a whole
    · rw [encode_cons] at h hclock
      obtain ⟨htaken, hdrop⟩ := length_le_drop hclock
      rw [readBytes_plain hplain.bytes htaken] at h
      obtain ⟨w, m, v, hw, rfl, rfl, rfl⟩ := ih cs.length (hlen ▸ Nat.lt_succ_self _) hdrop h rfl
      refine ⟨c :: w, c :: m, v, .plain hplain hw, rfl, ?_, rfl⟩
      rw [encode_cons, List.reverse_append, List.reverse_reverse, List.append_assoc]
    · rw [encode_cons_of_isByte (b := 0x22) (by decide)] at h hclock
      obtain ⟨t, clock, rfl, -⟩ := exists_cons_of_length_le (a := []) hclock
      rw [readBytes, if_pos rfl] at h
      obtain ⟨rfl, rfl⟩ := Prod.mk.inj (Except.ok.inj h)
      exact ⟨[], [], cs, .nil, rfl, (List.append_nil _).symm, rfl⟩
    · rw [encode_cons_of_isByte (b := 0x5C) (by decide)] at h hclock
      obtain ⟨t, clock, rfl, hle⟩ := exists_cons_of_length_le (a := []) hclock
      rw [readBytes, if_neg (by decide), if_pos rfl] at h
      split at h
      · next bytes r hescape =>
        obtain ⟨e, d, v, he, rfl, rfl, rfl⟩ := escape_of_readEscape hescape
        rw [List.nil_append, encode_append, List.length_append] at hle
        rw [List.length_cons, List.length_append] at hlen
        obtain ⟨w, m, z, hw, rfl, rfl, rfl⟩ :=
          ih v.length (by omega) (Nat.le_of_add_left_le hle) h rfl
        refine ⟨'\\' :: (e ++ w), d :: m, z, .escape he hw, ?_, ?_, rfl⟩
        · rw [List.cons_append, List.append_assoc]
        · rw [encode_cons, List.reverse_append, List.reverse_reverse, List.append_assoc]
      · cases h
    · rw [encode_cons_of_isByte hbyte] at h hclock
      obtain ⟨t, clock, rfl, -⟩ := exists_cons_of_length_le (a := []) hclock
      rw [readBytes, if_neg hquote, if_neg hslash, if_pos hcontrol] at h
      cases h

/-- A string that is written is read. -/
theorem readBytes_append {w m : List Char} (h : Spells w m) (rest : List UInt8)
    {clock acc : List UInt8} (hclock : (encode w ++ 0x22 :: rest).length ≤ clock.length) :
    readBytes clock acc (encode w ++ 0x22 :: rest) = .ok (acc.reverse ++ encode m, rest) := by
  induction h generalizing clock acc with
  | nil =>
    obtain ⟨t, clock, rfl, -⟩ := exists_cons_of_length_le (a := []) hclock
    rw [encode_nil, List.nil_append, readBytes, if_pos rfl, List.append_nil]
  | @plain c w m hc _ ih =>
    rw [encode_cons, List.append_assoc] at hclock ⊢
    obtain ⟨htaken, hdrop⟩ := length_le_drop hclock
    rw [readBytes_plain hc.bytes htaken, ih hdrop, encode_cons, List.reverse_append,
      List.reverse_reverse, List.append_assoc]
  | @escape e w m c he _ ih =>
    rw [encode_cons_of_isByte (b := 0x5C) (by decide), List.cons_append] at hclock ⊢
    obtain ⟨t, clock, rfl, hle⟩ := exists_cons_of_length_le (a := []) hclock
    rw [List.nil_append, encode_append, List.append_assoc, List.length_append] at hle
    rw [readBytes, if_neg (by decide), if_pos rfl, encode_append, List.append_assoc,
      readEscape_append he]
    dsimp only
    rw [ih (Nat.le_of_add_left_le hle), encode_cons, List.reverse_append, List.reverse_reverse,
      List.append_assoc]

/-- **A string that is read was written, and means what was read.** -/
theorem spells_of_readText {cs : List Char} {s : String} {rest : List UInt8}
    (h : readText (encode cs) = .ok (s, rest)) :
    ∃ w v, Spells w s.toList ∧ cs = w ++ '"' :: v ∧ rest = encode v := by
  obtain ⟨⟨raw, r⟩, hraw, h⟩ := bind_eq_ok.1 h
  obtain ⟨w, m, v, hw, rfl, rfl, rfl⟩ := spells_of_readBytes (Nat.le_refl _) hraw
  dsimp only at h
  rw [List.reverse_nil, List.nil_append, decode_encode] at h
  obtain ⟨rfl, rfl⟩ := Prod.mk.inj (Except.ok.inj h)
  exact ⟨w, v, by rwa [String.toList_ofList], rfl, rfl⟩

/-- **A string that is written is read as what it means.** -/
theorem readText_append {w : List Char} {s : String} (h : Spells w s.toList) (rest : List UInt8) :
    readText (encode w ++ 0x22 :: rest) = .ok (s, rest) := by
  refine bind_eq_ok.2 ⟨_, readBytes_append h rest (Nat.le_refl _), ?_⟩
  dsimp only
  rw [List.reverse_nil, List.nil_append, decode_encode]
  show Except.ok (String.ofList s.toList, rest) = _
  rw [String.ofList_toList]

/-! ## Strings that are read past -/

/-- By induction on the text, as for a string that is read. -/
theorem inside_of_skipBytes {clock : List UInt8} {cs : List Char} {rest : List UInt8}
    (hclock : (encode cs).length ≤ clock.length) (h : skipBytes clock (encode cs) = .ok rest) :
    ∃ w v, Inside w ∧ cs = w ++ '"' :: v ∧ rest = encode v := by
  induction hlen : cs.length using Nat.strongRecOn generalizing clock cs with
  | ind n ih =>
  cases cs with
  | nil =>
    rw [encode_nil] at h
    cases clock <;> cases h
  | cons c cs =>
    rcases isPlain_or c with hplain | rfl | rfl | ⟨b, hbyte, hquote, hslash, hcontrol⟩
    · rw [encode_cons] at h hclock
      obtain ⟨htaken, hdrop⟩ := length_le_drop hclock
      rw [skipBytes_plain hplain.bytes htaken] at h
      obtain ⟨w, v, hw, rfl, rfl⟩ := ih cs.length (hlen ▸ Nat.lt_succ_self _) hdrop h rfl
      exact ⟨c :: w, v, .plain hplain hw, rfl, rfl⟩
    · rw [encode_cons_of_isByte (b := 0x22) (by decide)] at h hclock
      obtain ⟨t, clock, rfl, -⟩ := exists_cons_of_length_le (a := []) hclock
      rw [skipBytes, if_pos rfl] at h
      exact ⟨[], cs, .nil, rfl, (Except.ok.inj h).symm⟩
    · rw [encode_cons_of_isByte (b := 0x5C) (by decide)] at h hclock
      obtain ⟨t, clock, rfl, hle⟩ := exists_cons_of_length_le (a := []) hclock
      rw [skipBytes, if_neg (by decide), if_pos rfl] at h
      split at h
      · next r hescape =>
        obtain ⟨e, v, he, rfl, rfl⟩ := shape_of_skipEscape hescape
        rw [List.nil_append, encode_append, List.length_append] at hle
        rw [List.length_cons, List.length_append] at hlen
        obtain ⟨w, z, hw, rfl, rfl⟩ :=
          ih v.length (by omega) (Nat.le_of_add_left_le hle) h rfl
        refine ⟨'\\' :: (e ++ w), z, .escape he hw, ?_, rfl⟩
        rw [List.cons_append, List.append_assoc]
      · cases h
    · rw [encode_cons_of_isByte hbyte] at h hclock
      obtain ⟨t, clock, rfl, -⟩ := exists_cons_of_length_le (a := []) hclock
      rw [skipBytes, if_neg hquote, if_neg hslash, if_pos hcontrol] at h
      cases h

theorem skipBytes_append {w : List Char} (h : Inside w) (rest : List UInt8) {clock : List UInt8}
    (hclock : (encode w ++ 0x22 :: rest).length ≤ clock.length) :
    skipBytes clock (encode w ++ 0x22 :: rest) = .ok rest := by
  induction h generalizing clock with
  | nil =>
    obtain ⟨t, clock, rfl, -⟩ := exists_cons_of_length_le (a := []) hclock
    rw [encode_nil, List.nil_append, skipBytes, if_pos rfl]
  | @plain c w hc _ ih =>
    rw [encode_cons, List.append_assoc] at hclock ⊢
    obtain ⟨htaken, hdrop⟩ := length_le_drop hclock
    rw [skipBytes_plain hc.bytes htaken, ih hdrop]
  | @escape e w he _ ih =>
    rw [encode_cons_of_isByte (b := 0x5C) (by decide), List.cons_append] at hclock ⊢
    obtain ⟨t, clock, rfl, hle⟩ := exists_cons_of_length_le (a := []) hclock
    rw [List.nil_append, encode_append, List.append_assoc, List.length_append] at hle
    rw [skipBytes, if_neg (by decide), if_pos rfl, encode_append, List.append_assoc,
      skipEscape_append he]
    exact ih (Nat.le_of_add_left_le hle)

/-- A string that is read past was written. -/
theorem inside_of_skipText {cs : List Char} {rest : List UInt8}
    (h : skipText (encode cs) = .ok rest) :
    ∃ w v, Inside w ∧ cs = w ++ '"' :: v ∧ rest = encode v :=
  inside_of_skipBytes (Nat.le_refl _) h

/-- A string that is written is read past. -/
theorem skipText_append {w : List Char} (h : Inside w) (rest : List UInt8) :
    skipText (encode w ++ 0x22 :: rest) = .ok rest :=
  skipBytes_append h rest (Nat.le_refl _)

/-! ## Strings as they are written -/

/-- The digits of a control are read as its number. -/
theorem codePoint_of_lt {c : Char} (hc : c.toNat < 0x20) :
    CodePoint (['0', '0', if c.toNat < 0x10 then '0' else '1'] ++ Nat.toDigits 16 (c.toNat % 16))
      c := by
  have hlast : ∀ k < 16, Text.hexDigit? (Nat.digitChar k) = some k := by decide
  have hmod : c.toNat % 16 < 16 := Nat.mod_lt _ (by decide)
  have hzero : Text.hexDigit? '0' = some 0 := rfl
  have hcode : ∀ {w : List Char} {n : Nat}, Hex4 w n → n = c.toNat → CodePoint w c := by
    intro w n hw hn
    subst hn
    have h : CodePoint w (Char.ofNat c.toNat) := by
      refine .one hw ?_ ?_
      · rw [isTrailSurrogate, decide_eq_false (by omega), Bool.false_and]
      · rw [isLeadSurrogate, decide_eq_false (by omega), Bool.false_and]
    rwa [Char.ofNat_toNat] at h
  rw [Nat.toDigits_of_lt_base hmod]
  split
  · exact hcode (.intro hzero hzero hzero (hlast _ hmod)) (by omega)
  · exact hcode (.intro hzero hzero (r := 1) rfl (hlast _ hmod)) (by omega)

/-- A character is written as itself or as an escape that means it. -/
theorem isPlain_or_escape (c : Char) :
    IsPlain c ∧ escape c = [c] ∨ ∃ e, Escape e c ∧ escape c = '\\' :: e := by
  have hshort : ∀ {l d : Char}, shortMeaning? l = some d → c.toNat = d.toNat → Escape [l] c := by
    intro l d hl hc
    rw [Char.toNat_inj.1 hc]
    exact .short hl
  unfold escape
  split
  · next h => exact .inr ⟨['"'], hshort (d := '"') rfl (congrArg Char.toNat h), rfl⟩
  split
  · next h => exact .inr ⟨['\\'], hshort (d := '\\') rfl (congrArg Char.toNat h), rfl⟩
  split
  · next h => exact .inr ⟨['b'], hshort rfl h, rfl⟩
  split
  · next h => exact .inr ⟨['t'], hshort rfl h, rfl⟩
  split
  · next h => exact .inr ⟨['n'], hshort rfl h, rfl⟩
  split
  · next h => exact .inr ⟨['f'], hshort rfl h, rfl⟩
  split
  · next h => exact .inr ⟨['r'], hshort rfl h, rfl⟩
  split
  · next h => exact .inr ⟨_, .numeric (codePoint_of_lt h), rfl⟩
  · next hquote hslash _ _ _ _ _ h => exact .inl ⟨⟨hquote, hslash, Nat.le_of_not_lt h⟩, rfl⟩

/-- **What is written of a string means the string.** -/
theorem spells_escape (m : List Char) : Spells (m.flatMap escape) m := by
  induction m with
  | nil => exact .nil
  | cons c m ih =>
    rw [List.flatMap_cons]
    rcases isPlain_or_escape c with ⟨hplain, hc⟩ | ⟨e, he, hc⟩
    · rw [hc]
      exact .plain hplain ih
    · rw [hc]
      exact .escape he ih

end AuditLabels.Json

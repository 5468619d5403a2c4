import AuditLabels.Proofs.Json.Accepts
import AuditLabels.Proofs.Text.Numeral

/-!
# Numerals are read as written

Scanning takes exactly the numerals off the front of a text, and an integer of 64 bits is read
exactly where one is written.
-/

namespace AuditLabels.Json

open Text.Utf8

/-! ## Digits -/

theorem sameClass_isDigit : SameClass isDigit Char.isDigit where
  low := by decide
  byte b hb := by
    have h := (between_iff.1 hb).2
    rw [UInt8.lt_iff_toNat_lt]
    exact Nat.lt_of_le_of_lt h (by decide)
  char c hc := by
    have h : c.val ≤ 57 := (Bool.and_eq_true_iff.1 hc).2 |> of_decide_eq_true
    exact Nat.lt_of_le_of_lt (UInt32.le_iff_toNat_le.1 h) (by decide)

/-- Scanning digits takes the digits of a text. -/
theorem spanDigits_encode (cs : List Char) :
    spanDigits (encode cs) =
      (encode (cs.takeWhile Char.isDigit), encode (cs.dropWhile Char.isDigit)) := by
  rw [spanDigits, (sameClass_isDigit.span_encode cs).1, (sameClass_isDigit.span_encode cs).2]

/-- The digits that are taken are there if the first byte is one. -/
theorem digits_takeWhile {cs : List Char} {b : UInt8} {r : List UInt8} (h : encode cs = b :: r)
    (hb : isDigit b = true) : Digits (cs.takeWhile Char.isDigit) := by
  have hlt := sameClass_isDigit.byte b hb
  obtain ⟨v, rfl, -⟩ := front_of_encode_eq_cons h hlt
  have hc : (Char.ofNat b.toNat).isDigit = true := by
    rw [← sameClass_isDigit.eq_of_isByte (isByte_ofNat_toNat hlt), hb]
  constructor
  · rw [List.takeWhile_cons_of_pos hc]
    exact List.cons_ne_nil _ _
  · exact fun c hc => List.all_eq_true.1 List.all_takeWhile c hc

/-- No digit is a byte that is none. -/
theorem ne_of_isDigit {a b : UInt8} (hb : isDigit b = true) (ha : isDigit a = false) : b ≠ a := by
  rintro rfl
  rw [hb] at ha
  cases ha

/-- Digits are one byte each. -/
theorem isByte_of_isDigit {c : Char} (hc : c.isDigit = true) : IsByte c (UInt8.ofNat c.toNat) :=
  ⟨sameClass_isDigit.char c hc, rfl⟩

/-- Scanning digits stops behind the last of them. -/
theorem spanDigits_append {w : List Char} (hw : ∀ c ∈ w, c.isDigit = true) {rest : List UInt8}
    (hr : ∀ b ∈ rest.head?, isDigit b = false) :
    spanDigits (encode w ++ rest) = (encode w, rest) := by
  induction w with
  | nil =>
    cases rest with
    | nil => rfl
    | cons b r =>
      have hb : ¬ isDigit b = true := by
        rw [hr b rfl]
        exact Bool.false_ne_true
      rw [encode_nil, List.nil_append, spanDigits, List.takeWhile_cons_of_neg hb,
        List.dropWhile_cons_of_neg hb]
  | cons c w ih =>
    have hc : c.isDigit = true := hw c List.mem_cons_self
    have hd : isDigit (UInt8.ofNat c.toNat) = true := by
      rw [sameClass_isDigit.eq_of_isByte (isByte_of_isDigit hc), hc]
    have hrest := ih fun d hd => hw d (List.mem_cons_of_mem c hd)
    rw [spanDigits, Prod.mk.injEq] at hrest
    rw [encode_cons_of_isByte (isByte_of_isDigit hc), List.cons_append, spanDigits,
      List.takeWhile_cons_of_pos hd, List.dropWhile_cons_of_pos hd, hrest.1, hrest.2]

/-- The first of some digits is a digit. -/
theorem Digits.exists_cons {w : List Char} (hw : Digits w) :
    ∃ c v, w = c :: v ∧ c.isDigit = true ∧ IsByte c (UInt8.ofNat c.toNat) ∧
      isDigit (UInt8.ofNat c.toNat) = true := by
  obtain ⟨c, v, rfl⟩ := List.exists_cons_of_ne_nil hw.1
  have hc : c.isDigit = true := hw.2 c List.mem_cons_self
  refine ⟨c, v, rfl, hc, isByte_of_isDigit hc, ?_⟩
  rw [sameClass_isDigit.eq_of_isByte (isByte_of_isDigit hc), hc]

/-- A digit begins a value. -/
theorem opens_of_isDigit {c : Char} (hc : c.isDigit = true) : Opens c := by
  have hne : ∀ d : Char, d.isDigit = false → c ≠ d := by
    rintro d hd rfl
    rw [hc] at hd
    cases hd
  refine ⟨sameClass_isDigit.char c hc, ?_, hne ']' rfl, hne '}' rfl⟩
  rw [isBlank, beq_false_of_ne (hne ' ' rfl), beq_false_of_ne (hne '\n' rfl),
    beq_false_of_ne (hne '\t' rfl), beq_false_of_ne (hne '\r' rfl)]
  rfl

/-! ## Scanning takes numerals only -/

/-- The digits of an exponent that is taken are there. -/
theorem digits_of_scanPower {cut : Cause} {negative : Bool} {cs : List Char}
    {x : Bool × List UInt8} {rest : List UInt8}
    (h : scanPower cut negative (encode cs) = .ok (x, rest)) :
    ∃ w v, Digits w ∧ cs = w ++ v ∧ rest = encode v := by
  cases hcs : encode cs with
  | nil =>
    rw [hcs] at h
    cases h
  | cons b r =>
    rw [hcs, scanPower] at h
    split at h
    · next hb =>
      refine ⟨cs.takeWhile Char.isDigit, cs.dropWhile Char.isDigit, digits_takeWhile hcs hb,
        List.takeWhile_append_dropWhile.symm, ?_⟩
      obtain ⟨-, hr⟩ := Prod.mk.inj (Except.ok.inj h)
      rw [← hr, ← hcs, spanDigits_encode]
    · cases h

/-- What is behind the sign of an exponent. -/
theorem exponentSign_encode (cs : List Char) :
    ∃ s v, (s = [] ∨ s = ['+'] ∨ s = ['-']) ∧ cs = s ++ v ∧
      (exponentSign (encode cs)).2 = encode v := by
  cases hcs : encode cs with
  | nil => exact ⟨[], cs, .inl rfl, rfl, by rw [hcs]; rfl⟩
  | cons b r =>
    rw [exponentSign]
    split
    · next hb =>
      obtain ⟨v, rfl, rfl⟩ := front_of_isByte (c := '+') (by rw [hb]; decide) hcs
      exact ⟨['+'], v, .inr (.inl rfl), rfl, rfl⟩
    · split
      · next hb =>
        obtain ⟨v, rfl, rfl⟩ := front_of_isByte (c := '-') (by rw [hb]; decide) hcs
        exact ⟨['-'], v, .inr (.inr rfl), rfl, rfl⟩
      · exact ⟨[], cs, .inl rfl, rfl, hcs.symm⟩

/-- What is taken behind the digits is an exponent, or nothing. -/
theorem exponent_of_scanTail {cut : Cause} {whole fraction : List UInt8} {cs : List Char}
    {t : NumberText} {rest : List UInt8}
    (h : scanTail cut whole fraction (encode cs) = .ok (t, rest)) :
    ∃ e v, Exponent e ∧ cs = e ++ v ∧ rest = encode v ∧ t.whole = whole ∧
      t.fraction = fraction ∧ (t.exponent = none → e = []) := by
  cases hcs : encode cs with
  | nil =>
    rw [hcs] at h
    obtain ⟨rfl, rfl⟩ := Prod.mk.inj (Except.ok.inj h)
    exact ⟨[], cs, .none, rfl, hcs.symm, rfl, rfl, fun _ => rfl⟩
  | cons b r =>
    rw [hcs, scanTail] at h
    split at h
    · next hb =>
      obtain ⟨l, hl, hbyte⟩ : ∃ l, (l = 'e' ∨ l = 'E') ∧ IsByte l b := by
        rcases hb with rfl | rfl
        · exact ⟨'e', .inl rfl, by decide⟩
        · exact ⟨'E', .inr rfl, by decide⟩
      obtain ⟨u, rfl, rfl⟩ := front_of_isByte hbyte hcs
      cases hx : scanExponent cut (encode u) with
      | error f =>
        rw [hx] at h
        cases h
      | ok p =>
        rw [hx] at h
        obtain ⟨rfl, rfl⟩ := Prod.mk.inj (Except.ok.inj h)
        obtain ⟨s, v, hs, rfl, hv⟩ := exponentSign_encode u
        rw [scanExponent, hv] at hx
        obtain ⟨w, z, hw, rfl, hz⟩ := digits_of_scanPower hx
        refine ⟨l :: s ++ w, z, .digits hl hs hw, ?_, hz, rfl, rfl, fun hn => by cases hn⟩
        rw [List.cons_append, List.cons_append, List.append_assoc]
    · obtain ⟨rfl, rfl⟩ := Prod.mk.inj (Except.ok.inj h)
      exact ⟨[], cs, .none, rfl, hcs.symm, rfl, rfl, fun _ => rfl⟩

/-- What is taken behind the whole part is a fraction and an exponent, each of which may be
missing. -/
theorem fraction_of_scanFraction {cut : Cause} {whole : List UInt8} {cs : List Char}
    {t : NumberText} {rest : List UInt8}
    (h : scanFraction cut whole (encode cs) = .ok (t, rest)) :
    ∃ f e v, Fraction f ∧ Exponent e ∧ cs = f ++ (e ++ v) ∧ rest = encode v ∧ t.whole = whole ∧
      (t.fraction = [] → f = []) ∧ (t.exponent = none → e = []) := by
  -- without a point, only an exponent may follow
  have hnone : scanTail cut whole [] (encode cs) = .ok (t, rest) →
      ∃ f e v, Fraction f ∧ Exponent e ∧ cs = f ++ (e ++ v) ∧ rest = encode v ∧ t.whole = whole ∧
        (t.fraction = [] → f = []) ∧ (t.exponent = none → e = []) := by
    intro htail
    obtain ⟨e, v, he, rfl, rfl, hw, -, hn⟩ := exponent_of_scanTail htail
    exact ⟨[], e, v, .none, he, rfl, rfl, hw, fun _ => rfl, hn⟩
  cases hcs : encode cs with
  | nil =>
    rw [hcs] at h hnone
    exact hnone h
  | cons b r =>
    rw [hcs] at hnone
    rw [hcs, scanFraction] at h
    split at h
    · next hb =>
      obtain ⟨u, rfl, rfl⟩ := front_of_isByte (c := '.') (by rw [hb]; decide) hcs
      cases hu : encode u with
      | nil =>
        rw [hu] at h
        cases h
      | cons d s =>
        rw [hu, scanPlaces] at h
        split at h
        · next hd =>
          rw [← hu, spanDigits_encode] at h
          obtain ⟨e, v, he, hv, rfl, hw, hf, hn⟩ := exponent_of_scanTail h
          have hdigits := digits_takeWhile hu hd
          refine ⟨'.' :: u.takeWhile Char.isDigit, e, v, .digits hdigits, he, ?_, rfl, hw, ?_, hn⟩
          · rw [List.cons_append, ← hv, List.takeWhile_append_dropWhile]
          · intro hnil
            rw [hf] at hnil
            exact absurd (eq_nil_of_encode_eq_nil hnil) hdigits.1
        · cases h
    · exact hnone h

/-- **Scanning takes a numeral.** -/
theorem numeral_of_scanNumber {cut : Cause} {cs : List Char} {t : NumberText} {rest : List UInt8}
    (h : scanNumber cut (encode cs) = .ok (t, rest)) :
    ∃ w f e v, Whole w ∧ Fraction f ∧ Exponent e ∧ cs = w ++ (f ++ (e ++ v)) ∧ rest = encode v ∧
      t.whole = encode w ∧ (t.fraction = [] → f = []) ∧ (t.exponent = none → e = []) := by
  cases hcs : encode cs with
  | nil =>
    rw [hcs] at h
    cases h
  | cons b r =>
    rw [hcs] at h
    unfold scanNumber at h
    dsimp only at h
    split at h
    · next hb =>
      obtain ⟨u, rfl, rfl⟩ := front_of_isByte (c := '0') (by rw [hb]; decide) hcs
      have hfraction : scanFraction cut [b] (encode u) = .ok (t, rest) := by
        split at h
        · split at h
          · cases h
          · exact h
        · exact h
      obtain ⟨f, e, v, hf, he, rfl, hr, hw, hf', he'⟩ := fraction_of_scanFraction hfraction
      refine ⟨['0'], f, e, v, .inl rfl, hf, he, rfl, hr, ?_, hf', he'⟩
      rw [hw, hb]
      rfl
    · next hb =>
      split at h
      · next hd =>
        have hspan : spanDigits (b :: r) = (b :: (spanDigits r).1, (spanDigits r).2) := by
          rw [spanDigits, List.takeWhile_cons_of_pos hd, List.dropWhile_cons_of_pos hd]
          rfl
        rw [← hcs, spanDigits_encode] at hspan
        obtain ⟨hwhole, hrest⟩ := Prod.mk.inj hspan
        rw [← hwhole, ← hrest] at h
        obtain ⟨f, e, v, hf, he, hv, hr, hw, hf', he'⟩ := fraction_of_scanFraction h
        refine ⟨cs.takeWhile Char.isDigit, f, e, v, .inr ⟨digits_takeWhile hcs hd, ?_⟩, hf, he, ?_,
          hr, hw, hf', he'⟩
        -- a zero in front would have been taken by the branch before
        · intro hzero
          have hbyte := isByte_ofNat_toNat (sameClass_isDigit.byte b hd)
          obtain ⟨u, rfl, -⟩ := front_of_isByte hbyte hcs
          have hc : (Char.ofNat b.toNat).isDigit = true := by
            rw [← sameClass_isDigit.eq_of_isByte hbyte, hd]
          rw [List.takeWhile_cons_of_pos hc, List.head?_cons] at hzero
          have hbzero := hbyte.2
          rw [Option.some.inj hzero] at hbzero
          exact hb hbzero.symm
        · rw [← hv, List.takeWhile_append_dropWhile]
      · cases h

/-! ## Every numeral is scanned -/

theorem scanPower_append {cut : Cause} {negative : Bool} {w : List Char} (hw : Digits w)
    {rest : List UInt8} (hr : ∀ b ∈ rest.head?, isDigit b = false) :
    scanPower cut negative (encode w ++ rest) = .ok ((negative, encode w), rest) := by
  have hspan := spanDigits_append hw.2 hr
  obtain ⟨c, v, rfl, -, hbyte, hd⟩ := hw.exists_cons
  rw [encode_cons_of_isByte hbyte, List.cons_append] at hspan ⊢
  rw [scanPower, if_pos hd, hspan]

theorem exponentSign_append {s w : List Char} (hs : s = [] ∨ s = ['+'] ∨ s = ['-'])
    (hw : Digits w) :
    ∃ negative, ∀ rest, exponentSign (encode (s ++ w) ++ rest) = (negative, encode w ++ rest) := by
  rcases hs with rfl | rfl | rfl
  · refine ⟨false, fun rest => ?_⟩
    obtain ⟨c, v, rfl, -, hbyte, hd⟩ := hw.exists_cons
    rw [List.nil_append, encode_cons_of_isByte hbyte, List.cons_append, exponentSign,
      if_neg (ne_of_isDigit hd rfl), if_neg (ne_of_isDigit hd rfl)]
  · exact ⟨false, fun rest => rfl⟩
  · exact ⟨true, fun rest => rfl⟩

/-- What does not carry on a numeral with this fraction and this exponent, either of which may be
missing. -/
structure StopsBehind (f e : List Char) (rest : List UInt8) : Prop where
  digit : ∀ b ∈ rest.head?, isDigit b = false
  exponent : e = [] → ∀ b ∈ rest.head?, b ≠ 0x65 ∧ b ≠ 0x45
  point : f = [] → e = [] → ∀ b ∈ rest.head?, b ≠ 0x2E

/-- What carries on no numeral. -/
theorem Stops.behind {rest : List UInt8} (h : Stops rest) (f e : List Char) :
    StopsBehind f e rest := by
  have hcarry : ∀ b ∈ rest.head?, isDigit b = false ∧ b ≠ 0x2E ∧ b ≠ 0x65 ∧ b ≠ 0x45 := by
    intro b hb
    have hc := h b hb
    simp only [carriesOn, Bool.or_eq_false_iff, beq_eq_false_iff_ne] at hc
    exact ⟨hc.1.1.1, hc.1.1.2, hc.1.2, hc.2⟩
  exact ⟨fun b hb => (hcarry b hb).1, fun _ b hb => (hcarry b hb).2.2,
    fun _ _ b hb => (hcarry b hb).2.1⟩

/-- The exponent that is scanned is the same whatever follows it. -/
theorem scanTail_append (cut : Cause) (whole fraction : List UInt8) {e : List Char}
    (he : Exponent e) : ∃ x, (e = [] → x = none) ∧ ∀ f rest, StopsBehind f e rest →
      scanTail cut whole fraction (encode e ++ rest) = .ok (⟨whole, fraction, x⟩, rest) := by
  cases he with
  | none =>
    refine ⟨none, fun _ => rfl, fun f rest hr => ?_⟩
    cases rest with
    | nil => rfl
    | cons b r =>
      have hb := hr.exponent rfl b rfl
      rw [encode_nil, List.nil_append, scanTail, if_neg]
      rintro (h | h)
      · exact hb.1 h
      · exact hb.2 h
  | @digits l s w hl hs hw =>
    obtain ⟨b, hb, hbyte⟩ : ∃ b : UInt8, (b = 0x65 ∨ b = 0x45) ∧ IsByte l b := by
      rcases hl with rfl | rfl
      · exact ⟨0x65, .inl rfl, by decide⟩
      · exact ⟨0x45, .inr rfl, by decide⟩
    obtain ⟨negative, hsign⟩ := exponentSign_append hs hw
    refine ⟨some (negative, encode w), fun h => absurd h (List.cons_ne_nil _ _),
      fun f rest hr => ?_⟩
    rw [List.cons_append, encode_cons_of_isByte hbyte, List.cons_append, scanTail, if_pos hb,
      scanExponent, hsign, scanPower_append hw hr.digit]
    rfl

/-- What an exponent, and what may follow it, begins with. -/
theorem Exponent.head {e : List Char} (he : Exponent e) {rest : List UInt8} {b : UInt8}
    (hb : b ∈ (encode e ++ rest).head?) : b = 0x65 ∨ b = 0x45 ∨ e = [] ∧ b ∈ rest.head? := by
  cases he with
  | none => exact .inr (.inr ⟨rfl, hb⟩)
  | digits hl =>
    rcases hl with rfl | rfl
    · exact .inl (Option.some.inj hb).symm
    · exact .inr (.inl (Option.some.inj hb).symm)

theorem scanFraction_append (cut : Cause) (whole : List UInt8) {f e : List Char}
    (hf : Fraction f) (he : Exponent e) :
    ∃ t, (f = [] → e = [] → t = ⟨whole, [], none⟩) ∧ ∀ rest, StopsBehind f e rest →
      scanFraction cut whole (encode f ++ (encode e ++ rest)) = .ok (t, rest) := by
  cases hf with
  | none =>
    obtain ⟨x, hnone, hx⟩ := scanTail_append cut whole [] he
    refine ⟨⟨whole, [], x⟩, fun _ h => by rw [hnone h], fun rest hr => ?_⟩
    -- neither an exponent nor what stops a numeral begins with a point
    have hpoint : ∀ b ∈ (encode e ++ rest).head?, b ≠ 0x2E := by
      rintro b hb rfl
      rcases he.head hb with h | h | ⟨h, hrest⟩
      · exact absurd h (by decide)
      · exact absurd h (by decide)
      · exact absurd rfl (hr.point rfl h _ hrest)
    have hscan : scanFraction cut whole (encode e ++ rest) =
        scanTail cut whole [] (encode e ++ rest) := by
      cases hx : encode e ++ rest with
      | nil => rfl
      | cons b r => rw [scanFraction, if_neg (hpoint b (by rw [hx]; rfl))]
    rw [encode_nil, List.nil_append, hscan, hx _ rest hr]
  | @digits w hw =>
    obtain ⟨x, -, hx⟩ := scanTail_append cut whole (encode w) he
    refine ⟨⟨whole, encode w, x⟩, fun h => absurd h (List.cons_ne_nil _ _), fun rest hr => ?_⟩
    have hdigit : ∀ b ∈ (encode e ++ rest).head?, isDigit b = false := by
      intro b hb
      rcases he.head hb with rfl | rfl | ⟨-, h⟩
      · rfl
      · rfl
      · exact hr.digit b h
    have hspan := spanDigits_append hw.2 hdigit
    have htail := hx _ rest hr
    obtain ⟨c, v, rfl, -, hbyte, hd⟩ := hw.exists_cons
    rw [encode_cons_of_isByte (b := 0x2E) (by decide), List.cons_append, scanFraction, if_pos rfl]
    rw [encode_cons_of_isByte hbyte] at hspan htail ⊢
    rw [List.cons_append] at hspan ⊢
    rw [scanPlaces, if_pos hd, hspan, htail]

/-- **Every numeral is scanned,** and to the same parts whatever follows it. -/
theorem scanNumber_append (cut : Cause) {w f e : List Char} (hw : Whole w) (hf : Fraction f)
    (he : Exponent e) :
    ∃ t, (f = [] → e = [] → t = ⟨encode w, [], none⟩) ∧ ∀ rest, StopsBehind f e rest →
      scanNumber cut (encode w ++ (encode f ++ (encode e ++ rest))) = .ok (t, rest) := by
  obtain ⟨t, hnone, ht⟩ := scanFraction_append cut (encode w) hf he
  refine ⟨t, hnone, fun rest hr => ?_⟩
  have hdigit : ∀ b ∈ (encode f ++ (encode e ++ rest)).head?, isDigit b = false := by
    intro b hb
    cases hf with
    | digits =>
      obtain rfl := Option.some.inj hb
      rfl
    | none =>
      rcases he.head hb with rfl | rfl | ⟨-, h⟩
      · rfl
      · rfl
      · exact hr.digit b h
  have ht := ht rest hr
  generalize encode f ++ (encode e ++ rest) = r at ht hdigit ⊢
  rcases hw with rfl | ⟨hw, hzero⟩
  · rw [encode_cons_of_isByte (b := 0x30) (by decide), encode_nil] at ht ⊢
    rw [List.cons_append, List.nil_append]
    cases r with
    | nil => exact ht
    | cons d r =>
      have hd : ¬ isDigit d = true := by
        rw [hdigit d rfl]
        exact Bool.false_ne_true
      unfold scanNumber
      dsimp only
      rw [if_pos rfl, if_neg hd, ht]
  · have hspan := spanDigits_append hw.2 hdigit
    obtain ⟨c, v, rfl, -, hbyte, hd⟩ := hw.exists_cons
    -- the first digit is no zero, so the digits are taken as a whole
    have hne : UInt8.ofNat c.toNat ≠ 0x30 := by
      intro h
      have hv := front_of_isByte (c := '0') (b := 0x30) (by decide)
        (h ▸ encode_cons_of_isByte hbyte v)
      obtain ⟨u, hu, -⟩ := hv
      exact hzero (by rw [hu]; rfl)
    rw [encode_cons_of_isByte hbyte] at ht hspan ⊢
    rw [List.cons_append] at hspan ⊢
    rw [spanDigits, List.takeWhile_cons_of_pos hd, List.dropWhile_cons_of_pos hd] at hspan
    obtain ⟨hwhole, hrest⟩ := Prod.mk.inj hspan
    rw [scanNumber.eq_def]
    dsimp only
    rw [if_neg hne, if_pos hd, spanDigits, hwhole, hrest, ht]

/-! ## Values -/

/-- A digit is worth the same as a byte and as a character. -/
theorem digit?_of_isDigit {c : Char} (hc : c.isDigit = true) :
    Text.digit? c = some (digitValue (UInt8.ofNat c.toNat)) := by
  have hlt : c.toNat < 0x80 := sameClass_isDigit.char c hc
  rw [Text.digit?_of_isDigit hc, digitValue, toNat_ofNat (by omega)]
  rfl

/-- Digits that follow do not make a number smaller. -/
theorem le_of_digitsOnto {w : List Char} {n v : Nat} (h : Text.digitsOnto n w = some v) :
    n ≤ v := by
  induction w generalizing n with
  | nil => exact Nat.le_of_eq (Option.some.inj h)
  | cons c w ih =>
    rw [Text.digitsOnto] at h
    split at h
    · have := ih h
      omega
    · cases h

/-- **All digits are kept if and only if the number is within the bound.** -/
theorem keepDigits_encode {bound : Nat} {w : List Char} (hw : ∀ c ∈ w, c.isDigit = true) {n v : Nat}
    (hn : n ≤ bound) : keepDigits bound n (encode w) = (v, []) ↔
      Text.digitsOnto n w = some v ∧ v ≤ bound := by
  induction w generalizing n with
  | nil =>
    rw [encode_nil, keepDigits, Text.digitsOnto, Prod.mk.injEq, Option.some.injEq]
    constructor
    · rintro ⟨rfl, -⟩
      exact ⟨rfl, hn⟩
    · rintro ⟨rfl, -⟩
      exact ⟨rfl, rfl⟩
  | cons c w ih =>
    have hc : c.isDigit = true := hw c List.mem_cons_self
    have hrest := fun d hd => hw d (List.mem_cons_of_mem c hd)
    rw [encode_cons_of_isByte (isByte_of_isDigit hc), keepDigits, Text.digitsOnto,
      digit?_of_isDigit hc]
    dsimp only
    split
    · next hle => exact ih hrest hle
    · next hlt =>
      constructor
      · intro h
        cases (Prod.mk.inj h).2
      · rintro ⟨h, hv⟩
        have := le_of_digitsOnto h
        omega

/-- The digits of a whole part. -/
theorem Whole.digits {w : List Char} (hw : Whole w) : Digits w := by
  rcases hw with rfl | ⟨hw, -⟩
  · refine ⟨List.cons_ne_nil _ _, fun c hc => ?_⟩
    rw [List.mem_singleton.1 hc]
    rfl
  · exact hw

/-- The whole part is kept if and only if its value has 64 bits. -/
theorem keepDigits_whole {w : List Char} (hw : Whole w) (v : Nat) :
    keepDigits greatest64 0 (encode w) = (v, []) ↔ Text.digits? w = some v ∧ v ≤ greatest64 := by
  have hdigits : Text.digits? w = Text.digitsOnto 0 w := by
    obtain ⟨c, u, rfl, -⟩ := hw.digits.exists_cons
    rfl
  rw [hdigits]
  exact keepDigits_encode hw.digits.2 (Nat.zero_le _)

/-- What was written if a number was read: an integer has neither fraction nor exponent, and all its
digits were kept. -/
def Exact (negative : Bool) (t : NumberText) : Number → Prop
  | .natural n => negative = false ∧ t.fraction = [] ∧ t.exponent = none ∧
      keepDigits greatest64 0 t.whole = (n, [])
  | .negative m => negative = true ∧ t.fraction = [] ∧ t.exponent = none ∧
      ∃ n : Nat, keepDigits greatest64 0 t.whole = (n, []) ∧ 0 < n ∧ n ≤ 2 ^ 63 ∧ m = -(n : Int)
  | .float _ _ => True

theorem exact_of_scaled {negative minus : Bool} {t : NumberText} {digits : Nat} {exponent : Int}
    {rest : List UInt8} {x : Number} (h : scaled minus digits exponent rest = .ok x) :
    Exact negative t x := by
  unfold scaled at h
  split at h
  · obtain rfl := Except.ok.inj h
    trivial
  · cases h

/-- **Only integers as written are integers as read.** -/
theorem exact_of_value {negative : Bool} {t : NumberText} {rest : List UInt8} {x : Number}
    (h : t.value negative rest = .ok x) : Exact negative t x := by
  unfold NumberText.value at h
  cases hkeep : keepDigits greatest64 0 t.whole with
  | mk n dropped =>
  rw [hkeep] at h
  dsimp only at h
  split at h
  · next hint =>
    obtain ⟨hf, he⟩ := Bool.and_eq_true_iff.1 hint
    have hf' : t.fraction = [] := List.isEmpty_iff.1 hf
    have he' : t.exponent = none := Option.isNone_iff_eq_none.1 he
    split at h
    · exact exact_of_scaled h
    · next hd =>
      have hd' : dropped = [] := by simpa using hd
      subst hd'
      split at h
      · next hneg =>
        obtain rfl := Except.ok.inj h
        exact ⟨by simpa using hneg, hf', he', hkeep⟩
      · next hneg =>
        split at h
        · next hn =>
          obtain rfl := Except.ok.inj h
          exact ⟨by simpa using hneg, hf', he', n, hkeep, hn.1, hn.2, rfl⟩
        · exact exact_of_scaled h
  · split at h
    · exact exact_of_scaled h
    · split at h
      · exact exact_of_scaled h
      · split at h
        · cases h
        · obtain rfl := Except.ok.inj h
          trivial

/-- Integers as written are integers as read. -/
theorem value_whole {whole : List UInt8} {n : Nat}
    (h : keepDigits greatest64 0 whole = (n, [])) (rest : List UInt8) :
    NumberText.value false ⟨whole, [], none⟩ rest = .ok (.natural n) ∧
      (0 < n → n ≤ 2 ^ 63 →
        NumberText.value true ⟨whole, [], none⟩ rest = .ok (.negative (-(n : Int)))) := by
  unfold NumberText.value
  rw [h]
  refine ⟨rfl, fun hpos hle => ?_⟩
  show (if 0 < n ∧ n ≤ 2 ^ 63 then Except.ok (Number.negative (-(n : Int)))
    else scaled true n 0 rest) = _
  rw [if_pos ⟨hpos, hle⟩]

theorem scaled_cases (negative : Bool) (digits : Nat) (exponent : Int) (rest rest' : List UInt8) :
    (∃ x, scaled negative digits exponent rest = .ok x ∧
      scaled negative digits exponent rest' = .ok x) ∨
    ∃ f, scaled negative digits exponent rest = .error f ∧ f.cause = .numberOutOfRange := by
  unfold scaled
  cases Number.Binary64.ofDecimal digits exponent with
  | none => exact .inr ⟨_, rfl, rfl⟩
  | some x => exact .inl ⟨_, rfl, rfl⟩

/-- A number has a value or is out of range, and its value is the same whatever follows it. -/
theorem value_cases (negative : Bool) (t : NumberText) (rest rest' : List UInt8) :
    (∃ x, t.value negative rest = .ok x ∧ t.value negative rest' = .ok x) ∨
    ∃ f, t.value negative rest = .error f ∧ f.cause = .numberOutOfRange := by
  unfold NumberText.value
  cases keepDigits greatest64 0 t.whole with
  | mk n dropped =>
  dsimp only
  split
  · split
    · exact scaled_cases _ _ _ rest rest'
    split
    · exact .inl ⟨_, rfl, rfl⟩
    split
    · exact .inl ⟨_, rfl, rfl⟩
    · exact scaled_cases _ _ _ rest rest'
  · cases t.exponent with
    | none => exact scaled_cases _ _ _ rest rest'
    | some x =>
      obtain ⟨below, digits⟩ := x
      dsimp only
      cases keepDigits greatestExponent 0 digits with
      | mk e more =>
        cases more with
        | nil => exact scaled_cases _ _ _ rest rest'
        | cons b more =>
          dsimp only
          split
          · exact .inr ⟨_, rfl, rfl⟩
          · exact .inl ⟨_, rfl, rfl⟩

end AuditLabels.Json

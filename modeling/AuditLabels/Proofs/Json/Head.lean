import AuditLabels.Proofs.Json.Numeral

/-!
# Heads and integers

What stands in a text when a head is read, and with it: an integer within the bounds of a reader is
read exactly where one is written, and one out of them is refused.
-/

namespace AuditLabels.Json

open Text.Utf8

/-! ## Heads -/

/-- What stands where a head is read: the byte `b` and the bytes behind it, of which `r` are
left. -/
def HeadAt (b : UInt8) (rest r : List UInt8) : Head → Prop
  | .number x => b = 0x2D ∧ readNumber true rest = .ok (x, r) ∨
      isDigit b = true ∧ readNumber false (b :: rest) = .ok (x, r)
  | .list => b = 0x5B ∧ r = b :: rest
  | .map => b = 0x7B ∧ r = b :: rest
  | _ => True

theorem headAt_of_readHeadFrom {b : UInt8} {rest r : List UInt8} {h : Head}
    (hread : readHeadFrom b rest = .ok (h, r)) : HeadAt b rest r h := by
  unfold readHeadFrom at hread
  split at hread
  · obtain ⟨_, -, he⟩ := map_eq_ok.1 hread
    obtain ⟨rfl, -⟩ := Prod.mk.inj he
    trivial
  split at hread
  · obtain ⟨_, -, he⟩ := map_eq_ok.1 hread
    obtain ⟨rfl, -⟩ := Prod.mk.inj he
    trivial
  split at hread
  · obtain ⟨_, -, he⟩ := map_eq_ok.1 hread
    obtain ⟨rfl, -⟩ := Prod.mk.inj he
    trivial
  split at hread
  · next hb =>
    obtain ⟨⟨x, r'⟩, hx, he⟩ := map_eq_ok.1 hread
    obtain ⟨rfl, rfl⟩ := Prod.mk.inj he
    exact .inl ⟨hb, hx⟩
  split at hread
  · next hb =>
    obtain ⟨⟨x, r'⟩, hx, he⟩ := map_eq_ok.1 hread
    obtain ⟨rfl, rfl⟩ := Prod.mk.inj he
    exact .inr ⟨hb, hx⟩
  split at hread
  · obtain ⟨_, -, he⟩ := map_eq_ok.1 hread
    obtain ⟨rfl, -⟩ := Prod.mk.inj he
    trivial
  split at hread
  · next hb =>
    obtain ⟨rfl, rfl⟩ := Prod.mk.inj (Except.ok.inj hread)
    exact ⟨hb, rfl⟩
  split at hread
  · next hb =>
    obtain ⟨rfl, rfl⟩ := Prod.mk.inj (Except.ok.inj hread)
    exact ⟨hb, rfl⟩
  · cases hread

/-- A head is read behind blanks. -/
theorem headAt_of_readHead {cs : List Char} {h : Head} {r : List UInt8}
    (hread : readHead (encode cs) = .ok (h, r)) :
    ∃ a v b rest, Blanks a ∧ cs = a ++ v ∧ encode v = b :: rest ∧ HeadAt b rest r h := by
  obtain ⟨a, v, ha, rfl, hv⟩ := skipSpace_encode_eq_encode cs
  rw [readHead, hv] at hread
  cases hbytes : encode v with
  | nil =>
    rw [hbytes] at hread
    cases hread
  | cons b rest =>
    rw [hbytes] at hread
    exact ⟨a, v, b, rest, ha, rfl, hbytes, headAt_of_readHeadFrom hread⟩

/-- What is read behind blanks. -/
theorem readHead_blanks_cons {a : List Char} (ha : Blanks a) {c : Char} {b : UInt8}
    (hc : IsByte c b) (hn : isBlank c = false) (rest : List UInt8) :
    readHead (encode a ++ b :: rest) = readHeadFrom b rest := by
  rw [readHead, skipSpace_blanks_cons ha hc hn]

/-- The head that a bracket makes. -/
def Bracket.head : Bracket → Head
  | list => .list
  | map => .map

/-- A bracket stands where the head of one is read. -/
theorem opener_of_readHead {k : Bracket} {cs : List Char} {b : UInt8} {rest : List UInt8}
    (h : readHead (encode cs) = .ok (k.head, b :: rest)) :
    ∃ a v, Blanks a ∧ cs = a ++ k.opener :: v ∧ rest = encode v := by
  obtain ⟨a, u, d, r, ha, rfl, hu, hat⟩ := headAt_of_readHead h
  obtain ⟨hd, hr⟩ : d = k.opening ∧ b :: rest = d :: r := by
    cases k
    · exact hat
    · exact hat
  obtain ⟨-, rfl⟩ := List.cons.inj hr
  subst hd
  obtain ⟨v, rfl, rfl⟩ := front_of_isByte (isByte_opener k) hu
  exact ⟨a, v, ha, rfl, rfl⟩

theorem readHead_opening {a : List Char} (ha : Blanks a) (k : Bracket) (rest : List UInt8) :
    readHead (encode a ++ k.opening :: rest) = .ok (k.head, k.opening :: rest) := by
  rw [readHead_blanks_cons ha (isByte_opener k) (isBlank_opener k)]
  cases k <;> rfl

/-! ## Numbers -/

theorem readNumber_eq_ok {negative : Bool} {bytes rest : List UInt8} {x : Number} :
    readNumber negative bytes = .ok (x, rest) ↔
      ∃ t, scanNumber .endInValue bytes = .ok (t, rest) ∧ t.value negative rest = .ok x := by
  rw [readNumber, bind_eq_ok]
  constructor
  · rintro ⟨⟨t, r⟩, ht, h⟩
    obtain ⟨y, hy, he⟩ := bind_eq_ok.1 h
    obtain ⟨rfl, rfl⟩ := Prod.mk.inj (Except.ok.inj he)
    exact ⟨t, ht, hy⟩
  · rintro ⟨t, ht, hx⟩
    exact ⟨(t, rest), ht, bind_eq_ok.2 ⟨x, hx, rfl⟩⟩

/-- A number stands where one is read; its digits are all its text if it is an integer. -/
theorem numeral_of_readHead {cs : List Char} {x : Number} {rest : List UInt8}
    (h : readHead (encode cs) = .ok (.number x, rest)) :
    ∃ a m w f e v negative t, Blanks a ∧ (negative = false ∧ m = [] ∨ negative = true ∧ m = ['-']) ∧
      Whole w ∧ cs = a ++ (m ++ (w ++ (f ++ (e ++ v)))) ∧ rest = encode v ∧ Exact negative t x ∧
      t.whole = encode w ∧ (t.fraction = [] → f = []) ∧ (t.exponent = none → e = []) := by
  obtain ⟨a, u, b, r, ha, rfl, hu, hnumber⟩ := headAt_of_readHead h
  rcases hnumber with ⟨rfl, hread⟩ | ⟨hb, hread⟩
  · obtain ⟨y, rfl, rfl⟩ := front_of_isByte (c := '-') (by decide) hu
    obtain ⟨t, ht, hx⟩ := readNumber_eq_ok.1 hread
    obtain ⟨w, f, e, v, hw, -, -, rfl, hr, htext, hf, he⟩ := numeral_of_scanNumber ht
    exact ⟨a, ['-'], w, f, e, v, true, t, ha, .inr ⟨rfl, rfl⟩, hw, rfl, hr, exact_of_value hx,
      htext, hf, he⟩
  -- without a minus the digit that was seen is scanned once more
  · rw [← hu] at hread
    obtain ⟨t, ht, hx⟩ := readNumber_eq_ok.1 hread
    obtain ⟨w, f, e, v, hw, -, -, rfl, hr, htext, hf, he⟩ := numeral_of_scanNumber ht
    exact ⟨a, [], w, f, e, v, false, t, ha, .inl ⟨rfl, rfl⟩, hw, rfl, hr, exact_of_value hx,
      htext, hf, he⟩

/-! ## Integers -/

/-- A number that was read lies within its bounds. -/
theorem between_of_readInteger {e : Expected} {low high n : Int} {bytes rest : List UInt8}
    (h : readInteger e low high bytes = .ok (n, rest)) : low ≤ n ∧ n ≤ high := by
  obtain ⟨⟨head, r⟩, -, hrange⟩ := bind_eq_ok.1 h
  dsimp only at hrange
  split at hrange
  · split at hrange
    · next hbound =>
      obtain ⟨rfl, -⟩ := Prod.mk.inj (Except.ok.inj hrange)
      exact hbound
    · cases hrange
  · split at hrange
    · next hbound =>
      obtain ⟨rfl, -⟩ := Prod.mk.inj (Except.ok.inj hrange)
      exact hbound
    · cases hrange
  · cases hrange

/-- An integer that was read was written: the numeral has no fraction and no exponent, since a
number with one of them is no integer. -/
theorem integer_of_readInteger {e : Expected} {low high : Int} {cs : List Char} {n : Int}
    {rest : List UInt8} (h : readInteger e low high (encode cs) = .ok (n, rest)) :
    ∃ a w v, Blanks a ∧ Integer w n ∧ cs = a ++ (w ++ v) ∧ rest = encode v := by
  obtain ⟨⟨head, r⟩, hread, hrange⟩ := bind_eq_ok.1 h
  dsimp only at hrange
  split at hrange
  · next k =>
    obtain ⟨a, m, w, f, e, v, negative, t, ha, hm, hw, rfl, rfl, hexact, htext, hf, he⟩ :=
      numeral_of_readHead hread
    obtain ⟨rfl, hf', he', hkeep⟩ := hexact
    rw [htext] at hkeep
    split at hrange
    · obtain ⟨rfl, rfl⟩ := Prod.mk.inj (Except.ok.inj hrange)
      have hvalue := ((keepDigits_whole hw k).1 hkeep).1
      obtain ⟨-, rfl⟩ : false = false ∧ m = [] := by
        rcases hm with hm | ⟨hm, -⟩
        · exact hm
        · cases hm
      refine ⟨a, w, v, ha, .natural hw hvalue, ?_, rfl⟩
      rw [hf hf', he he']
      rfl
    · cases hrange
  · next k =>
    obtain ⟨a, m, w, f, e, v, negative, t, ha, hm, hw, rfl, rfl, hexact, htext, hf, he⟩ :=
      numeral_of_readHead hread
    obtain ⟨rfl, hf', he', j, hkeep, hpos, -, rfl⟩ := hexact
    rw [htext] at hkeep
    split at hrange
    · obtain ⟨rfl, rfl⟩ := Prod.mk.inj (Except.ok.inj hrange)
      have hvalue := ((keepDigits_whole hw j).1 hkeep).1
      obtain ⟨-, rfl⟩ : true = true ∧ m = ['-'] := by
        rcases hm with ⟨hm, -⟩ | hm
        · cases hm
        · exact hm
      refine ⟨a, '-' :: w, v, ha, .negative hw hvalue hpos, ?_, rfl⟩
      rw [hf hf', he he']
      rfl
    · cases hrange
  · cases hrange

theorem readHeadFrom_of_isDigit {b : UInt8} (hb : isDigit b = true) (rest : List UInt8) :
    readHeadFrom b rest = (readNumber false (b :: rest)).map fun (n, r) => (.number n, r) := by
  rw [readHeadFrom, if_neg (ne_of_isDigit hb rfl), if_neg (ne_of_isDigit hb rfl),
    if_neg (ne_of_isDigit hb rfl), if_neg (ne_of_isDigit hb rfl), if_pos hb]

/-- What is read where a numeral is written: the value that its parts have in front of what
follows. -/
theorem readHead_numeral {m w f e : List Char} (hm : m = [] ∨ m = ['-']) (hw : Whole w)
    (hf : Fraction f) (he : Exponent e) :
    ∃ (negative : Bool) (t : NumberText),
      (negative = false ∧ m = [] ∨ negative = true ∧ m = ['-']) ∧
      (f = [] → e = [] → t = ⟨encode w, [], none⟩) ∧
      ∀ a rest, Blanks a → StopsBehind f e rest →
        readHead (encode a ++ (encode (m ++ w ++ f ++ e) ++ rest)) =
          (t.value negative rest).map fun x => (.number x, rest) := by
  obtain ⟨t, hwhole, hscan⟩ := scanNumber_append .endInValue hw hf he
  have hnumber : ∀ (negative : Bool) (rest : List UInt8), StopsBehind f e rest →
      readNumber negative (encode (w ++ f ++ e) ++ rest) =
        (t.value negative rest).map fun x => (x, rest) := by
    intro negative rest hr
    rw [encode_append, encode_append, List.append_assoc, List.append_assoc, readNumber,
      hscan rest hr]
    show (t.value negative rest >>= fun x => .ok (x, rest)) = _
    cases t.value negative rest <;> rfl
  rcases hm with rfl | rfl
  · refine ⟨false, t, .inl ⟨rfl, rfl⟩, hwhole, fun a rest ha hr => ?_⟩
    have hread := hnumber false rest hr
    obtain ⟨c, v, rfl, hc, hbyte, hd⟩ := hw.digits.exists_cons
    rw [List.cons_append, List.cons_append, encode_cons_of_isByte hbyte,
      List.cons_append] at hread
    rw [List.nil_append, List.cons_append, List.cons_append, encode_cons_of_isByte hbyte,
      List.cons_append, readHead_blanks_cons ha hbyte (opens_of_isDigit hc).not_blank,
      readHeadFrom_of_isDigit hd, hread]
    cases t.value false rest <;> rfl
  · refine ⟨true, t, .inr ⟨rfl, rfl⟩, hwhole, fun a rest ha hr => ?_⟩
    have hminus : ['-'] ++ w ++ f ++ e = '-' :: (w ++ f ++ e) := rfl
    rw [hminus, encode_cons_of_isByte (b := 0x2D) (by decide), List.cons_append,
      readHead_blanks_cons (c := '-') ha (by decide) (by decide)]
    show (readNumber true (encode (w ++ f ++ e) ++ rest)).map _ = _
    rw [hnumber true rest hr]
    cases t.value true rest <;> rfl

/-- What is read where an integer is written: its digits, with neither fraction nor exponent. -/
theorem readHead_integer {a w : List Char} {n : Int} (ha : Blanks a) (hw : Integer w n)
    {rest : List UInt8} (hr : Stops rest) :
    ∃ (negative : Bool) (u : List Char) (k : Nat), Whole u ∧ Text.digits? u = some k ∧
      (negative = false ∧ n = k ∨ negative = true ∧ 0 < k ∧ n = -(k : Int)) ∧
      readHead (encode a ++ (encode w ++ rest)) =
        (NumberText.value negative ⟨encode u, [], none⟩ rest).map fun x => (.number x, rest) := by
  cases hw with
  | @natural w k hw hk =>
    obtain ⟨negative, t, ⟨rfl, -⟩ | ⟨-, hm⟩, ht, hread⟩ :=
      readHead_numeral (.inl rfl) hw .none .none
    · have hhead := hread a rest ha (hr.behind [] [])
      rw [ht rfl rfl, List.nil_append, List.append_nil, List.append_nil] at hhead
      exact ⟨false, w, k, hw, hk, .inl ⟨rfl, rfl⟩, hhead⟩
    · cases hm
  | @negative w k hw hk hpos =>
    obtain ⟨negative, t, ⟨-, hm⟩ | ⟨rfl, -⟩, ht, hread⟩ :=
      readHead_numeral (.inr rfl) hw .none .none
    · cases hm
    · have hhead := hread a rest ha (hr.behind [] [])
      rw [ht rfl rfl, List.append_nil, List.append_nil] at hhead
      exact ⟨true, w, k, hw, hk, .inr ⟨rfl, hpos, rfl⟩, hhead⟩

/-- An integer within the bounds is read, if these are within 64 bits, without sign above and with
sign below. -/
theorem readInteger_append (e : Expected) {low high : Int} {a w : List Char} {n : Int}
    (ha : Blanks a) (hw : Integer w n) {rest : List UInt8} (hr : Stops rest)
    (hrange : low ≤ n ∧ n ≤ high) (hlow : -2 ^ 63 ≤ n) (hhigh : n < 2 ^ 64) :
    readInteger e low high (encode a ++ (encode w ++ rest)) = .ok (n, rest) := by
  obtain ⟨negative, u, k, hu, hk, hsign, hhead⟩ := readHead_integer ha hw hr
  have hkeep : keepDigits greatest64 0 (encode u) = (k, []) :=
    (keepDigits_whole hu k).2 ⟨hk, by unfold greatest64; omega⟩
  rw [readInteger, hhead]
  rcases hsign with ⟨rfl, rfl⟩ | ⟨rfl, hpos, rfl⟩
  · rw [(value_whole hkeep rest).1]
    exact if_pos hrange
  · rw [(value_whole hkeep rest).2 hpos (by omega)]
    exact if_pos hrange

/-- **An integer out of the bounds is refused,** of whatever size it is. -/
theorem readInteger_append_of_not (e : Expected) {low high : Int} {a w : List Char} {n : Int}
    (ha : Blanks a) (hw : Integer w n) {rest : List UInt8} (hr : Stops rest)
    (hrange : ¬ (low ≤ n ∧ n ≤ high)) :
    ∃ f, readInteger e low high (encode a ++ (encode w ++ rest)) = .error f := by
  obtain ⟨negative, u, k, hu, hk, hsign, hhead⟩ := readHead_integer ha hw hr
  have hdigits : ∀ m : Nat, keepDigits greatest64 0 (encode u) = (m, []) → m = k := by
    intro m hm
    have hvalue := ((keepDigits_whole hu m).1 hm).1
    rw [hk] at hvalue
    exact (Option.some.inj hvalue).symm
  rw [readInteger, hhead]
  cases hvalue : NumberText.value negative ⟨encode u, [], none⟩ rest with
  | error f => exact ⟨f, rfl⟩
  | ok x =>
    -- a number that was read as an integer is the one that was written
    have hexact := exact_of_value hvalue
    cases x with
    | natural m =>
      obtain ⟨rfl, -, -, hkeep⟩ := hexact
      obtain rfl := hdigits m hkeep
      have hn : n = m := by simpa using hsign
      exact ⟨_, if_neg (hn ▸ hrange)⟩
    | negative z =>
      obtain ⟨rfl, -, -, m, hkeep, -, -, rfl⟩ := hexact
      obtain rfl := hdigits m hkeep
      have hn : n = -(m : Int) := by
        rcases hsign with ⟨hneg, -⟩ | ⟨-, -, hn⟩
        · cases hneg
        · exact hn
      exact ⟨_, if_neg (hn ▸ hrange)⟩
    | float minus x => exact ⟨_, rfl⟩

/-- An integer begins with a digit or a minus. -/
theorem Integer.opens {w : List Char} {n : Int} (hw : Integer w n) :
    ∃ c v, w = c :: v ∧ Opens c := by
  cases hw with
  | natural hw =>
    obtain ⟨c, v, hv, hc, -, -⟩ := hw.digits.exists_cons
    exact ⟨c, v, hv, opens_of_isDigit hc⟩
  | negative => exact ⟨'-', _, rfl, by decide, rfl, by decide, by decide⟩

/-- **Integers within the bounds are read exactly where they are written.** -/
theorem accepts_readInteger (e : Expected) {low high : Int} (hlow : -2 ^ 63 ≤ low)
    (hhigh : high < 2 ^ 64) :
    Accepts (readInteger e low high) fun w n => Integer w n ∧ low ≤ n ∧ n ≤ high where
  sound h := by
    obtain ⟨a, w, v, ha, hw, hcs, hv⟩ := integer_of_readInteger h
    exact ⟨a, w, v, ha, ⟨hw, between_of_readInteger h⟩, hcs, hv⟩
  complete ha hw hr := readInteger_append e ha hw.1 hr hw.2 (by omega) (by omega)
  opens hw := hw.1.opens

theorem accepts_readInt64 : Accepts readInt64 Integer64 := by
  have hform : Integer64 = fun w n =>
      Integer w n ∧ -0x8000000000000000 ≤ n ∧ n ≤ 0x7FFFFFFFFFFFFFFF := by
    funext w n
    refine propext (integer64_iff.trans (and_congr_right fun _ => ?_))
    omega
  rw [hform]
  exact accepts_readInteger .int64 (by norm_num) (by norm_num)

end AuditLabels.Json

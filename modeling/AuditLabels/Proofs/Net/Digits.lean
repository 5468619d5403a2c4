import AuditLabels.Proofs.Net.Syntax
import AuditLabels.Proofs.Text.Numeral

/-!
# Digits at the front of a text

Readers of numbers take as many digits as there are.  So what is taken is told by the text alone:
the digits in front, as long as what follows is no digit.
-/

namespace AuditLabels.Net

/-! ## Digits -/

section Digits

variable {digit? : Char → Option Nat}

/-- No digit stands at the front. -/
def NoDigit (digit? : Char → Option Nat) (rest : List Char) : Prop :=
  ∀ c ∈ rest.head?, digit? c = none

theorem noDigit_cons {c : Char} (h : digit? c = none) (rest : List Char) :
    NoDigit digit? (c :: rest) := by
  intro d hd
  obtain rfl := Option.some.inj hd
  exact h

theorem takeDigits_cons_of_none {c : Char} (h : digit? c = none) (cs : List Char) :
    takeDigits digit? (c :: cs) = ([], c :: cs) := by
  simp [takeDigits, h]

theorem takeDigits_cons_of_some {c : Char} {d : Nat} (h : digit? c = some d) (cs : List Char) :
    takeDigits digit? (c :: cs) = (d :: (takeDigits digit? cs).1, (takeDigits digit? cs).2) := by
  simp [takeDigits, h]

/-- Digits that stand in front of something else are taken. -/
theorem takeDigits_append {w rest : List Char} {ds : List Nat} (hw : HasDigits digit? w ds)
    (hr : NoDigit digit? rest) : takeDigits digit? (w ++ rest) = (ds, rest) := by
  induction hw with
  | nil =>
    cases rest with
    | nil => rfl
    | cons c rest => exact takeDigits_cons_of_none (hr c rfl) rest
  | cons hc _ ih => rw [List.cons_append, takeDigits_cons_of_some hc, ih]

/-- A text is the digits at its front and something else. -/
theorem exists_digits (digit? : Char → Option Nat) (cs : List Char) :
    ∃ w ds rest, cs = w ++ rest ∧ HasDigits digit? w ds ∧ NoDigit digit? rest := by
  induction cs with
  | nil => exact ⟨[], [], [], rfl, .nil, nofun⟩
  | cons c cs ih =>
    cases hc : digit? c with
    | none => exact ⟨[], [], c :: cs, rfl, .nil, noDigit_cons hc cs⟩
    | some d =>
      obtain ⟨w, ds, rest, rfl, hds, hr⟩ := ih
      exact ⟨c :: w, d :: ds, rest, rfl, .cons hc hds, hr⟩

end Digits

/-! ## Decimal numbers -/

/-- Decimal digits are ASCII digits, each with its own value. -/
theorem hasDigits_decimal_iff {w : List Char} {ds : List Nat} :
    HasDigits Text.digit? w ds ↔
      (∀ c ∈ w, c.isDigit = true) ∧ ds = w.map fun c => c.toNat - '0'.toNat := by
  induction w generalizing ds with
  | nil =>
    unfold HasDigits
    simp
  | cons c w ih =>
    unfold HasDigits at ih ⊢
    rw [List.forall₂_cons_left_iff, List.forall_mem_cons, List.map_cons]
    constructor
    · rintro ⟨d, ds, hd, hds, rfl⟩
      obtain ⟨hc, rfl⟩ := Text.digit?_eq_some_iff.1 hd
      obtain ⟨hw, rfl⟩ := ih.1 hds
      exact ⟨⟨hc, hw⟩, rfl⟩
    · rintro ⟨⟨hc, hw⟩, rfl⟩
      exact ⟨_, _, Text.digit?_eq_some_iff.2 ⟨hc, rfl⟩, ih.2 ⟨hw, rfl⟩, rfl⟩

/-- The decimal digits at the front of a text. -/
theorem exists_decimal (cs : List Char) : ∃ w rest, cs = w ++ rest ∧
    (∀ c ∈ w, c.isDigit = true) ∧ NoDigit Text.digit? rest := by
  obtain ⟨w, ds, rest, rfl, hds, hr⟩ := exists_digits Text.digit? cs
  exact ⟨w, rest, rfl, (hasDigits_decimal_iff.1 hds).1, hr⟩

/-- Decimal digits in front of something else are one word. -/
theorem eq_of_decimal_append {v w r s : List Char} (hv : ∀ c ∈ v, c.isDigit = true)
    (hw : ∀ c ∈ w, c.isDigit = true) (hr : NoDigit Text.digit? r) (hs : NoDigit Text.digit? s)
    (h : v ++ r = w ++ s) : v = w ∧ r = s := by
  have htake := takeDigits_append (hasDigits_decimal_iff.2 ⟨hv, rfl⟩) hr
  rw [h, takeDigits_append (hasDigits_decimal_iff.2 ⟨hw, rfl⟩) hs] at htake
  obtain ⟨-, rfl⟩ := Prod.mk.inj htake
  exact ⟨List.append_cancel_right h, rfl⟩

section Decimal

variable {w rest : List Char} (hw : ∀ c ∈ w, c.isDigit = true) (hr : NoDigit Text.digit? rest)

include hw hr

theorem takeDigits_decimal : takeDigits Text.digit? (w ++ rest) =
    (w.map fun c => c.toNat - '0'.toNat, rest) :=
  takeDigits_append (hasDigits_decimal_iff.2 ⟨hw, rfl⟩) hr

theorem takeNumber_append (bound : Nat) : Endpoint.takeNumber bound (w ++ rest) =
    if w = [] ∨ bound ≤ Nat.ofDigitChars 10 w 0 then none
    else some (Nat.ofDigitChars 10 w 0, rest) := by
  simp only [Endpoint.takeNumber, takeDigits_decimal hw hr, ofDigits, List.foldl_map,
    Nat.ofDigitChars_eq_foldl, List.map_eq_nil_iff]

theorem takeByte_append : takeByte (w ++ rest) =
    if w = [] ∨ 3 < w.length ∨ w.head? = some '0' ∧ 1 < w.length ∨ 255 < Nat.ofDigitChars 10 w 0
    then none else some (UInt8.ofNat (Nat.ofDigitChars 10 w 0), rest) := by
  have hzero : (w.map fun c => c.toNat - '0'.toNat).head? = some 0 ↔ w.head? = some '0' := by
    cases w with
    | nil => exact iff_of_false nofun nofun
    | cons c w =>
      obtain ⟨-, hchar⟩ := Text.digitChar_of_isDigit (hw c List.mem_cons_self)
      rw [List.map_cons, List.head?_cons, List.head?_cons, Option.some.injEq, Option.some.injEq]
      constructor
      · intro h
        rw [h] at hchar
        exact hchar.symm
      · rintro rfl
        rfl
  simp only [takeByte, takeDigits_decimal hw hr, ofDigits, List.foldl_map,
    Nat.ofDigitChars_eq_foldl, List.map_eq_nil_iff, List.length_map, hzero]

end Decimal

namespace Endpoint

/-- A number with any number of zeros in front is taken if it is below the bound. -/
theorem takeNumber_eq_some_iff {bound n : Nat} {cs rest : List Char} :
    takeNumber bound cs = some (n, rest) ↔
      ∃ w, cs = w ++ rest ∧ Text.digits? w = some n ∧ n < bound ∧ NoDigit Text.digit? rest := by
  obtain ⟨v, r, rfl, hv, hr⟩ := exists_decimal cs
  rw [takeNumber_append hv hr]
  constructor
  · intro h
    split at h
    · cases h
    · next hnot =>
      obtain ⟨rfl, rfl⟩ := Prod.mk.inj (Option.some.inj h)
      rw [not_or, Nat.not_le] at hnot
      exact ⟨v, rfl, Text.digits?_eq_some_iff.2 ⟨hnot.1, hv, rfl⟩, hnot.2, hr⟩
  · rintro ⟨w, hcs, hn, hlt, hrest⟩
    obtain ⟨hne, hw, rfl⟩ := Text.digits?_eq_some_iff.1 hn
    obtain ⟨rfl, rfl⟩ := eq_of_decimal_append hv hw hr hrest hcs
    rw [if_neg (not_or.2 ⟨hne, Nat.not_le.2 hlt⟩)]

end Endpoint

/-- **A byte is taken as it is written.** -/
theorem takeByte_eq_some_iff {b : UInt8} {cs rest : List Char} :
    takeByte cs = some (b, rest) ↔
      cs = Nat.toDigits 10 b.toNat ++ rest ∧ NoDigit Text.digit? rest := by
  constructor
  · intro h
    obtain ⟨w, r, rfl, hw, hr⟩ := exists_decimal cs
    rw [takeByte_append hw hr] at h
    split at h
    · cases h
    · next hnot =>
      obtain ⟨rfl, rfl⟩ := Prod.mk.inj (Option.some.inj h)
      simp only [not_or, not_and, Nat.not_lt] at hnot
      obtain ⟨hne, -, hzero, hle⟩ := hnot
      refine ⟨?_, hr⟩
      rw [UInt8.toNat_ofNat_of_lt' (Nat.lt_succ_of_le hle), Text.toDigits_ofDigitChars hw]
      -- a zero in front is the only digit
      by_cases hhead : w.head? = some '0'
      · left
        obtain ⟨c, w, rfl⟩ := List.exists_cons_of_ne_nil hne
        obtain rfl := Option.some.inj hhead
        have hone := hzero rfl
        rw [List.length_cons] at hone
        rw [List.length_eq_zero_iff.1 (by omega : w.length = 0)]
      · exact .inr ⟨hne, hhead⟩
  · rintro ⟨rfl, hr⟩
    have hlt : b.toNat < 256 := b.toNat_lt
    have hlength : (Nat.toDigits 10 b.toNat).length ≤ 3 := by
      rw [Nat.length_toDigits_le_iff (by decide) (by decide)]
      omega
    have hzero : (Nat.toDigits 10 b.toNat).head? = some '0' →
        (Nat.toDigits 10 b.toNat).length ≤ 1 := by
      intro hhead
      rw [Nat.length_toDigits_le_iff (by decide) (by decide)]
      by_contra hnot
      exact Text.head?_toDigits_ne_zero (by omega) hhead
    rw [takeByte_append Text.isDigit_of_mem_toDigits hr, Nat.ofDigitChars_ten_toDigits,
      UInt8.ofNat_toNat, if_neg]
    simp only [not_or, not_and, Nat.not_lt]
    exact ⟨Nat.toDigits_ne_nil, hlength, hzero, by omega⟩

/-! ## Hexadecimal numbers -/

theorem hexDigit?_of_digit? {c : Char} {d : Nat} (h : Text.digit? c = some d) :
    Text.hexDigit? c = some d := by
  unfold Text.digit? at h
  split at h
  · next hc => rw [Text.hexDigit?, if_pos hc, h]
  · cases h

theorem NoDigit.decimal {rest : List Char} (h : NoDigit Text.hexDigit? rest) :
    NoDigit Text.digit? rest := by
  intro c hc
  cases hd : Text.digit? c with
  | none => rfl
  | some d =>
    have hhex := h c hc
    rw [hexDigit?_of_digit? hd] at hhex
    cases hhex

theorem hexDigit?_lt {c : Char} {d : Nat} (h : Text.hexDigit? c = some d) : d < 16 := by
  have hascii : ∀ n < 0x80, ∀ v ∈ Text.hexDigit? (Char.ofNat n), v < 16 := by
    decide +kernel
  have hc := hascii c.toNat (Text.toNat_lt_of_hexDigit? h)
  rw [Char.ofNat_toNat] at hc
  exact hc d h

/-- A number is told by its digits from the last one on. -/
theorem ofDigits_eq (base : Nat) (ds : List Nat) :
    ofDigits base ds = Nat.ofDigits base ds.reverse := by
  rw [Nat.ofDigits_eq_foldr, List.foldr_reverse, ofDigits]
  congr 1
  funext n d
  rw [Nat.cast_id, Nat.add_comm]

/-- The digits of a group say less than `2 ^ 16`. -/
theorem ofDigits_lt {w : List Char} {ds : List Nat} (hw : HasDigits Text.hexDigit? w ds)
    (hlength : ds.length ≤ 4) : ofDigits 16 ds < 2 ^ 16 := by
  have hdigits : ∀ d ∈ ds.reverse, d < 16 := by
    intro d hd
    obtain ⟨i, hi, rfl⟩ := List.getElem_of_mem (List.mem_reverse.1 hd)
    exact hexDigit?_lt (hw.get (hw.length_eq ▸ hi) hi)
  calc ofDigits 16 ds = Nat.ofDigits 16 ds.reverse := ofDigits_eq 16 ds
    _ < 16 ^ ds.reverse.length := Nat.ofDigits_lt_base_pow_length (by decide) hdigits
    _ ≤ 16 ^ 4 := Nat.pow_le_pow_right (by decide) (by rwa [List.length_reverse])

end AuditLabels.Net

import AuditLabels.Text.Blank
import AuditLabels.Text.Numeral

/-!
# Numerals and what they say

The decimal text of a number says the number, and a number of 64 bits is short to write.  The
numerals that are read are exactly the digits, with or without a sign, and what they say is their
decimal value, however many of them there are.
-/

namespace AuditLabels.Text

/-! ## Digits -/

theorem digit?_of_isDigit {c : Char} (hc : c.isDigit = true) :
    digit? c = some (c.toNat - '0'.toNat) := by
  obtain ⟨hlow, hhigh⟩ := Char.isDigit_iff_toNat.1 hc
  have hle : '0' ≤ c ∧ c ≤ '9' := ⟨hlow, hhigh⟩
  rw [digit?, if_pos hle]

/-- The digits behind a number carry it on. -/
theorem digitsOnto_eq {cs : List Char} (h : ∀ c ∈ cs, c.isDigit = true) (n : Nat) :
    digitsOnto n cs = some (Nat.ofDigitChars 10 cs n) := by
  induction cs generalizing n with
  | nil => rfl
  | cons c cs ih =>
    rw [digitsOnto, digit?_of_isDigit (h c List.mem_cons_self), Nat.ofDigitChars_cons]
    exact ih (fun d hd => h d (List.mem_cons_of_mem c hd)) _

theorem isDigit_of_mem_toDigits {n : Nat} : ∀ c ∈ Nat.toDigits 10 n, c.isDigit = true :=
  fun _ hc => Nat.isDigit_of_mem_toDigits (by decide) (by decide) hc

/-- **Digits that are written are read back.** -/
theorem digits?_toDigits (n : Nat) : digits? (Nat.toDigits 10 n) = some n := by
  obtain ⟨c, cs, hcons⟩ := List.exists_cons_of_ne_nil (Nat.toDigits_ne_nil (n := n) (b := 10))
  have hread := digitsOnto_eq (isDigit_of_mem_toDigits (n := n)) 0
  rw [Nat.ofDigitChars_ten_toDigits] at hread
  rw [hcons] at hread ⊢
  exact hread

/-- A character that is no ASCII digit has no value. -/
theorem digit?_of_not_isDigit {c : Char} (hc : ¬ c.isDigit = true) : digit? c = none := by
  have hle : ¬ ('0' ≤ c ∧ c ≤ '9') := fun h => hc (Char.isDigit_iff_toNat.2 h)
  rw [digit?, if_neg hle]

theorem digit?_eq_some_iff {c : Char} {d : Nat} :
    digit? c = some d ↔ c.isDigit = true ∧ d = c.toNat - '0'.toNat := by
  by_cases hc : c.isDigit = true
  · rw [digit?_of_isDigit hc, Option.some.injEq, eq_comm, and_iff_right hc]
  · rw [digit?_of_not_isDigit hc]
    simp [hc]

/-- **Digits say their decimal value,** and nothing but digits says anything. -/
theorem digits?_eq_some_iff {cs : List Char} {n : Nat} :
    digits? cs = some n ↔
      cs ≠ [] ∧ (∀ c ∈ cs, c.isDigit = true) ∧ n = Nat.ofDigitChars 10 cs 0 := by
  cases cs with
  | nil => simp [digits?]
  | cons c cs =>
    have hread : digits? (c :: cs) = digitsOnto 0 (c :: cs) := rfl
    rw [hread]
    constructor
    · intro h
      have hdigits : ∀ d ∈ c :: cs, d.isDigit = true := by
        intro d hd
        by_cases hdigit : d.isDigit = true
        · exact hdigit
        · rw [digitsOnto_of_digit?_eq_none hd (digit?_of_not_isDigit hdigit)] at h
          cases h
      rw [digitsOnto_eq hdigits] at h
      exact ⟨List.cons_ne_nil c cs, hdigits, (Option.some.inj h).symm⟩
    · rintro ⟨-, hdigits, rfl⟩
      exact digitsOnto_eq hdigits 0

/-! ## Digits without needless zeros -/

/-- A digit is written for its value. -/
theorem digitChar_of_isDigit {c : Char} (hc : c.isDigit = true) :
    c.toNat - '0'.toNat < 10 ∧ Nat.digitChar (c.toNat - '0'.toNat) = c := by
  obtain ⟨hlow, hhigh⟩ := Char.isDigit_iff_toNat.1 hc
  have hlow : 0x30 ≤ c.toNat := hlow
  have hhigh : c.toNat ≤ 0x39 := hhigh
  have hzero : '0'.toNat = 0x30 := rfl
  have hwritten : ∀ k, k < 10 → (Nat.digitChar k).toNat = 0x30 + k := by decide
  have hlt : c.toNat - '0'.toNat < 10 := by omega
  refine ⟨hlt, Char.toNat_inj.1 ?_⟩
  rw [hwritten _ hlt]
  omega

/-- Behind a number that is not zero, every digit is written as it is read. -/
theorem toDigits_ofDigitChars_of_pos {cs : List Char} (h : ∀ c ∈ cs, c.isDigit = true) {n : Nat}
    (hn : 0 < n) :
    Nat.toDigits 10 (Nat.ofDigitChars 10 cs n) = Nat.toDigits 10 n ++ cs := by
  induction cs generalizing n with
  | nil => rw [Nat.ofDigitChars_nil, List.append_nil]
  | cons c cs ih =>
    obtain ⟨hlt, hchar⟩ := digitChar_of_isDigit (h c List.mem_cons_self)
    have hdigit : Nat.toDigits 10 (c.toNat - '0'.toNat) = [c] := by
      rw [Nat.toDigits_of_lt_base hlt, hchar]
    rw [Nat.ofDigitChars_cons, ih (fun d hd => h d (List.mem_cons_of_mem c hd)) (by omega),
      ← Nat.toDigits_append_toDigits (by decide) hn hlt, hdigit, List.append_assoc]
    rfl

/-- **Digits that do not begin with a needless zero are the text of their value.** -/
theorem toDigits_ofDigitChars {cs : List Char} (h : ∀ c ∈ cs, c.isDigit = true)
    (hzero : cs = ['0'] ∨ cs ≠ [] ∧ cs.head? ≠ some '0') :
    Nat.toDigits 10 (Nat.ofDigitChars 10 cs 0) = cs := by
  rcases hzero with rfl | ⟨hne, hhead⟩
  · rfl
  · obtain ⟨c, cs, rfl⟩ := List.exists_cons_of_ne_nil hne
    obtain ⟨hlt, hchar⟩ := digitChar_of_isDigit (h c List.mem_cons_self)
    -- the first digit is a number that is not zero
    have hpos : 0 < c.toNat - '0'.toNat := by
      refine Nat.pos_of_ne_zero fun hc => hhead ?_
      rw [hc] at hchar
      rw [← hchar]
      rfl
    rw [Nat.ofDigitChars_cons, Nat.mul_zero, Nat.zero_add,
      toDigits_ofDigitChars_of_pos (fun d hd => h d (List.mem_cons_of_mem c hd)) hpos,
      Nat.toDigits_of_lt_base hlt, hchar]
    rfl

/-- The text of a number begins with a zero only if it is nothing else. -/
theorem head?_toDigits_ne_zero {n : Nat} (hn : 0 < n) : (Nat.toDigits 10 n).head? ≠ some '0' := by
  induction n using Nat.strongRecOn with
  | ind n ih =>
    rw [Nat.toDigits_eq_if (by decide)]
    split
    · next hlt =>
      have hwritten : ∀ k, k < 10 → 0 < k → Nat.digitChar k ≠ '0' := by decide
      intro h
      exact hwritten n hlt hn (Option.some.inj h)
    · next hge =>
      obtain ⟨c, cs, hcons⟩ :=
        List.exists_cons_of_ne_nil (Nat.toDigits_ne_nil (n := n / 10) (b := 10))
      have hfront := ih (n / 10) (by omega) (by omega)
      rw [hcons] at hfront ⊢
      exact hfront

/-! ## Unsigned numbers -/

/-- One or more ASCII digits with this decimal value, behind a plus or alone. -/
def IsUnsigned (cs : List Char) (n : Nat) : Prop :=
  ∃ ds, (cs = ds ∨ cs = '+' :: ds) ∧ ds ≠ [] ∧ (∀ c ∈ ds, c.isDigit = true) ∧
    n = Nat.ofDigitChars 10 ds 0

theorem unsigned?_eq_some_iff {cs : List Char} {n : Nat} :
    unsigned? cs = some n ↔ IsUnsigned cs n := by
  have hplus : ¬ '+'.isDigit = true := by decide
  unfold unsigned?
  split
  · next ds =>
    rw [digits?_eq_some_iff]
    constructor
    · intro h
      exact ⟨ds, .inr rfl, h⟩
    · rintro ⟨es, rfl | hes, hne, hdigits, hn⟩
      · exact absurd (hdigits '+' List.mem_cons_self) hplus
      · obtain rfl := List.tail_eq_of_cons_eq hes
        exact ⟨hne, hdigits, hn⟩
  · next hcs =>
    rw [digits?_eq_some_iff]
    constructor
    · intro h
      exact ⟨cs, .inl rfl, h⟩
    · rintro ⟨ds, rfl | rfl, h⟩
      · exact h
      · exact absurd rfl (hcs ds)

/-- A numeral has no blanks. -/
theorem IsUnsigned.not_isBlank {cs : List Char} {n : Nat} (h : IsUnsigned cs n) :
    ∀ c ∈ cs, isBlank c = false := by
  obtain ⟨ds, hcs, -, hdigits, -⟩ := h
  have hds : ∀ c ∈ ds, isBlank c = false := by
    intro c hc
    obtain ⟨hlow, hhigh⟩ := Char.isDigit_iff_toNat.1 (hdigits c hc)
    have hlow : 0x30 ≤ c.toNat := hlow
    have hhigh : c.toNat ≤ 0x39 := hhigh
    simp only [isBlank, Bool.or_eq_false_iff, Bool.and_eq_false_imp, decide_eq_true_eq,
      decide_eq_false_iff_not, Nat.not_le, beq_eq_false_iff_ne, ne_eq]
    omega
  rcases hcs with rfl | rfl
  · exact hds
  · exact List.forall_mem_cons.2 ⟨by decide, hds⟩

theorem uint16?_eq_some_iff {cs : List Char} {x : UInt16} :
    uint16? cs = some x ↔ IsUnsigned cs x.toNat := by
  rw [uint16?, Option.bind_eq_some_iff, ← unsigned?_eq_some_iff]
  constructor
  · rintro ⟨n, hn, hx⟩
    split at hx
    · next hlt =>
      obtain rfl := Option.some.inj hx
      rw [hn, UInt16.toNat_ofNat_of_lt' hlt]
    · cases hx
  · intro h
    exact ⟨x.toNat, h, by rw [if_pos x.toNat_lt, UInt16.ofNat_toNat]⟩

theorem uint32?_eq_some_iff {cs : List Char} {x : UInt32} :
    uint32? cs = some x ↔ IsUnsigned cs x.toNat := by
  rw [uint32?, Option.bind_eq_some_iff, ← unsigned?_eq_some_iff]
  constructor
  · rintro ⟨n, hn, hx⟩
    split at hx
    · next hlt =>
      obtain rfl := Option.some.inj hx
      rw [hn, UInt32.toNat_ofNat_of_lt' hlt]
    · cases hx
  · intro h
    exact ⟨x.toNat, h, by rw [if_pos x.toNat_lt, UInt32.ofNat_toNat]⟩

/-! ## Signed numbers -/

/-- One or more ASCII digits behind at most one sign, and the number they say with it. -/
def IsSigned (cs : List Char) (z : Int) : Prop :=
  ∃ ds, ds ≠ [] ∧ (∀ c ∈ ds, c.isDigit = true) ∧
    ((cs = ds ∨ cs = '+' :: ds) ∧ z = (Nat.ofDigitChars 10 ds 0 : Int) ∨
      cs = '-' :: ds ∧ z = -(Nat.ofDigitChars 10 ds 0 : Int))

/-- **Signed numerals say their exact value,** however many digits they have. -/
theorem signed?_eq_some_iff {cs : List Char} {z : Int} : signed? cs = some z ↔ IsSigned cs z := by
  have hminus : ¬ '-'.isDigit = true := by decide
  unfold signed?
  split
  · next ds =>
    rw [Option.map_eq_some_iff]
    constructor
    · rintro ⟨m, hm, rfl⟩
      obtain ⟨n, hn, hcast⟩ := Option.bind_eq_some_iff.1 hm
      obtain ⟨hne, hdigits, rfl⟩ := digits?_eq_some_iff.1 hn
      obtain rfl := Option.some.inj hcast
      exact ⟨ds, hne, hdigits, .inr ⟨rfl, rfl⟩⟩
    · rintro ⟨es, hne, hdigits, ⟨hes | hes, -⟩ | ⟨hes, rfl⟩⟩
      · rw [← hes] at hdigits
        exact absurd (hdigits '-' List.mem_cons_self) hminus
      · cases hes
      · obtain rfl := List.tail_eq_of_cons_eq hes
        have hread := digits?_eq_some_iff.2 ⟨hne, hdigits, rfl⟩
        exact ⟨_, Option.bind_eq_some_iff.2 ⟨_, hread, rfl⟩, rfl⟩
  · next hcs =>
    rw [Option.map_eq_some_iff]
    constructor
    · rintro ⟨n, hn, rfl⟩
      obtain ⟨ds, hds, hne, hdigits, rfl⟩ := unsigned?_eq_some_iff.1 hn
      exact ⟨ds, hne, hdigits, .inl ⟨hds, rfl⟩⟩
    · rintro ⟨ds, hne, hdigits, ⟨hds, rfl⟩ | ⟨rfl, -⟩⟩
      · exact ⟨_, unsigned?_eq_some_iff.2 ⟨ds, hds, hne, hdigits, rfl⟩, rfl⟩
      · exact absurd rfl (hcs ds)

/-- A numeral is read as a number of 64 bits exactly if the number it says is one. -/
theorem int64?_eq_some_iff {cs : List Char} {z : Int} :
    int64? cs = some z ↔ IsSigned cs z ∧ isInt64 z = true := by
  rw [int64?, Option.filter_eq_some_iff, signed?_eq_some_iff]

/-- The characters of a number: its digits, behind a minus if it is negative. -/
theorem toList_ofInt (z : Int) :
    (ofInt z).toList = (if z < 0 then ['-'] else []) ++ Nat.toDigits 10 z.natAbs := by
  cases z with
  | ofNat n =>
    have hn : ¬ Int.ofNat n < 0 := by simp
    rw [if_neg hn]
    simp [ofInt, ofNat]
  | negSucc n =>
    rw [if_pos (Int.negSucc_lt_zero n)]
    simp [ofInt, ofNat]

/-- Digits without a sign are read as a number that is not negative. -/
theorem signed?_toDigits (n : Nat) : signed? (Nat.toDigits 10 n) = some (n : Int) := by
  have hread := digits?_toDigits n
  have hsign : ∀ c r, Nat.toDigits 10 n = c :: r → c ≠ '-' ∧ c ≠ '+' := by
    intro c r hcons
    have hc : c.isDigit = true := by
      refine Nat.isDigit_of_mem_toDigits (b := 10) (n := n) (by decide) (by decide) ?_
      rw [hcons]
      exact List.mem_cons_self
    constructor <;> (rintro rfl; exact absurd hc (by decide))
  unfold signed?
  split
  · next r hcons => exact absurd rfl (hsign _ r hcons).1
  · unfold unsigned?
    split
    · next r hcons => exact absurd rfl (hsign _ r hcons).2
    · rw [hread]
      rfl

/-- **A number is read back from its text.** -/
theorem signed?_ofInt (z : Int) : signed? (ofInt z).toList = some z := by
  rw [toList_ofInt]
  by_cases hz : z < 0
  · rw [if_pos hz, List.singleton_append, signed?, digits?_toDigits]
    show some (-(z.natAbs : Int)) = some z
    congr 1
    omega
  · rw [if_neg hz, List.nil_append, signed?_toDigits]
    congr 1
    omega

theorem int64?_ofInt {z : Int} (hz : isInt64 z = true) : int64? (ofInt z).toList = some z := by
  rw [int64?, signed?_ofInt, Option.filter_some, if_pos hz]

/-- Two numbers are not written alike. -/
theorem ofInt_injective {a b : Int} (h : ofInt a = ofInt b) : a = b := by
  have hread := signed?_ofInt a
  rw [h, signed?_ofInt] at hread
  exact (Option.some.inj hread).symm

/-- The text of a number of 64 bits has at most twenty characters. -/
theorem length_ofInt_le {z : Int} (hz : isInt64 z = true) : (ofInt z).toList.length ≤ 20 := by
  rw [isInt64, Bool.and_eq_true, decide_eq_true_iff, decide_eq_true_iff] at hz
  have hdigits : (Nat.toDigits 10 z.natAbs).length ≤ 19 := by
    rw [Nat.length_toDigits_le_iff (by decide) (by decide)]
    omega
  rw [toList_ofInt, List.length_append]
  split
  · rw [List.length_singleton]
    omega
  · rw [List.length_nil]
    omega

end AuditLabels.Text

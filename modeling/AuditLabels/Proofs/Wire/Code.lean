import AuditLabels.Proofs.Json.Head
import AuditLabels.Wire.Code

/-!
# Members and their codes

A member of a vocabulary stands for its code and the code for the member, as a number and as a text:
each member has one text, the decimal digits of its code, and no other text is read as the member,
whatever number it says.
-/

namespace AuditLabels

open Text.Utf8 (encode)

/-! ## Integers that are not negative -/

namespace Json

theorem whole_toDigits (n : Nat) : Whole (Nat.toDigits 10 n) := by
  rcases Nat.eq_zero_or_pos n with rfl | hn
  · exact .inl rfl
  · exact .inr
      ⟨⟨Nat.toDigits_ne_nil, Text.isDigit_of_mem_toDigits⟩, Text.head?_toDigits_ne_zero hn⟩

/-- Digits before a point are written without needless zeros. -/
theorem Whole.eq_toDigits {w : List Char} {n : Nat} (hw : Whole w)
    (hn : Text.digits? w = some n) : w = Nat.toDigits 10 n := by
  obtain ⟨-, hdigits, rfl⟩ := Text.digits?_eq_some_iff.1 hn
  refine (Text.toDigits_ofDigitChars hdigits ?_).symm
  rcases hw with hzero | ⟨⟨hne, -⟩, hhead⟩
  · exact .inl hzero
  · exact .inr ⟨hne, hhead⟩

/-- **An integer that is not negative is written in one way.** -/
theorem integer_natCast_iff {w : List Char} {n : Nat} :
    Integer w n ↔ w = Nat.toDigits 10 n := by
  constructor
  · intro h
    generalize hz : (n : Int) = z at h
    cases h with
    | @natural w k hw hk =>
      obtain rfl : n = k := by omega
      exact hw.eq_toDigits hk
    | negative hw hk hpos => omega
  · rintro rfl
    exact .natural (whole_toDigits n) (Text.digits?_toDigits n)

end Json

namespace Wire

open Json (Blanks Document Integer)

section Members

variable {α : Type} [Vocabulary α]

/-! ## Codes as numbers -/

theorem ofCode_eq_ok_iff {noun : String} {n : Int} {x : α} :
    ofCode noun n = .ok x ↔ Vocabulary.code x = n := by
  rw [← Vocabulary.ofCode?_eq_some_iff, ofCode]
  cases (Vocabulary.ofCode? n : Option α) with
  | none => simp
  | some y => simp

/-- A number that is the code of no member is refused by itself. -/
theorem ofCode_eq_error {noun : String} {n : Int} (h : ∀ x : α, Vocabulary.code x ≠ n) :
    (ofCode noun n : Except UnknownCode α) = .error ⟨noun, n⟩ := by
  have hnone : (Vocabulary.ofCode? n : Option α) = none := by
    rw [Option.eq_none_iff_forall_ne_some]
    exact fun x hx => h x (Vocabulary.ofCode?_eq_some_iff.1 hx)
  rw [ofCode, hnone]

/-! ## Codes as texts -/

/-- A member is read where its code is, and nothing else. -/
theorem readCode_eq_ok_iff {noun : String} {bytes : List UInt8} {x : α} :
    readCode noun bytes = .ok x ↔
      Json.readWhole Json.readInt16 bytes = .ok (Vocabulary.code x) := by
  rw [Json.readWhole_eq_ok, readCode]
  cases hread : Json.readInt16 bytes with
  | error f => simp
  | ok p =>
    obtain ⟨n, rest⟩ := p
    have hwhole : ∀ y : α, Json.readWhole (fun _ => .ok (y, rest)) bytes = .ok y ↔
        Json.skipSpace rest = [] := by
      intro y
      rw [Json.readWhole_eq_ok]
      simp
    dsimp only
    constructor
    · intro h
      split at h
      · cases h
      · next y hy =>
        split at h
        · cases h
        · next z hz =>
          obtain rfl := Except.ok.inj h
          obtain rfl : z = y := by
            obtain ⟨r, hr, -⟩ := Json.readWhole_eq_ok.1 hz
            exact (Prod.mk.inj (Except.ok.inj hr)).1.symm
          rw [ofCode_eq_ok_iff.1 hy]
          exact ⟨rest, rfl, (hwhole z).1 hz⟩
    · rintro ⟨r, hr, hend⟩
      obtain ⟨rfl, rfl⟩ := Prod.mk.inj (Except.ok.inj hr)
      rw [ofCode_eq_ok_iff.2 rfl]
      dsimp only
      rw [(hwhole x).2 hend]

/-- A number of 16 bits is read with the blanks around it. -/
theorem readInt16_eq_ok_iff (t : List Char) (n : Int) :
    Json.readWhole Json.readInt16 (encode t) = .ok n ↔
      Document Integer t n ∧ -2 ^ 15 ≤ n ∧ n < 2 ^ 15 := by
  refine ((Json.accepts_readInteger .int16 (by norm_num) (by norm_num)).readWhole_eq_ok_iff
    t n).trans ?_
  constructor
  · rintro ⟨a, w, b, ha, ⟨hw, hlow, hhigh⟩, hb, ht⟩
    exact ⟨⟨a, w, b, ha, hw, hb, ht⟩, by omega, by omega⟩
  · rintro ⟨⟨a, w, b, ha, hw, hb, ht⟩, hlow, hhigh⟩
    exact ⟨a, w, b, ha, ⟨hw, by omega, by omega⟩, hb, ht⟩

/-- A number of 16 bits that is no code is refused by itself. -/
theorem readCode_of_unknown (noun : String) {t : List Char} {n : Int} (ht : Document Integer t n)
    (hrange : -2 ^ 15 ≤ n ∧ n < 2 ^ 15) (hn : ∀ x : α, Vocabulary.code x ≠ n) :
    (readCode noun (encode t) : Except CodeError α) = .error (.unknown ⟨noun, n⟩) := by
  obtain ⟨rest, hread, -⟩ := Json.readWhole_eq_ok.1 ((readInt16_eq_ok_iff t n).2 ⟨ht, hrange⟩)
  rw [readCode, hread]
  dsimp only
  rw [ofCode_eq_error hn]

/-- A number of more bits is refused, and not for a code that it would be in 16 bits. -/
theorem readCode_of_not_int16 (noun : String) {t : List Char} {n : Int}
    (ht : Document Integer t n) (hrange : ¬ (-2 ^ 15 ≤ n ∧ n < 2 ^ 15)) :
    ∃ f, (readCode noun (encode t) : Except CodeError α) = .error (.malformed f) := by
  obtain ⟨a, w, b, ha, hw, hb, rfl⟩ := ht
  have hstop := Json.stops_blanks_append hb Json.stops_nil
  rw [List.append_nil] at hstop
  have hbounds : ¬ ((-0x8000 : Int) ≤ n ∧ n ≤ 0x7FFF) := by omega
  obtain ⟨f, hf⟩ := Json.readInteger_append_of_not .int16 ha hw hstop hbounds
  refine ⟨f, ?_⟩
  have hread : Json.readInt16 (encode (a ++ w ++ b)) = .error f := by
    rw [Text.Utf8.encode_append, Text.Utf8.encode_append, List.append_assoc]
    exact hf
  rw [readCode, hread]

/-- A member is read where the digits of its code stand between blanks. -/
theorem readCode_encode_eq_ok_iff {noun : String} {x : α}
    (hx : 0 < Vocabulary.code x ∧ Vocabulary.code x < 2 ^ 15) (t : List Char) :
    readCode noun (encode t) = .ok x ↔
      ∃ a b, Blanks a ∧ Blanks b ∧ t = a ++ Nat.toDigits 10 (Vocabulary.code x).toNat ++ b := by
  have hcode : ((Vocabulary.code x).toNat : Int) = Vocabulary.code x := by omega
  rw [readCode_eq_ok_iff, readInt16_eq_ok_iff, ← hcode]
  constructor
  · rintro ⟨⟨a, w, b, ha, hw, hb, ht⟩, -⟩
    rw [Json.integer_natCast_iff.1 hw] at ht
    exact ⟨a, b, ha, hb, ht⟩
  · rintro ⟨a, b, ha, hb, ht⟩
    exact ⟨⟨a, _, b, ha, Json.integer_natCast_iff.2 rfl, hb, ht⟩, by omega, by omega⟩

/-- A member is written as the digits of its code. -/
theorem toList_codeText {x : α} (hx : 0 < Vocabulary.code x) :
    (codeText x).toList = Nat.toDigits 10 (Vocabulary.code x).toNat := by
  have habs : (Vocabulary.code x).natAbs = (Vocabulary.code x).toNat := by omega
  rw [codeText, Json.render, String.toList_ofList, Json.chars, Text.toList_ofInt,
    if_neg (by omega), habs]
  rfl

end Members

/-! ## Members, numbers and texts -/

/-- Members, their codes and the texts of these stand for each other.  The members are called
`noun`s where a number is none of their codes. -/
structure Faithful (α : Type) [Vocabulary α] (noun : String) : Prop where
  /-- A code is a number of 16 bits. -/
  code_range : ∀ x : α, 0 < Vocabulary.code x ∧ Vocabulary.code x < 2 ^ 15
  looks_up : ∀ (n : Int) (x : α), Vocabulary.ofCode? n = some x ↔ Vocabulary.code x = n
  takes : ∀ (n : Int) (x : α), ofCode noun n = .ok x ↔ Vocabulary.code x = n
  refuses : ∀ n : Int, (∀ x : α, Vocabulary.code x ≠ n) →
    (ofCode noun n : Except UnknownCode α) = .error ⟨noun, n⟩
  /-- A text is read as a member if it is the digits of its code between blanks. -/
  reads : ∀ (t : String) (x : α), readCode noun (encode t.toList) = .ok x ↔
    ∃ a b, Blanks a ∧ Blanks b ∧
      t.toList = a ++ Nat.toDigits 10 (Vocabulary.code x).toNat ++ b
  writes : ∀ x : α, (codeText x).toList = Nat.toDigits 10 (Vocabulary.code x).toNat ∧
    readCode noun (encode (codeText x).toList) = .ok x
  names_unknown : ∀ (t : String) (n : Int), Document Integer t.toList n → -2 ^ 15 ≤ n → n < 2 ^ 15 →
    (∀ x : α, Vocabulary.code x ≠ n) →
    ∃ e, (readCode noun (encode t.toList) : Except CodeError α) = .error e ∧
      e.message (encode t.toList) = "unknown audit " ++ noun ++ " type: " ++ Text.ofInt n
  /-- A number of more bits is not cut down to 16. -/
  refuses_larger : ∀ (t : String) (n : Int), Document Integer t.toList n →
    ¬ (-2 ^ 15 ≤ n ∧ n < 2 ^ 15) →
    ∃ f, (readCode noun (encode t.toList) : Except CodeError α) = .error (.malformed f)

/-- Positive codes of 16 bits make members, numbers and texts stand for each other. -/
theorem faithful_of_code_range {α : Type} [Vocabulary α]
    (h : ∀ x : α, 0 < Vocabulary.code x ∧ Vocabulary.code x < 2 ^ 15) (noun : String) :
    Faithful α noun where
  code_range := h
  looks_up n x := Vocabulary.ofCode?_eq_some_iff
  takes n x := ofCode_eq_ok_iff
  refuses n hn := ofCode_eq_error hn
  reads t x := readCode_encode_eq_ok_iff (h x) t.toList
  writes x := by
    refine ⟨toList_codeText (h x).1, (readCode_encode_eq_ok_iff (h x) _).2 ⟨[], [], ?_⟩⟩
    refine ⟨Json.blanks_nil, Json.blanks_nil, ?_⟩
    rw [toList_codeText (h x).1, List.nil_append, List.append_nil]
  names_unknown t n ht hlow hhigh hn := ⟨_, readCode_of_unknown noun ht ⟨hlow, hhigh⟩ hn, rfl⟩
  refuses_larger t n ht hrange := readCode_of_not_int16 noun ht hrange

/-- **Actions and resources are faithful to their codes.**  A number is looked up as the member that
carries it, a text is read as a member exactly if it is the digits of its code, and every other
integer is refused, within 16 bits by its name and beyond them for its size. -/
theorem codes_faithful : Faithful Action "action" ∧ Faithful Resource "resource" := by
  have hactions : ∀ x ∈ (Vocabulary.all : List Action),
      0 < Vocabulary.code x ∧ Vocabulary.code x < 2 ^ 15 := by
    decide
  have hresources : ∀ x ∈ (Vocabulary.all : List Resource),
      0 < Vocabulary.code x ∧ Vocabulary.code x < 2 ^ 15 := by
    decide
  exact ⟨faithful_of_code_range (fun x => hactions x (Vocabulary.mem_all x)) "action",
    faithful_of_code_range (fun x => hresources x (Vocabulary.mem_all x)) "resource"⟩

/-- Ten is the code of an action; ten more than 16 bits hold is refused for its size, and fourteen,
between two codes, by its name. -/
theorem codes_faithful_ten :
    readCode "action" (encode " 10\n".toList) = .ok Action.panelCreate ∧
      (∃ f, (readCode "action" (encode "65546".toList) : Except CodeError Action) =
        .error (.malformed f)) ∧
      ∃ e, (readCode "action" (encode "14".toList) : Except CodeError Action) = .error e ∧
        e.message (encode "14".toList) = "unknown audit action type: 14" := by
  have hinteger : ∀ n : Nat, Document Integer (Nat.toDigits 10 n) n := fun n =>
    ⟨[], _, [], Json.blanks_nil, Json.integer_natCast_iff.2 rfl, Json.blanks_nil, by simp⟩
  have hgap : ∀ x : Action, Vocabulary.code x ≠ 14 := by
    intro x
    cases x <;> decide
  refine ⟨(codes_faithful.1.reads _ _).2 ⟨[' '], ['\n'],
      List.forall_mem_singleton.2 rfl, List.forall_mem_singleton.2 rfl, by decide⟩,
    codes_faithful.1.refuses_larger "65546" 65546 (hinteger 65546) (by norm_num), ?_⟩
  obtain ⟨e, he, hmessage⟩ :=
    codes_faithful.1.names_unknown "14" 14 (hinteger 14) (by norm_num) (by norm_num) hgap
  exact ⟨e, he, hmessage⟩

end Wire

end AuditLabels

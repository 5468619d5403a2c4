import AuditLabels.Proofs.Json.Members

/-!
# Misfits

A value of another kind, or an integer that is too large, may stand where an integer of 64 bits is
asked for.  It is refused as such, whatever follows it, and in a list the fault is placed in the
first element of this kind.
-/

namespace AuditLabels.Json

open Text.Utf8

/-! ## Values that are no integers -/

/-- What follows a word does not carry it on as a numeral: it begins neither with a digit nor with
another character with which a numeral goes on behind the word. -/
def Apart (w : List Char) (rest : List UInt8) : Prop :=
  Numeral w → ∀ b ∈ rest.head?, isDigit b = false ∧ ∀ c v, IsByte c b → ¬ Numeral (w ++ c :: v)

/-- A value that is no integer of 64 bits.  Numbers that are refused for their size whatever is
asked for, and strings that cannot be decoded, are left out. -/
structure Misfit (w : List Char) : Prop where
  value : Value w
  not_integer : ∀ n, ¬ Integer64 w n
  in_range : ∀ f, readHead (encode w) = .error f → f.cause ≠ .numberOutOfRange
  decodable : ∀ n, w = '"' :: (n ++ ['"']) → ∃ m, Spells n m

/-- What stands apart from a numeral carries on none of its parts. -/
theorem Apart.stopsBehind {m w f e : List Char} (hm : m = [] ∨ m = ['-']) (hw : Whole w)
    (hf : Fraction f) (he : Exponent e) {rest : List UInt8} (hr : Apart (m ++ w ++ f ++ e) rest) :
    StopsBehind f e rest := by
  have hzero : Digits ['0'] := ⟨List.cons_ne_nil _ _, List.forall_mem_singleton.2 rfl⟩
  have hne : ∀ {c : Char} {v : List Char} {d : UInt8}, IsByte c d →
      Numeral (m ++ w ++ f ++ e ++ c :: v) → ∀ b ∈ rest.head?, b ≠ d := by
    rintro c v d hc hnumeral b hb rfl
    exact (hr (.intro hm hw hf he) b hb).2 c v hc hnumeral
  refine ⟨fun b hb => (hr (.intro hm hw hf he) b hb).1, ?_, ?_⟩
  · rintro rfl b hb
    rw [List.append_nil] at hne
    exact ⟨hne (by decide) (.intro hm hw hf (.digits (.inl rfl) (.inl rfl) hzero)) b hb,
      hne (by decide) (.intro hm hw hf (.digits (.inr rfl) (.inl rfl) hzero)) b hb⟩
  · rintro rfl rfl b hb
    refine hne (c := '.') (v := ['0']) (by decide) ?_ b hb
    have hnumeral := Numeral.intro hm hw (.digits hzero) .none
    simpa only [List.append_nil] using hnumeral

/-- What carries no numeral on stands apart from every word: a longer numeral would be read past as
well, and only one of the two is. -/
theorem Stops.apart {rest : List UInt8} (h : Stops rest) (w : List Char) : Apart w rest := by
  intro hw b hb
  have hb := h b hb
  refine ⟨?_, fun c v hc hlonger => ?_⟩
  · simp only [carriesOn, Bool.or_eq_false_iff] at hb
    exact hb.1.1.1
  · have hstop : Stops (encode (c :: v)) := by
      rw [encode_cons_of_isByte hc]
      exact stops_cons hb _
    have hshort := skipValue_append blanks_nil (.scalar (.numeral hw)) hstop
    have hlong := skipValue_append blanks_nil (.scalar (.numeral hlonger)) stops_nil
    rw [List.append_nil, encode_append, hshort] at hlong
    exact absurd (eq_nil_of_encode_eq_nil (Except.ok.inj hlong)) (List.cons_ne_nil _ _)

/-! ## Heads of values -/

/-- The head of a scalar is read, and it is the same whatever follows. -/
theorem readHead_scalar {w : List Char} (hw : Scalar w)
    (hrange : ∀ f, readHead (encode w) = .error f → f.cause ≠ .numberOutOfRange)
    (hdecodable : ∀ n, w = '"' :: (n ++ ['"']) → ∃ m, Spells n m) {rest : List UInt8}
    (hr : Apart w rest) :
    ∃ h, readHead (encode w) = .ok (h, []) ∧ readHead (encode w ++ rest) = .ok (h, rest) := by
  have hfront : ∀ {c : Char} {b : UInt8} {u : List Char} {h : Head}, IsByte c b →
      isBlank c = false → (∀ r, readHeadFrom b (encode u ++ r) = .ok (h, r)) →
      ∃ h, readHead (encode (c :: u)) = .ok (h, []) ∧
        readHead (encode (c :: u) ++ rest) = .ok (h, rest) := by
    intro c b u h hbyte hblank hread
    have hany : ∀ r, readHead (encode (c :: u) ++ r) = .ok (h, r) := by
      intro r
      rw [encode_cons_of_isByte hbyte, List.cons_append]
      exact (readHead_blanks_cons blanks_nil hbyte hblank _).trans (hread r)
    have hnil := hany []
    rw [List.append_nil] at hnil
    exact ⟨h, hnil, hany rest⟩
  cases hw with
  | nullWord =>
    refine hfront (c := 'n') (b := 0x6E) (h := .null) (by decide) rfl fun r => ?_
    rw [readHeadFrom, if_pos rfl]
    exact map_eq_ok.2 ⟨r, readWord_eq_ok.2 rfl, rfl⟩
  | trueWord =>
    refine hfront (c := 't') (b := 0x74) (h := .boolean true) (by decide) rfl fun r => ?_
    rw [readHeadFrom, if_neg (by decide), if_pos rfl]
    exact map_eq_ok.2 ⟨r, readWord_eq_ok.2 rfl, rfl⟩
  | falseWord =>
    refine hfront (c := 'f') (b := 0x66) (h := .boolean false) (by decide) rfl fun r => ?_
    rw [readHeadFrom, if_neg (by decide), if_neg (by decide), if_pos rfl]
    exact map_eq_ok.2 ⟨r, readWord_eq_ok.2 rfl, rfl⟩
  | @text n _ =>
    obtain ⟨m, hm⟩ := hdecodable n rfl
    rw [← String.toList_ofList (l := m)] at hm
    refine hfront (c := '"') (b := 0x22) (h := .text (String.ofList m)) (by decide) rfl
      fun r => ?_
    rw [readHeadFrom, if_neg (by decide), if_neg (by decide), if_neg (by decide),
      if_neg (by decide), if_neg (by decide), if_pos rfl, encode_append,
      encode_cons_of_isByte (b := 0x22) (by decide), encode_nil, List.append_assoc,
      List.singleton_append, readText_append hm]
    rfl
  | numeral hw =>
    obtain @⟨m, w, f, e, hm, hw, hf, he⟩ := hw
    obtain ⟨negative, t, -, -, hread⟩ := readHead_numeral hm hw hf he
    have hhead := hread [] rest blanks_nil (hr.stopsBehind hm hw hf he)
    have hnil := hread [] [] blanks_nil (stops_nil.behind f e)
    rw [encode_nil, List.nil_append] at hhead hnil
    rw [List.append_nil] at hnil
    rw [hhead, hnil]
    rcases value_cases negative t [] rest with ⟨x, hx, hx'⟩ | ⟨f, hf, hcause⟩
    · rw [hx, hx']
      exact ⟨_, rfl, rfl⟩
    · rw [hf] at hnil
      exact absurd hcause (hrange f hnil)

/-- The head alone decides whether an integer is read or refused. -/
theorem readInt64_of_readHead {h : Head} {bytes bytes' r r' : List UInt8}
    (hh : readHead bytes = .ok (h, r)) (hh' : readHead bytes' = .ok (h, r')) :
    (∃ n, readInt64 bytes = .ok (n, r)) ∨
      ∃ cause : Cause, readInt64 bytes' = .error (.here cause r') ∧ cause.isData = true := by
  have hinteger : ∀ n : Int, -0x8000000000000000 ≤ n ∧ n ≤ 0x7FFFFFFFFFFFFFFF ∨
      ¬ (-0x8000000000000000 ≤ n ∧ n ≤ 0x7FFFFFFFFFFFFFFF) := fun n => Classical.em _
  unfold readInt64 readInteger
  rw [hh, hh']
  cases h with
  | number x =>
    cases x with
    | natural n =>
      rcases hinteger n with h | h
      · exact .inl ⟨n, if_pos h⟩
      · exact .inr ⟨_, if_neg h, rfl⟩
    | negative n =>
      rcases hinteger n with h | h
      · exact .inl ⟨n, if_pos h⟩
      · exact .inr ⟨_, if_neg h, rfl⟩
    | float minus x => exact .inr ⟨_, rfl, rfl⟩
  | _ => exact .inr ⟨_, rfl, rfl⟩

/-- A list and a map are refused for their opening bracket. -/
theorem readInt64_opening (k : Bracket) (rest : List UInt8) :
    ∃ cause : Cause, readInt64 (k.opening :: rest) = .error (.here cause (k.opening :: rest)) ∧
      cause.isData = true := by
  have hhead := readHead_opening blanks_nil k rest
  rw [encode_nil, List.nil_append] at hhead
  unfold readInt64 readInteger
  rw [hhead]
  cases k <;> exact ⟨_, rfl, rfl⟩

/-- **A misfit is refused for what it is,** whatever follows it. -/
theorem readInt64_misfit {w : List Char} (hw : Misfit w) {rest : List UInt8}
    (hr : Apart w rest) :
    ∃ cause r, readInt64 (encode w ++ rest) = .error (.here cause r) ∧ cause.isData = true := by
  obtain ⟨hvalue, hinteger, hrange, hdecodable⟩ := hw
  have hbracket : ∀ (k : Bracket) (v : List Char), ∃ cause r,
      readInt64 (encode (k.opener :: (v ++ [k.closer])) ++ rest) = .error (.here cause r) ∧
        cause.isData = true := by
    intro k v
    rw [encode_bracket]
    obtain ⟨cause, hcause, hdata⟩ := readInt64_opening k (encode v ++ k.closing :: rest)
    exact ⟨cause, _, hcause, hdata⟩
  cases hvalue with
  | scalar hscalar =>
    obtain ⟨h, hnil, hhead⟩ := readHead_scalar hscalar hrange hdecodable hr
    rcases readInt64_of_readHead hnil hhead with ⟨n, hn⟩ | ⟨cause, hcause, hdata⟩
    -- what is read of the word alone is the whole word
    · obtain ⟨a, u, v, ha, hu, hcs, hv⟩ := accepts_readInt64.sound hn
      obtain rfl := eq_nil_of_encode_eq_nil hv.symm
      obtain ⟨c, b, x, rfl, -, hc, -⟩ := hscalar.front
      cases a with
      | nil =>
        rw [List.nil_append, List.append_nil] at hcs
        exact absurd (hcs ▸ hu) (hinteger n)
      | cons d a =>
        have hblank := ha d List.mem_cons_self
        rw [← (List.cons.inj hcs).1, hc.not_blank] at hblank
        cases hblank
    · exact ⟨cause, rest, hcause, hdata⟩
  | @empty k v _ => exact hbracket k v
  | @bracket k v _ => exact hbracket k v

/-! ## The first fault of a list -/

section Lists

variable {α : Type} {read : Reader α} {P : List Char → α → Prop}

/-- What follows a word that stands before another one does not carry a numeral on. -/
theorem stops_of_leading {v : List Char} {xs : List α} (hv : Leading P false v xs)
    (rest : List UInt8) : Stops (encode v ++ rest) := by
  have hbefore : ∀ {l : List Char} (r : List UInt8), Before false l → Stops (encode l ++ r) := by
    intro l r hl
    cases hl with
    | later ha hb =>
      rw [encode_append, encode_cons_of_isByte (b := 0x2C) (by decide), List.append_assoc]
      exact stops_blanks_append ha (stops_cons (by decide) _)
  cases hv with
  | nil hl => exact hbefore rest hl
  | cons hl =>
    rw [encode_append, List.append_assoc]
    exact hbefore _ hl

/-- **The first word that is refused is blamed.**  The fault is placed in the element behind as many
as were read. -/
theorem readElements_leading (hread : Accepts read P) {first : Bool} {l : List Char} {xs : List α}
    (hl : Leading P first l xs) {c : Char} (hc : Opens c) {u : List Char} {rest : List UInt8}
    {f : Fault} (hf : read (encode (c :: u) ++ rest) = .error f) {clock : List UInt8}
    {acc : List α} (hfirst : acc.isEmpty = first)
    (hclock : (encode l ++ (encode (c :: u) ++ rest)).length ≤ clock.length) :
    readElements read clock acc (encode l ++ (encode (c :: u) ++ rest)) =
      .error (f.within (.index (acc.length + xs.length))) := by
  have hpos : ∀ {d : Char} {v : List Char}, Opens d → 0 < (encode (d :: v)).length := by
    intro d v hd
    rw [encode_cons_of_isByte ⟨hd.ascii, rfl⟩]
    exact Nat.succ_pos _
  induction hl generalizing clock acc with
  | nil hl =>
    have hpos := hpos (v := u) hc
    rw [List.length_append, List.length_append] at hclock
    cases clock with
    | nil =>
      rw [List.length_nil] at hclock
      omega
    | cons t clock =>
      rw [readElements, hfirst, nextElement_append hl hc]
      dsimp only
      rw [hf]
      rfl
  | @cons first l w v x xs hl hw hv ih =>
    obtain ⟨d, z, rfl, hd⟩ := hread.opens hw
    have hstart := nextElement_append hl hd z (encode v ++ (encode (c :: u) ++ rest))
    have hone := hread.complete blanks_nil hw (stops_of_leading hv (encode (c :: u) ++ rest))
    rw [encode_nil, List.nil_append] at hone
    have hpos := hpos (v := z) hd
    simp only [encode_append, List.append_assoc, List.length_append] at hclock ⊢
    cases clock with
    | nil =>
      rw [List.length_nil] at hclock
      omega
    | cons t clock =>
      rw [readElements, hfirst, hstart]
      dsimp only
      rw [hone]
      dsimp only
      rw [ih rfl ?_, List.length_cons, List.length_cons, Nat.add_right_comm, Nat.add_assoc]
      simp only [List.length_append, List.length_cons] at hclock ⊢
      omega

/-- A list is refused for the first of its elements that is. -/
theorem readList_leading (hread : Accepts read P) {a l : List Char} {xs : List α} (ha : Blanks a)
    (hl : Leading P true l xs) {c : Char} (hc : Opens c) {u : List Char} {rest : List UInt8}
    {f : Fault} (hf : read (encode (c :: u) ++ rest) = .error f) :
    readList read (encode a ++ 0x5B :: (encode l ++ (encode (c :: u) ++ rest))) =
      .error (f.within (.index xs.length)) := by
  refine bind_eq_error.2 (.inr ⟨_, readHead_opening ha .list _, ?_⟩)
  refine (readElements_leading hread hl hc hf rfl (Nat.le_refl _)).trans ?_
  rw [List.length_nil, Nat.zero_add]

end Lists

end AuditLabels.Json

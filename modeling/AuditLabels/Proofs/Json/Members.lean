import AuditLabels.Json.Members
import AuditLabels.Proofs.Json.Sequence
import AuditLabels.Proofs.Json.Skip

/-!
# Members are read as written

The names of a map, what stands between its members, and a value behind its name.
-/

namespace AuditLabels.Json

open Text.Utf8

/-! ## Between members -/

theorem end_of_nextName {first : Bool} {cs : List Char}
    (h : nextName first (encode cs) = .ok none) :
    ∃ a v, Blanks a ∧ cs = a ++ '}' :: v ∧ passMapEnd (encode cs) = encode v := by
  unfold nextName at h
  split at h
  · cases h
  · next b r hs =>
    split at h
    · next hb =>
      obtain ⟨a, v, ha, hcs, hr⟩ := front_of_skipSpace (c := '}') (by rw [hb]; decide) hs
      refine ⟨a, v, ha, hcs, ?_⟩
      rw [passMapEnd, hs]
      dsimp only
      rw [if_pos hb, hr]
    split at h
    · split at h <;> cases h
    split at h
    · split at h
      · cases h
      · split at h
        · cases h
        · split at h <;> cases h
    · cases h

theorem before_of_nextName {first : Bool} {cs : List Char} {start : List UInt8}
    (h : nextName first (encode cs) = .ok (some start)) :
    ∃ l v, Before first l ∧ cs = l ++ '"' :: v ∧ start = encode v := by
  unfold nextName at h
  split at h
  · cases h
  · next b r hs =>
    split at h
    · cases h
    split at h
    · next hfirst =>
      split at h
      · next hb =>
        obtain rfl := Option.some.inj (Except.ok.inj h)
        obtain ⟨a, v, ha, rfl, rfl⟩ := front_of_skipSpace (c := '"') (by rw [hb]; decide) hs
        rw [hfirst]
        exact ⟨a, v, .first ha, rfl, rfl⟩
      · cases h
    · next hfirst =>
      split at h
      · next hb =>
        obtain ⟨a, u, ha, rfl, rfl⟩ := front_of_skipSpace (c := ',') (by rw [hb]; decide) hs
        split at h
        · cases h
        · next hs' =>
          split at h
          · next hc =>
            obtain rfl := Option.some.inj (Except.ok.inj h)
            obtain ⟨b, v, hb, rfl, rfl⟩ := front_of_skipSpace (c := '"') (by rw [hc]; decide) hs'
            rw [Bool.eq_false_iff.2 hfirst]
            refine ⟨_, v, .later ha hb, ?_, rfl⟩
            rw [List.append_assoc, List.cons_append]
          · split at h <;> cases h
      · cases h

theorem nextName_end {a : List Char} (ha : Blanks a) (first : Bool) (rest : List UInt8) :
    nextName first (encode a ++ 0x7D :: rest) = .ok none ∧
      passMapEnd (encode a ++ 0x7D :: rest) = rest := by
  rw [nextName, passMapEnd, skipSpace_blanks_cons (c := '}') ha (by decide) (by decide)]
  exact ⟨rfl, rfl⟩

theorem nextName_append {first : Bool} {l : List Char} (hl : Before first l)
    (rest : List UInt8) : nextName first (encode l ++ 0x22 :: rest) = .ok (some rest) := by
  cases hl with
  | first ha =>
    rw [nextName, skipSpace_blanks_cons (c := '"') ha (by decide) (by decide)]
    rfl
  | later ha hb =>
    rw [encode_append, encode_cons_of_isByte (b := 0x2C) (by decide), List.append_assoc,
      List.cons_append, nextName, skipSpace_blanks_cons (c := ',') ha (by decide) (by decide)]
    dsimp only
    rw [if_neg (by decide), if_neg Bool.false_ne_true, if_pos rfl,
      skipSpace_blanks_cons (c := '"') hb (by decide) (by decide)]
    rfl

/-! ## Values behind names -/

theorem readMember_eq_ok {α : Type} {read : Reader α} {name : String} {bytes rest : List UInt8}
    {x : α} : readMember read name bytes = .ok (x, rest) ↔
      ∃ r, skipColon bytes = .ok r ∧ read r = .ok (x, rest) := by
  rw [readMember, bind_eq_ok]
  refine exists_congr fun r => and_congr_right fun _ => ?_
  cases hr : read r with
  | error f =>
    dsimp only
    constructor
    · intro h
      cases h
    · intro h
      cases h
  | ok y => exact Iff.rfl

section Values

variable {α : Type} {read : Reader α} {P : List Char → α → Prop}

theorem value_of_readMember (hread : Accepts read P) {name : String} {cs : List Char} {x : α}
    {rest : List UInt8} (h : readMember read name (encode cs) = .ok (x, rest)) :
    ∃ b c w v, Blanks b ∧ Blanks c ∧ P w x ∧ cs = b ++ ':' :: (c ++ (w ++ v)) ∧
      rest = encode v := by
  obtain ⟨r, hcolon, hr⟩ := readMember_eq_ok.1 h
  obtain ⟨b, u, hb, rfl, rfl⟩ := colon_of_skipColon hcolon
  obtain ⟨c, w, v, hc, hw, rfl, rfl⟩ := hread.sound hr
  exact ⟨b, c, w, v, hb, hc, hw, rfl, rfl⟩

theorem readMember_append (hread : Accepts read P) (name : String) {b c w : List Char} {x : α}
    (hb : Blanks b) (hc : Blanks c) (hw : P w x) {rest : List UInt8} (hr : Stops rest) :
    readMember read name (encode b ++ 0x3A :: (encode c ++ (encode w ++ rest))) = .ok (x, rest) :=
  readMember_eq_ok.2 ⟨_, skipColon_append hb _, hread.complete hc hw hr⟩

/-- Values that nobody asks for are read past exactly where they are written. -/
theorem accepts_skipValue :
    Accepts (fun bytes => (skipValue bytes).map fun r => ((), r)) fun w _ => Value w where
  sound := by
    intro cs x rest h
    obtain ⟨r, hr, he⟩ := map_eq_ok.1 h
    obtain ⟨-, rfl⟩ := Prod.mk.inj he
    exact value_of_skipValue hr
  complete := by
    intro a w x rest ha hw hr
    rw [skipValue_append ha hw hr]
    rfl
  opens hw := hw.front

end Values

end AuditLabels.Json

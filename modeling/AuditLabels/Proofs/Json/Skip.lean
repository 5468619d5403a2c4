import AuditLabels.Proofs.Json.Numeral
import AuditLabels.Proofs.Json.Text

/-!
# Values are skipped as written

Skipping takes exactly the values off the front of a text, however deep they are nested.
-/

namespace AuditLabels.Json

open Text.Utf8

/-! ## Words -/

theorem readWord_eq_ok {ws bytes rest : List UInt8} :
    readWord ws bytes = .ok rest ↔ bytes = ws ++ rest := by
  induction ws generalizing bytes with
  | nil =>
    rw [readWord, List.nil_append]
    exact ⟨fun h => Except.ok.inj h, fun h => congrArg Except.ok h⟩
  | cons w ws ih =>
    cases bytes with
    | nil =>
      constructor
      · intro h
        cases h
      · intro h
        cases h
    | cons b bytes =>
      rw [readWord, List.cons_append]
      split
      · next hb => rw [hb, List.cons.injEq, ih, and_iff_right rfl]
      · next hb =>
        constructor
        · intro h
          cases h
        · intro h
          exact absurd (List.cons.inj h).1 hb

/-! ## Scalars -/

/-- **What is taken as a scalar is one.**  The branches are those of the reader. -/
theorem scalar_of_skipScalar {b : UInt8} {r rest : List UInt8} {cs : List Char}
    (hcs : encode cs = b :: r) (h : skipScalar b r = .ok rest) :
    ∃ w v, Scalar w ∧ cs = w ++ v ∧ rest = encode v := by
  -- a word of letters, of which the first one has been seen
  have hword : ∀ {c : Char} {w : List Char}, IsByte c b → (w.all fun d => d.toNat < 0x80) = true →
      readWord (encode w) r = .ok rest → ∃ v, cs = c :: (w ++ v) ∧ rest = encode v := by
    intro c w hc hw hread
    have hascii : ∀ d ∈ w, d.toNat < 0x80 :=
      fun d hd => of_decide_eq_true (List.all_eq_true.1 hw d hd)
    obtain ⟨u, rfl, rfl⟩ := front_of_isByte hc hcs
    obtain ⟨v, rfl, rfl⟩ := front_of_encode_append hascii (readWord_eq_ok.1 hread)
    exact ⟨v, rfl, rfl⟩
  unfold skipScalar at h
  split at h
  · next hb =>
    obtain ⟨v, rfl, rfl⟩ := hword (c := 'n') (w := ['u', 'l', 'l']) (by rw [hb]; decide) rfl h
    exact ⟨_, v, .nullWord, rfl, rfl⟩
  split at h
  · next hb =>
    obtain ⟨v, rfl, rfl⟩ := hword (c := 't') (w := ['r', 'u', 'e']) (by rw [hb]; decide) rfl h
    exact ⟨_, v, .trueWord, rfl, rfl⟩
  split at h
  · next hb =>
    obtain ⟨v, rfl, rfl⟩ :=
      hword (c := 'f') (w := ['a', 'l', 's', 'e']) (by rw [hb]; decide) rfl h
    exact ⟨_, v, .falseWord, rfl, rfl⟩
  split at h
  · next hb =>
    obtain ⟨u, rfl, rfl⟩ := front_of_isByte (c := '-') (by rw [hb]; decide) hcs
    obtain ⟨⟨t, r⟩, hscan, rfl⟩ := map_eq_ok.1 h
    obtain ⟨w, f, e, v, hw, hf, he, rfl, rfl, -⟩ := numeral_of_scanNumber hscan
    refine ⟨_, v, .numeral (.intro (.inr rfl) hw hf he), ?_, rfl⟩
    rw [List.append_assoc, List.append_assoc, List.append_assoc, List.singleton_append]
  split at h
  · rw [← hcs] at h
    obtain ⟨⟨t, r⟩, hscan, rfl⟩ := map_eq_ok.1 h
    obtain ⟨w, f, e, v, hw, hf, he, rfl, rfl, -⟩ := numeral_of_scanNumber hscan
    refine ⟨_, v, .numeral (.intro (.inl rfl) hw hf he), ?_, rfl⟩
    rw [List.append_assoc, List.append_assoc, List.append_assoc, List.nil_append]
  split at h
  · next hb =>
    obtain ⟨u, rfl, rfl⟩ := front_of_isByte (c := '"') (by rw [hb]; decide) hcs
    obtain ⟨w, v, hw, rfl, rfl⟩ := inside_of_skipText h
    refine ⟨_, v, .text hw, ?_, rfl⟩
    rw [List.cons_append, List.append_assoc, List.singleton_append]
  · cases h

theorem skipScalar_of_isDigit {b : UInt8} (hb : isDigit b = true) (rest : List UInt8) :
    skipScalar b rest = (scanNumber .invalidNumber (b :: rest)).map Prod.snd := by
  rw [skipScalar, if_neg (ne_of_isDigit hb rfl), if_neg (ne_of_isDigit hb rfl),
    if_neg (ne_of_isDigit hb rfl), if_neg (ne_of_isDigit hb rfl), if_pos hb]

/-- **Every scalar is taken.**  Its first character tells what to take. -/
theorem Scalar.front {w : List Char} (hw : Scalar w) :
    ∃ c b v, w = c :: v ∧ IsByte c b ∧ Opens c ∧ b ≠ 0x5B ∧ b ≠ 0x7B ∧
      ∀ rest, Stops rest → skipScalar b (encode v ++ rest) = .ok rest := by
  cases hw with
  | nullWord =>
    refine ⟨'n', 0x6E, ['u', 'l', 'l'], rfl, by decide, ⟨by decide, rfl, by decide, by decide⟩,
      by decide, by decide, fun rest _ => ?_⟩
    rw [skipScalar, if_pos rfl]
    exact readWord_eq_ok.2 rfl
  | trueWord =>
    refine ⟨'t', 0x74, ['r', 'u', 'e'], rfl, by decide, ⟨by decide, rfl, by decide, by decide⟩,
      by decide, by decide, fun rest _ => ?_⟩
    rw [skipScalar, if_neg (by decide), if_pos rfl]
    exact readWord_eq_ok.2 rfl
  | falseWord =>
    refine ⟨'f', 0x66, ['a', 'l', 's', 'e'], rfl, by decide, ⟨by decide, rfl, by decide, by decide⟩,
      by decide, by decide, fun rest _ => ?_⟩
    rw [skipScalar, if_neg (by decide), if_neg (by decide), if_pos rfl]
    exact readWord_eq_ok.2 rfl
  | text hw =>
    refine ⟨'"', 0x22, _, rfl, by decide, ⟨by decide, rfl, by decide, by decide⟩, by decide,
      by decide, fun rest _ => ?_⟩
    rw [encode_append, encode_cons_of_isByte (b := 0x22) (by decide), encode_nil, List.append_assoc,
      List.cons_append, List.nil_append]
    exact skipText_append hw rest
  | numeral hw =>
    obtain @⟨m, w, f, e, hm, hw, hf, he⟩ := hw
    have hscan : ∀ rest, Stops rest → (scanNumber .invalidNumber
        (encode (w ++ f ++ e) ++ rest)).map Prod.snd = .ok rest := by
      intro rest hr
      obtain ⟨t, -, ht⟩ := scanNumber_append .invalidNumber hw hf he
      rw [encode_append, encode_append, List.append_assoc, List.append_assoc,
        ht rest (hr.behind f e)]
      rfl
    rcases hm with rfl | rfl
    · obtain ⟨c, v, rfl, hc, hbyte, hd⟩ := hw.digits.exists_cons
      refine ⟨c, _, v ++ f ++ e, rfl, hbyte, opens_of_isDigit hc, ne_of_isDigit hd rfl,
        ne_of_isDigit hd rfl, fun rest hr => ?_⟩
      have h := hscan rest hr
      rw [List.cons_append, List.cons_append, encode_cons_of_isByte hbyte, List.cons_append] at h
      rw [skipScalar_of_isDigit hd, h]
    · refine ⟨'-', 0x2D, w ++ f ++ e, rfl, by decide, ⟨by decide, rfl, by decide, by decide⟩,
        by decide, by decide, fun rest hr => ?_⟩
      exact hscan rest hr

/-! ## Heads and labels -/

/-- What was taken of a text: a whole scalar or an opening bracket, which is then on the stack.  The
last text is what is left. -/
inductive Begun (stack : List Bracket) : List Char → Bool → List Bracket → List Char → Prop
  | scalar {w v : List Char} : Scalar w → Begun stack (w ++ v) false stack v
  | bracket {k : Bracket} {v : List Char} : Begun stack (k.opener :: v) true (k :: stack) v

/-- A head that was skipped begins a value behind blanks. -/
theorem begun_of_skipHead {stack : List Bracket} {cs : List Char} {st : Rest}
    (h : skipHead stack (encode cs) = .ok st) :
    ∃ a v u, Blanks a ∧ Begun stack v st.first st.stack u ∧ cs = a ++ v ∧ st.bytes = encode u := by
  obtain ⟨a, v, ha, rfl, hv⟩ := skipSpace_encode_eq_encode cs
  rw [skipHead, hv] at h
  cases hbytes : encode v with
  | nil =>
    rw [hbytes] at h
    cases h
  | cons b r =>
    rw [hbytes] at h
    dsimp only at h
    split at h
    · next hb =>
      obtain rfl := Except.ok.inj h
      obtain ⟨u, rfl, rfl⟩ := front_of_isByte (isByte_opener .list) (hb ▸ hbytes)
      exact ⟨a, _, u, ha, .bracket, rfl, rfl⟩
    split at h
    · next hb =>
      obtain rfl := Except.ok.inj h
      obtain ⟨u, rfl, rfl⟩ := front_of_isByte (isByte_opener .map) (hb ▸ hbytes)
      exact ⟨a, _, u, ha, .bracket, rfl, rfl⟩
    · obtain ⟨rest, hrest, rfl⟩ := map_eq_ok.1 h
      obtain ⟨w, u, hw, rfl, rfl⟩ := scalar_of_skipScalar hbytes hrest
      exact ⟨a, _, u, ha, .scalar hw, rfl, rfl⟩

theorem skipHead_scalar {a w : List Char} (ha : Blanks a) (hw : Scalar w) (stack : List Bracket)
    {rest : List UInt8} (hr : Stops rest) :
    skipHead stack (encode a ++ (encode w ++ rest)) = .ok ⟨false, stack, rest⟩ := by
  obtain ⟨c, b, v, rfl, hbyte, hc, hlist, hmap, hskip⟩ := hw.front
  rw [encode_cons_of_isByte hbyte, List.cons_append, skipHead,
    skipSpace_blanks_cons ha hbyte hc.not_blank]
  dsimp only
  rw [if_neg hlist, if_neg hmap, hskip rest hr]
  rfl

theorem skipHead_opening {a : List Char} (ha : Blanks a) (stack : List Bracket) (k : Bracket)
    (rest : List UInt8) :
    skipHead stack (encode a ++ k.opening :: rest) = .ok ⟨true, k :: stack, rest⟩ := by
  rw [skipHead, skipSpace_blanks_cons ha (isByte_opener k) (isBlank_opener k)]
  cases k <;> rfl

theorem colon_of_skipColon {cs : List Char} {rest : List UInt8}
    (h : skipColon (encode cs) = .ok rest) :
    ∃ a v, Blanks a ∧ cs = a ++ ':' :: v ∧ rest = encode v := by
  unfold skipColon at h
  split at h
  · cases h
  · next b r hs =>
    split at h
    · next hb =>
      obtain rfl := Except.ok.inj h
      exact front_of_skipSpace (by rw [hb]; decide) hs
    · cases h

theorem skipColon_append {a : List Char} (ha : Blanks a) (rest : List UInt8) :
    skipColon (encode a ++ 0x3A :: rest) = .ok rest := by
  rw [skipColon, skipSpace_blanks_cons (c := ':') ha (by decide) (by decide)]
  rfl

/-- Blanks behind what stands before an element belong to it. -/
theorem Label.append_blanks {k : Bracket} {l c : List Char} (hl : Label k l) (hc : Blanks c) :
    Label k (l ++ c) := by
  cases hl with
  | list ha => exact .list (ha.append hc)
  | map ha hn hb hd =>
    rw [List.append_assoc, List.cons_append, List.append_assoc, List.cons_append,
      List.append_assoc, List.cons_append]
    exact .map ha hn hb (hd.append hc)

/-- Blanks in front of what stands before an element belong to it. -/
theorem Label.blanks_append {k : Bracket} {a l : List Char} (ha : Blanks a) (hl : Label k l) :
    Label k (a ++ l) := by
  cases hl with
  | list hb => exact .list (ha.append hb)
  | map hb hn hc hd =>
    rw [← List.append_assoc]
    exact .map (ha.append hb) hn hc hd

theorem label_of_skipLabel {k : Bracket} {cs : List Char} {rest : List UInt8}
    (h : skipLabel k (encode cs) = .ok rest) :
    ∃ l v, Label k l ∧ cs = l ++ v ∧ rest = encode v := by
  cases k with
  | list =>
    obtain rfl := Except.ok.inj h
    exact ⟨[], cs, .list blanks_nil, rfl, rfl⟩
  | map =>
    rw [skipLabel, skipName] at h
    split at h
    · cases h
    · next b r hs =>
      split at h
      · next hb =>
        obtain ⟨a, u, ha, rfl, rfl⟩ := front_of_skipSpace (c := '"') (by rw [hb]; decide) hs
        obtain ⟨r, hr, hcolon⟩ := bind_eq_ok.1 h
        obtain ⟨n, u, hn, rfl, rfl⟩ := inside_of_skipText hr
        obtain ⟨b, v, hb, rfl, rfl⟩ := colon_of_skipColon hcolon
        refine ⟨_, v, .map ha hn hb blanks_nil, ?_, rfl⟩
        rw [List.append_assoc, List.cons_append, List.append_assoc, List.cons_append,
          List.append_assoc, List.cons_append, List.nil_append]
      · cases h

theorem begun_of_skipElement {k : Bracket} {stack : List Bracket} {cs : List Char} {st : Rest}
    (h : skipElement k stack (encode cs) = .ok st) :
    ∃ l v u, Label k l ∧ Begun (k :: stack) v st.first st.stack u ∧ cs = l ++ v ∧
      st.bytes = encode u := by
  obtain ⟨r, hr, hhead⟩ := bind_eq_ok.1 h
  obtain ⟨l, u, hl, rfl, rfl⟩ := label_of_skipLabel hr
  obtain ⟨a, v, z, ha, hv, rfl, hz⟩ := begun_of_skipHead hhead
  exact ⟨l ++ a, v, z, hl.append_blanks ha, hv, (List.append_assoc _ _ _).symm, hz⟩

/-- What stands before an element is taken, blanks apart. -/
theorem skipElement_label {k : Bracket} {l : List Char} (hl : Label k l) (stack : List Bracket) :
    ∃ a, Blanks a ∧ (encode a).length ≤ (encode l).length ∧ ∀ rest,
      skipElement k stack (encode l ++ rest) = skipHead (k :: stack) (encode a ++ rest) := by
  cases hl with
  | list ha => exact ⟨l, ha, Nat.le_refl _, fun rest => rfl⟩
  | @map a n b c ha hn hb hc =>
    refine ⟨c, hc, ?_, fun rest => ?_⟩
    · simp only [encode_append, encode_cons, List.length_append]
      omega
    rw [encode_append, encode_member]
    rw [List.append_assoc, List.cons_append, List.append_assoc, List.cons_append, List.append_assoc,
      List.cons_append]
    rw [skipElement, skipLabel, skipName,
      skipSpace_blanks_cons (c := '"') ha (by decide) (by decide)]
    dsimp only
    rw [if_pos rfl, skipText_append hn]
    show (skipColon (encode b ++ 0x3A :: (encode c ++ rest))).bind (skipHead (.map :: stack)) = _
    rw [skipColon_append hb]
    rfl

/-! ## What is skipped was written -/

/-- What stands between the place of a reader and the end of the innermost bracket: the elements,
unless there are none, behind a comma if there are some before them. -/
def Body : Bool → Bracket → List Char → Prop
  | true, k, x => Blanks x ∨ Items k x
  | false, k, x => Blanks x ∨ ∃ a y, Blanks a ∧ Items k y ∧ x = a ++ ',' :: y

/-- What stands between the place of a reader and the end of the outermost bracket. -/
def Closes : Bool → List Bracket → List Char → Prop
  | _, [], u => u = []
  | first, k :: stack, u =>
    ∃ x y, Body first k x ∧ Closes false stack y ∧ u = x ++ k.closer :: y

theorem value_of_body {k : Bracket} {x : List Char} (h : Body true k x) :
    Value (k.opener :: (x ++ [k.closer])) := by
  rcases h with h | h
  · exact .empty h
  · exact .bracket h

/-- An element and what follows it are elements. -/
theorem items_of_body {k : Bracket} {l w x : List Char} (hl : Label k l) (hw : Value w)
    (hx : Body false k x) : Items k (l ++ (w ++ x)) := by
  rcases hx with h | ⟨a, y, ha, hy, rfl⟩
  · exact .last hl hw h
  · exact .more hl hw ha hy

/-- An element in front of what closes the brackets is one of the elements of the innermost one. -/
theorem items_of_begun {k : Bracket} {stack stack' : List Bracket} {first : Bool}
    {l v u r : List Char} (hl : Label k l) (hv : Begun (k :: stack) v first stack' (u ++ r))
    (hu : Closes first stack' u) :
    ∃ x y, Items k x ∧ Closes false stack y ∧ l ++ v = x ++ k.closer :: (y ++ r) := by
  generalize hrest : u ++ r = rest at hv
  cases hv with
  | @scalar w _ hw =>
    obtain ⟨x, y, hx, hy, rfl⟩ := hu
    refine ⟨_, y, items_of_body hl (.scalar hw) hx, hy, ?_⟩
    simp only [← hrest, List.append_assoc, List.cons_append]
  | @bracket j _ =>
    obtain ⟨x', _, hx', ⟨x, y, hx, hy, rfl⟩, rfl⟩ := hu
    refine ⟨_, y, items_of_body hl (value_of_body hx') hx, hy, ?_⟩
    simp only [← hrest, List.append_assoc, List.cons_append, List.nil_append]

/-- **What was read past closes the brackets.**  By induction on the clock: a round takes a closing
bracket or begins an element. -/
theorem closes_of_skipOpen {clock : List UInt8} {first : Bool} {stack : List Bracket}
    {cs : List Char} {rest : List UInt8} (h : skipOpen clock first stack (encode cs) = .ok rest) :
    ∃ u v, Closes first stack u ∧ cs = u ++ v ∧ rest = encode v := by
  induction clock generalizing first stack cs with
  | nil =>
    cases stack with
    | nil =>
      obtain rfl := Except.ok.inj h
      exact ⟨[], cs, rfl, rfl, rfl⟩
    | cons k stack => cases h
  | cons t clock ih =>
    cases stack with
    | nil =>
      obtain rfl := Except.ok.inj h
      exact ⟨[], cs, rfl, rfl, rfl⟩
    | cons k stack =>
      rw [skipOpen] at h
      split at h
      · cases h
      · next b r hs =>
        split at h
        · next hb =>
          obtain ⟨a, u, ha, rfl, rfl⟩ := front_of_skipSpace (isByte_closer k) (hb ▸ hs)
          obtain ⟨y, v, hy, rfl, rfl⟩ := ih h
          refine ⟨a ++ k.closer :: y, v, ⟨a, y, ?_, hy, rfl⟩, ?_, rfl⟩
          · cases first <;> exact .inl ha
          · rw [List.append_assoc, List.cons_append]
        split at h
        · cases h
        · next hcomma =>
          split at h
          · cases h
          -- what closes the brackets behind the element gives its value and what follows it
          · next st hst =>
            cases first with
            | true =>
              obtain ⟨a, v, ha, rfl, hv⟩ := skipSpace_encode_eq_encode cs
              rw [if_pos rfl, ← hs, hv] at hst
              obtain ⟨l, v, u, hl, hbegun, rfl, hu⟩ := begun_of_skipElement hst
              rw [hu] at h
              obtain ⟨z, v', hz, rfl, rfl⟩ := ih h
              obtain ⟨x, y, hx, hy, heq⟩ := items_of_begun (hl.blanks_append ha) hbegun hz
              refine ⟨x ++ k.closer :: y, v', ⟨x, y, .inr hx, hy, rfl⟩, ?_, rfl⟩
              rw [← List.append_assoc, heq, List.append_assoc, List.cons_append]
            | false =>
              have hb : b = 0x2C := by simpa using hcomma
              obtain ⟨a, v, ha, rfl, rfl⟩ := front_of_skipSpace (c := ',') (by rw [hb]; decide) hs
              rw [if_neg Bool.false_ne_true] at hst
              obtain ⟨l, v, u, hl, hbegun, rfl, hu⟩ := begun_of_skipElement hst
              rw [hu] at h
              obtain ⟨z, v', hz, rfl, rfl⟩ := ih h
              obtain ⟨x, y, hx, hy, heq⟩ := items_of_begun hl hbegun hz
              refine ⟨a ++ ',' :: (x ++ k.closer :: y), v',
                ⟨a ++ ',' :: x, y, .inr ⟨a, x, ha, hx, rfl⟩, hy, ?_⟩, ?_, rfl⟩
              · rw [List.append_assoc, List.cons_append]
              · rw [heq, List.append_assoc, List.cons_append, List.append_assoc, List.cons_append]

theorem value_of_skipValue {cs : List Char} {rest : List UInt8}
    (h : skipValue (encode cs) = .ok rest) :
    ∃ a w v, Blanks a ∧ Value w ∧ cs = a ++ (w ++ v) ∧ rest = encode v := by
  obtain ⟨st, hst, hopen⟩ := bind_eq_ok.1 h
  obtain ⟨a, v, u, ha, hbegun, rfl, hu⟩ := begun_of_skipHead hst
  rw [hu] at hopen
  obtain ⟨z, v', hz, rfl, rfl⟩ := closes_of_skipOpen hopen
  obtain ⟨first, stack, bytes⟩ := st
  dsimp only at hbegun hz
  generalize hrest : z ++ v' = r at hbegun
  cases hbegun with
  | @scalar w _ hw =>
    obtain rfl : z = [] := hz
    exact ⟨a, w, v', ha, .scalar hw, by rw [← hrest]; rfl, rfl⟩
  | @bracket k _ =>
    obtain ⟨x, y, hx, hy, rfl⟩ := hz
    obtain rfl : y = [] := hy
    refine ⟨a, _, v', ha, value_of_body hx, ?_, rfl⟩
    simp only [← hrest, List.append_assoc, List.cons_append, List.nil_append]

/-! ## What is written is skipped -/

/-- The open brackets are closed in front of `tail`, whatever clock that does not run out. -/
def Finishes (st : Rest) (tail : List UInt8) : Prop :=
  ∀ clock : List UInt8, st.bytes.length ≤ clock.length →
    skipOpen clock st.first st.stack st.bytes = .ok tail

theorem finishes_nil (first : Bool) (rest : List UInt8) : Finishes ⟨first, [], rest⟩ rest := by
  intro clock _
  cases clock <;> rfl

theorem finishes_close {a : List Char} (ha : Blanks a) (first : Bool) (k : Bracket)
    {stack : List Bracket} {rest tail : List UInt8} (h : Finishes ⟨false, stack, rest⟩ tail) :
    Finishes ⟨first, k :: stack, encode a ++ k.closing :: rest⟩ tail := by
  intro clock hclock
  obtain ⟨t, clock, rfl, hle⟩ := exists_cons_of_length_le hclock
  dsimp only
  rw [skipOpen, skipSpace_blanks_cons ha (isByte_closer k) (isBlank_closer k)]
  dsimp only
  rw [if_pos rfl]
  rw [List.length_append] at hle
  exact h clock (Nat.le_of_add_left_le hle)

/-- A round that begins an element behind a comma. -/
theorem finishes_comma {a : List Char} (ha : Blanks a) {k : Bracket} {stack : List Bracket}
    {bytes tail : List UInt8} {st : Rest} (hst : skipElement k stack bytes = .ok st)
    (hlen : st.bytes.length < bytes.length) (h : Finishes st tail) :
    Finishes ⟨false, k :: stack, encode a ++ 0x2C :: bytes⟩ tail := by
  intro clock hclock
  obtain ⟨t, clock, rfl, hle⟩ := exists_cons_of_length_le hclock
  have hclosing : (0x2C : UInt8) ≠ k.closing := by cases k <;> decide
  dsimp only
  rw [skipOpen, skipSpace_blanks_cons (c := ',') ha (by decide) (by decide)]
  dsimp only
  rw [if_neg hclosing, if_neg (by decide), if_neg Bool.false_ne_true, hst]
  rw [List.length_append] at hle
  exact h clock (by omega)

/-- An element is begun behind blanks. -/
theorem skipElement_skipSpace (k : Bracket) (stack : List Bracket) (bytes : List UInt8) :
    skipElement k stack (skipSpace bytes) = skipElement k stack bytes := by
  cases k with
  | list =>
    show skipHead (.list :: stack) (skipSpace bytes) = skipHead (.list :: stack) bytes
    rw [skipHead, skipHead, skipSpace_skipSpace]
  | map =>
    rw [skipElement, skipElement, skipLabel, skipLabel, skipName, skipName, skipSpace_skipSpace]

/-- A round that begins the first element. -/
theorem finishes_first {k : Bracket} {stack : List Bracket} {b : UInt8} {bytes r tail : List UInt8}
    {st : Rest} (hs : skipSpace bytes = b :: r) (hb : b ≠ k.closing)
    (hst : skipElement k stack bytes = .ok st) (hlen : st.bytes.length < bytes.length)
    (h : Finishes st tail) : Finishes ⟨true, k :: stack, bytes⟩ tail := by
  intro clock hclock
  dsimp only at hclock
  cases clock with
  | nil => cases Nat.lt_of_lt_of_le hlen hclock
  | cons t clock =>
    dsimp only
    rw [← skipElement_skipSpace, hs] at hst
    rw [skipOpen, hs]
    dsimp only
    rw [if_neg hb, Bool.not_true, Bool.false_and, if_neg Bool.false_ne_true, if_pos rfl, hst]
    refine h clock ?_
    rw [List.length_cons] at hclock
    omega

/-- A value begins with a character that closes no bracket. -/
theorem Value.front {w : List Char} (hw : Value w) : ∃ c v, w = c :: v ∧ Opens c := by
  cases hw with
  | scalar hw =>
    obtain ⟨c, -, v, hv, -, hc, -⟩ := hw.front
    exact ⟨c, v, hv, hc⟩
  | @empty k => exact ⟨k.opener, _, rfl, opens_opener k⟩
  | @bracket k => exact ⟨k.opener, _, rfl, opens_opener k⟩

/-- Elements begin with a character that does not close their bracket. -/
theorem Items.front {k : Bracket} {w : List Char} (hw : Items k w) :
    ∃ a c v, Blanks a ∧ w = a ++ c :: v ∧ c.toNat < 0x80 ∧ isBlank c = false ∧ c ≠ k.closer := by
  have hfront : ∀ {l u x : List Char}, Label k l → Value u →
      ∃ a c v, Blanks a ∧ l ++ (u ++ x) = a ++ c :: v ∧ c.toNat < 0x80 ∧ isBlank c = false ∧
        c ≠ k.closer := by
    intro l u x hl hu
    cases hl with
    | list ha =>
      obtain ⟨c, v, rfl, hc⟩ := hu.front
      exact ⟨l, c, v ++ x, ha, rfl, hc.ascii, hc.not_blank, hc.ne_closer .list⟩
    | @map a n b d ha =>
      refine ⟨a, '"', n ++ '"' :: (b ++ ':' :: d) ++ (u ++ x), ha, ?_, by decide, rfl, by decide⟩
      rw [List.append_assoc, List.cons_append]
  cases hw with
  | last hl hu _ => exact hfront hl hu
  | more hl hu _ _ => exact hfront hl hu

mutual

/-- **Every value is begun, and then finished if what follows it is.** -/
theorem skipHead_value {w : List Char} (hw : Value w) {a : List Char} (ha : Blanks a)
    {stack : List Bracket} {rest tail : List UInt8} (hr : Stops rest)
    (h : Finishes ⟨false, stack, rest⟩ tail) :
    ∃ st, skipHead stack (encode a ++ (encode w ++ rest)) = .ok st ∧
      st.bytes.length < (encode w ++ rest).length ∧ Finishes st tail := by
  match w, hw with
  | _, .scalar hw =>
    refine ⟨⟨false, stack, rest⟩, skipHead_scalar ha hw stack hr, ?_, h⟩
    obtain ⟨c, b, v, rfl, hbyte, -⟩ := hw.front
    rw [encode_cons_of_isByte hbyte, List.cons_append, List.length_cons, List.length_append]
    dsimp only
    omega
  | _, @Value.empty k w hw =>
    rw [encode_bracket]
    refine ⟨_, skipHead_opening ha stack k _, ?_, finishes_close hw true k h⟩
    exact Nat.lt_succ_self _
  | _, @Value.bracket k w hw =>
    rw [encode_bracket]
    obtain ⟨st, hst, hlen, hfinish⟩ := skipElement_items hw h
    refine ⟨_, skipHead_opening ha stack k _, Nat.lt_succ_self _, ?_⟩
    obtain ⟨b, c, v, hb, hv, hascii, hn, hk⟩ := hw.front
    have hbyte : IsByte c (UInt8.ofNat c.toNat) := ⟨hascii, rfl⟩
    have hs : skipSpace (encode w ++ k.closing :: rest) =
        UInt8.ofNat c.toNat :: (encode v ++ k.closing :: rest) := by
      rw [hv, encode_append, encode_cons_of_isByte hbyte, List.append_assoc, List.cons_append,
        skipSpace_blanks_cons hb hbyte hn]
    exact finishes_first hs (hbyte.ne (isByte_closer k) hk) hst hlen hfinish

/-- **All elements of a bracket are begun one after another, and then the bracket is closed.** -/
theorem skipElement_items {k : Bracket} {w : List Char} (hw : Items k w) {stack : List Bracket}
    {rest tail : List UInt8} (h : Finishes ⟨false, stack, rest⟩ tail) :
    ∃ st, skipElement k stack (encode w ++ k.closing :: rest) = .ok st ∧
      st.bytes.length < (encode w ++ k.closing :: rest).length ∧ Finishes st tail := by
  match w, hw with
  | _, @Items.last _ l w b hl hw hb =>
    obtain ⟨a, ha, hlen, hlabel⟩ := skipElement_label hl stack
    have hstop := stops_blanks_append hb (stops_closing k rest)
    obtain ⟨st, hst, hlt, hfinish⟩ := skipHead_value hw ha hstop (finishes_close hb false k h)
    rw [encode_append, encode_append, List.append_assoc, List.append_assoc, hlabel, hst]
    refine ⟨st, rfl, ?_, hfinish⟩
    rw [List.length_append]
    omega
  -- the elements behind the comma first: they say where the value in front of it has to stop
  | _, @Items.more _ l w b v hl hw hb hv =>
    obtain ⟨st', hst', hlt', hfinish'⟩ := skipElement_items hv h
    obtain ⟨a, ha, hlen, hlabel⟩ := skipElement_label hl stack
    have hstop : Stops (encode b ++ 0x2C :: (encode v ++ k.closing :: rest)) :=
      stops_blanks_append hb (stops_cons (by decide) _)
    obtain ⟨st, hst, hlt, hfinish⟩ := skipHead_value hw ha hstop
      (finishes_comma hb hst' hlt' hfinish')
    rw [encode_append, encode_append, encode_append, encode_cons_of_isByte (b := 0x2C) (by decide),
      List.append_assoc, List.append_assoc, List.append_assoc, List.cons_append, hlabel, hst]
    refine ⟨st, rfl, ?_, hfinish⟩
    rw [List.length_append]
    omega

end

/-- **Values are skipped exactly where they are written.** -/
theorem skipValue_append {a w : List Char} (ha : Blanks a) (hw : Value w) {rest : List UInt8}
    (hr : Stops rest) : skipValue (encode a ++ (encode w ++ rest)) = .ok rest := by
  obtain ⟨st, hst, -, hfinish⟩ := skipHead_value hw ha hr (finishes_nil false rest)
  exact bind_eq_ok.2 ⟨st, hst, hfinish st.bytes (Nat.le_refl _)⟩

end AuditLabels.Json

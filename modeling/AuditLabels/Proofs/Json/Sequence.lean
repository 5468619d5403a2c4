import AuditLabels.Json.Sequence
import AuditLabels.Proofs.Json.Head

/-!
# Lists are read as written

A list of elements of one form is read exactly where one is written, if the elements are.
-/

namespace AuditLabels.Json

open Text.Utf8

/-! ## Between elements -/

theorem before_of_nextElement {first : Bool} {cs : List Char} {start : List UInt8}
    (h : nextElement first (encode cs) = .ok (some start)) :
    ∃ l v, Before first l ∧ cs = l ++ v ∧ start = encode v := by
  obtain ⟨a, v, ha, rfl, hv⟩ := skipSpace_encode_eq_encode cs
  rw [nextElement, hv] at h
  split at h
  · cases h
  · next b r hbytes =>
    split at h
    · cases h
    split at h
    · next hfirst =>
      obtain rfl := Option.some.inj (Except.ok.inj h)
      refine ⟨a, v, ?_, rfl, hbytes.symm⟩
      rw [hfirst]
      exact .first ha
    · next hfirst =>
      split at h
      · next hb =>
        obtain ⟨u, rfl, rfl⟩ := front_of_isByte (c := ',') (by rw [hb]; decide) hbytes
        obtain ⟨b, v, hb, rfl, hv⟩ := skipSpace_encode_eq_encode u
        rw [hv] at h
        split at h
        · cases h
        · next hbytes =>
          split at h
          · cases h
          · obtain rfl := Option.some.inj (Except.ok.inj h)
            refine ⟨a ++ ',' :: b, v, ?_, ?_, hbytes.symm⟩
            · rw [Bool.eq_false_iff.2 hfirst]
              exact .later ha hb
            · rw [List.append_assoc, List.cons_append]
      · cases h

theorem nextElement_end {a : List Char} (ha : Blanks a) (first : Bool) (rest : List UInt8) :
    nextElement first (encode a ++ 0x5D :: rest) = .ok none := by
  rw [nextElement, skipSpace_blanks_cons (c := ']') ha (by decide) (by decide)]
  rfl

theorem nextElement_append {first : Bool} {l : List Char} (hl : Before first l) {c : Char}
    (hc : Opens c) (v : List Char) (rest : List UInt8) :
    nextElement first (encode l ++ (encode (c :: v) ++ rest)) =
      .ok (some (encode (c :: v) ++ rest)) := by
  have hbyte : IsByte c (UInt8.ofNat c.toNat) := ⟨hc.ascii, rfl⟩
  have hne : UInt8.ofNat c.toNat ≠ 0x5D := hbyte.ne (isByte_closer .list) hc.not_list_end
  rw [encode_cons_of_isByte hbyte, List.cons_append]
  cases hl with
  | first ha =>
    rw [nextElement, skipSpace_blanks_cons ha hbyte hc.not_blank]
    dsimp only
    rw [if_neg hne, if_pos rfl]
  | later ha hb =>
    rw [encode_append, encode_cons_of_isByte (b := 0x2C) (by decide), List.append_assoc,
      List.cons_append, nextElement, skipSpace_blanks_cons (c := ',') ha (by decide) (by decide)]
    dsimp only
    rw [if_neg (by decide), if_neg Bool.false_ne_true, if_pos rfl,
      skipSpace_blanks_cons hb hbyte hc.not_blank]
    dsimp only
    rw [if_neg hne]

theorem end_of_closeList {cs : List Char} {rest : List UInt8}
    (h : closeList (encode cs) = .ok rest) :
    ∃ a v, Blanks a ∧ cs = a ++ ']' :: v ∧ rest = encode v := by
  unfold closeList at h
  split at h
  · cases h
  · next b r hs =>
    split at h
    · next hb =>
      obtain rfl := Except.ok.inj h
      exact front_of_skipSpace (c := ']') (by rw [hb]; decide) hs
    split at h
    · split at h <;> cases h
    · cases h

theorem closeList_append {a : List Char} (ha : Blanks a) (rest : List UInt8) :
    closeList (encode a ++ 0x5D :: rest) = .ok rest := by
  rw [closeList, skipSpace_blanks_cons (c := ']') ha (by decide) (by decide)]
  rfl

/-! ## Elements -/

section Elements

variable {α : Type} {read : Reader α} {P : List Char → α → Prop}

/-- **The elements that were read were written.**  By induction on the clock. -/
theorem elements_of_readElements (hread : Accepts read P) {clock : List UInt8} {acc xs : List α}
    {cs : List Char} {rest : List UInt8}
    (h : readElements read clock acc (encode cs) = .ok (xs, rest)) :
    ∃ w ys v, Elements P acc.isEmpty w ys ∧ xs = acc.reverse ++ ys ∧ cs = w ++ ']' :: v ∧
      rest = encode v := by
  induction clock generalizing acc cs with
  | nil => cases h
  | cons t clock ih =>
    rw [readElements] at h
    split at h
    · cases h
    · next hnext =>
      obtain ⟨r, hclose, he⟩ := map_eq_ok.1 h
      obtain ⟨rfl, rfl⟩ := Prod.mk.inj he
      obtain ⟨a, v, ha, rfl, rfl⟩ := end_of_closeList hclose
      exact ⟨a, [], v, .nil ha, (List.append_nil _).symm, rfl, rfl⟩
    · next start hnext =>
      obtain ⟨l, u, hl, rfl, rfl⟩ := before_of_nextElement hnext
      split at h
      · cases h
      · next x r hx =>
        obtain ⟨a, w, v, ha, hw, rfl, rfl⟩ := hread.sound hx
        obtain ⟨y, ys, z, hy, rfl, rfl, rfl⟩ := ih h
        refine ⟨(l ++ a) ++ (w ++ y), x :: ys, z, .cons ?_ hw hy, ?_, ?_, rfl⟩
        · exact hl.append_blanks ha
        · rw [List.reverse_cons, List.append_assoc, List.singleton_append]
        · simp only [List.append_assoc]

/-- What follows an element does not carry a numeral on. -/
theorem stops_of_elements {v : List Char} {xs : List α} (hv : Elements P false v xs) (k : Bracket)
    (rest : List UInt8) : Stops (encode v ++ k.closing :: rest) := by
  cases hv with
  | nil ha => exact stops_blanks_append ha (stops_closing k rest)
  | cons hl =>
    cases hl with
    | later ha hb =>
      rw [encode_append, encode_append, encode_cons_of_isByte (b := 0x2C) (by decide),
        List.append_assoc, List.append_assoc]
      exact stops_blanks_append ha (stops_cons (by decide) _)

/-- **The elements that are written are read.** -/
theorem readElements_append (hread : Accepts read P) {first : Bool} {w : List Char} {ys : List α}
    (hw : Elements P first w ys) {clock : List UInt8} {acc : List α} {rest : List UInt8}
    (hfirst : acc.isEmpty = first) (hclock : (encode w ++ 0x5D :: rest).length ≤ clock.length) :
    readElements read clock acc (encode w ++ 0x5D :: rest) = .ok (acc.reverse ++ ys, rest) := by
  induction hw generalizing clock acc with
  | nil ha =>
    obtain ⟨t, clock, rfl, -⟩ := exists_cons_of_length_le hclock
    rw [readElements, nextElement_end ha, closeList_append ha, List.append_nil]
    rfl
  | @cons first l w v x xs hl hw hv ih =>
    obtain ⟨c, u, rfl, hc⟩ := hread.opens hw
    have hstart := nextElement_append hl hc u (encode v ++ 0x5D :: rest)
    have hstop : Stops (encode v ++ 0x5D :: rest) := stops_of_elements hv .list rest
    have hone := hread.complete blanks_nil hw hstop
    rw [encode_nil, List.nil_append] at hone
    -- an element has at least one byte, which pays for the round
    have hpos : 0 < (encode (c :: u)).length := by
      rw [encode_cons_of_isByte ⟨hc.ascii, rfl⟩]
      exact Nat.succ_pos _
    simp only [encode_append, List.append_assoc, List.length_append] at hclock ⊢
    cases clock with
    | nil =>
      rw [List.length_nil] at hclock
      omega
    | cons t clock =>
      rw [readElements, hfirst, hstart]
      dsimp only
      rw [hone]
      dsimp only
      rw [ih rfl ?_, List.reverse_cons, List.append_assoc, List.singleton_append]
      simp only [List.length_append, List.length_cons] at hclock ⊢
      omega

/-- **Lists are read exactly where they are written.** -/
theorem accepts_readList (hread : Accepts read P) :
    Accepts (readList read) (Bracketed .list P) where
  sound := by
    intro cs xs rest h
    obtain ⟨⟨head, r⟩, hhead, h⟩ := bind_eq_ok.1 h
    dsimp only at h
    split at h
    · obtain ⟨a, u, ha, rfl, rfl⟩ := opener_of_readHead (k := .list) hhead
      obtain ⟨w, ys, v, hw, rfl, rfl, rfl⟩ := elements_of_readElements hread h
      refine ⟨a, _, v, ha, .intro hw, ?_, rfl⟩
      rw [List.cons_append, List.append_assoc, List.singleton_append]
      rfl
    · cases h
  complete := by
    rintro a w xs rest ha ⟨hw⟩ -
    rw [encode_bracket]
    refine bind_eq_ok.2 ⟨_, readHead_opening ha .list _, ?_⟩
    exact readElements_append hread hw rfl (Nat.le_refl _)
  opens := by
    rintro w xs ⟨-⟩
    exact ⟨'[', _, rfl, opens_opener .list⟩

end Elements

end AuditLabels.Json

import AuditLabels.Proofs.Batch.Format
import AuditLabels.Proofs.Json.Misfit

/-!
# Misfits in batch requests

Where the first fault of a batch request is a value in one of its two lists that is no integer of 64
bits, the fault is placed under the name of the list and in the element of the list.
-/

namespace AuditLabels.BatchRequest

open Json Text.Utf8

/-- A map that has no fault before the element `i` of the list under a name, which is no integer of
64 bits.  The members in front of that list are well formed, the name is one of the two, and neither
of these stands there twice; what follows the element may be any bytes. -/
inductive FirstMisfit : List UInt8 → String → Nat → Prop
  | intro {a w n b c v x : List Char} {fields : List (String × List Int)} {name : String}
      {codes : List Int} {rest : List UInt8} : Blanks a → Leading (Member Field) true w fields →
      Spells n name.toList → Blanks b → Blanks c → name = actionsName ∨ name = resourcesName →
      (∀ known, known = actionsName ∨ known = resourcesName →
        (fields.map Prod.fst ++ [name]).count known ≤ 1) →
      Leading Integer64 true v codes → Misfit x → Apart x rest →
      FirstMisfit (encode (a ++ '{' :: (w ++ '"' :: (n ++ '"' :: (b ++ ':' :: (c ++ '[' ::
        (v ++ x)))))) ++ rest) name codes.length

/-! ## Members -/

theorem length_under (name : String) (fields : List (String × List Int)) :
    (under name fields).length = (fields.map Prod.fst).count name := by
  rw [under, List.length_map, List.count_eq_countP, List.countP_map, List.countP_eq_length_filter]
  congr 1

/-- A fault in the value of a member is placed under its name. -/
theorem readMember_of_error {α : Type} {read : Reader α} (name : String) {b : List Char}
    (hb : Blanks b) {rest : List UInt8} {f : Fault} (hf : read rest = .error f) :
    readMember read name (encode b ++ 0x3A :: rest) = .error (f.within (.key name)) := by
  refine bind_eq_error.2 (.inr ⟨rest, skipColon_append hb rest, ?_⟩)
  rw [hf]

/-- A list that may be taken is refused for a fault in it. -/
theorem readField_of_error {d d' : Draft} {name : String} {xs : List Int} (hd : Takes d name xs d')
    (hname : name = actionsName ∨ name = resourcesName) {bytes : List UInt8} {f : Fault}
    (hf : readMember readCodes name bytes = .error f) : readField d name bytes = .error f := by
  have hne : resourcesName ≠ actionsName := by decide
  unfold readField
  cases hd with
  | actions hnone =>
    rw [if_pos rfl, hnone, if_neg (by decide), hf]
    rfl
  | resources hnone =>
    rw [if_neg hne, if_pos rfl, hnone, if_neg (by decide), hf]
    rfl
  | other hactions hresources =>
    rcases hname with h | h
    · exact absurd h hactions
    · exact absurd h hresources

/-- **The first member that is refused decides.**  By induction on the members before it, each of
which moves from the ones to come to the ones that were read. -/
theorem readFields_leading {first : Bool} {w : List Char} {fields : List (String × List Int)}
    (hw : Leading (Member Field) first w fields) {n : List Char} {name : String} {xs : List Int}
    (hn : Spells n name.toList) {rest : List UInt8} {f : Fault}
    (hf : ∀ d d', Takes d name xs d' → readField d name rest = .error f) {clock : List UInt8}
    {d : Draft} {r : BatchRequest} (hmakes : d.Makes (fields ++ [(name, xs)]) r)
    (hclock : (encode w ++ 0x22 :: (encode n ++ 0x22 :: rest)).length ≤ clock.length) :
    readFields clock first d (encode w ++ 0x22 :: (encode n ++ 0x22 :: rest)) = .error f := by
  induction hw generalizing clock d with
  | nil hl =>
    obtain ⟨t, clock, rfl, -⟩ := exists_cons_of_length_le hclock
    obtain ⟨d', htakes⟩ := exists_takes hmakes
    rw [readFields, nextName_append hl]
    dsimp only
    rw [readText_append hn]
    dsimp only
    rw [hf d d' htakes]
  | @cons first l _ v x fields hl hx hv ih =>
    obtain @⟨m, b, c, u, other, ys, hm, hb, hc, hu⟩ := hx
    obtain ⟨d', htakes⟩ := exists_takes hmakes
    have hstop := stops_of_leading hv (0x22 :: (encode n ++ 0x22 :: rest))
    have hfield := readField_append hb hc hu htakes hstop
    simp only [encode_append, encode_member, List.append_assoc, List.cons_append] at hclock ⊢
    obtain ⟨t, clock, rfl, hle⟩ := exists_cons_of_length_le hclock
    rw [readFields, nextName_append hl]
    dsimp only
    rw [readText_append hm]
    dsimp only
    rw [hfield]
    dsimp only
    refine ih ((htakes.makes_iff _ r).2 hmakes) ?_
    simp only [List.length_append, List.length_cons] at hle ⊢
    omega

/-! ## Requests -/

/-- **The first misfit is blamed,** in the element of the list that it stands in. -/
theorem read_firstMisfit {body : List UInt8} {name : String} {i : Nat}
    (h : FirstMisfit body name i) :
    ∃ f, read body = .error f ∧ f.path = [.key name, .index i] ∧ f.cause.isData = true := by
  obtain @⟨a, w, n, b, c, v, x, fields, name, codes, rest, ha, hw, hn, hb, hc, hname, hcount, hv,
    hx, hrest⟩ := h
  obtain ⟨cause, r, hcause, hdata⟩ := readInt64_misfit hx hrest
  obtain ⟨d, u, rfl, hd⟩ := hx.value.front
  have hcodes := readList_leading accepts_readInt64 hc hv hd hcause
  refine ⟨((Fault.here cause r).within (.index codes.length)).within (.key name), ?_, rfl, hdata⟩
  have honce : ∀ known, known = actionsName ∨ known = resourcesName →
      (under known (fields ++ [(name, [])])).length ≤ 1 := by
    intro known hknown
    rw [length_under, List.map_append]
    exact hcount known hknown
  have hmakes : Draft.Makes ⟨none, none⟩ (fields ++ [(name, [])]) ⟨_, _⟩ :=
    ⟨⟨honce _ (.inl rfl), rfl⟩, ⟨honce _ (.inr rfl), rfl⟩⟩
  simp only [encode_append, encode_member, List.append_assoc, List.cons_append,
    encode_cons_of_isByte (c := '{') (b := 0x7B) (by decide),
    encode_cons_of_isByte (c := '[') (b := 0x5B) (by decide)]
  refine bind_eq_error.2 (.inr ⟨_, readHead_opening ha .map _, ?_⟩)
  refine readFields_leading hw hn (fun d d' htakes => ?_) hmakes (Nat.le_refl _)
  exact readField_of_error htakes hname (readMember_of_error name hb hcodes)

end AuditLabels.BatchRequest

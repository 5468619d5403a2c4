import AuditLabels.Batch.Request
import AuditLabels.Proofs.Json.Members

/-!
# The format of batch requests

A text is read as a batch request exactly if it has one of the two forms: a map that has each of the
two names at most once, or a list of up to two lists.
-/

namespace AuditLabels.BatchRequest

open Json Text.Utf8

/-! ## The format -/

/-- A list of codes as it is written. -/
def Codes : List Char → List Int → Prop := Bracketed .list Integer64

/-- The value of a member: a list of codes under one of the two names, any value under another. -/
inductive Field (name : String) (w : List Char) (xs : List Int) : Prop
  | codes : name = actionsName ∨ name = resourcesName → Codes w xs → Field name w xs
  | other : name ≠ actionsName → name ≠ resourcesName → Value w → xs = [] → Field name w xs

/-- The lists under a name. -/
def under (name : String) (fields : List (String × List Int)) : List (List Int) :=
  (fields.filter fun f => f.1 = name).map Prod.snd

/-- A batch request as it is written, and its codes. -/
inductive Format : List Char → BatchRequest → Prop
  | map {w : List Char} {fields : List (String × List Int)} :
      Bracketed .map (Member Field) w fields → (under actionsName fields).length ≤ 1 →
      (under resourcesName fields).length ≤ 1 →
      Format w ⟨(under actionsName fields).flatten, (under resourcesName fields).flatten⟩
  | list {w : List Char} {lists : List (List Int)} : Bracketed .list Codes w lists →
      lists.length ≤ 2 → Format w ⟨lists.headD [], lists.tail.headD []⟩

theorem accepts_readCodes : Accepts readCodes Codes := accepts_readList accepts_readInt64

/-! ## Members -/

/-- What a member does to the lists that have been read so far. -/
inductive Takes (d : Draft) : String → List Int → Draft → Prop
  | actions {xs : List Int} : d.actions = none →
      Takes d actionsName xs { d with actions := some xs }
  | resources {xs : List Int} : d.resources = none →
      Takes d resourcesName xs { d with resources := some xs }
  | other {name : String} {xs : List Int} : name ≠ actionsName → name ≠ resourcesName →
      Takes d name xs d

/-- A member that was taken was written behind its name. -/
theorem field_of_readField {d d' : Draft} {name : String} {cs : List Char} {rest : List UInt8}
    (h : readField d name (encode cs) = .ok (d', rest)) :
    ∃ b c w v xs, Blanks b ∧ Blanks c ∧ Field name w xs ∧ Takes d name xs d' ∧
      cs = b ++ ':' :: (c ++ (w ++ v)) ∧ rest = encode v := by
  unfold readField at h
  split at h
  · next hname =>
    split at h
    · cases h
    · next hnone =>
      obtain ⟨⟨xs, r⟩, hxs, he⟩ := map_eq_ok.1 h
      obtain ⟨rfl, rfl⟩ := Prod.mk.inj he
      obtain ⟨b, c, w, v, hb, hc, hw, rfl, rfl⟩ := value_of_readMember accepts_readCodes hxs
      subst hname
      exact ⟨b, c, w, v, xs, hb, hc, .codes (.inl rfl) hw,
        .actions (Option.not_isSome_iff_eq_none.1 hnone), rfl, rfl⟩
  split at h
  · next hname =>
    split at h
    · cases h
    · next hnone =>
      obtain ⟨⟨xs, r⟩, hxs, he⟩ := map_eq_ok.1 h
      obtain ⟨rfl, rfl⟩ := Prod.mk.inj he
      obtain ⟨b, c, w, v, hb, hc, hw, rfl, rfl⟩ := value_of_readMember accepts_readCodes hxs
      subst hname
      exact ⟨b, c, w, v, xs, hb, hc, .codes (.inr rfl) hw,
        .resources (Option.not_isSome_iff_eq_none.1 hnone), rfl, rfl⟩
  · next hactions hresources =>
    obtain ⟨⟨x, r⟩, hx, he⟩ := map_eq_ok.1 h
    obtain ⟨rfl, rfl⟩ := Prod.mk.inj he
    obtain ⟨b, c, w, v, hb, hc, hw, rfl, rfl⟩ := value_of_readMember accepts_skipValue hx
    exact ⟨b, c, w, v, [], hb, hc, .other hactions hresources hw rfl, .other hactions hresources,
      rfl, rfl⟩

/-- A member that may be taken is taken: the name decides what its value has to be. -/
theorem readField_append {d d' : Draft} {name : String} {b c w : List Char} {xs : List Int}
    (hb : Blanks b) (hc : Blanks c) (hw : Field name w xs) (hd : Takes d name xs d')
    {rest : List UInt8} (hr : Stops rest) :
    readField d name (encode b ++ 0x3A :: (encode c ++ (encode w ++ rest))) = .ok (d', rest) := by
  have hne : resourcesName ≠ actionsName := by decide
  unfold readField
  cases hd with
  | actions hnone =>
    cases hw with
    | codes _ hw =>
      rw [if_pos rfl, hnone, if_neg (by decide), readMember_append accepts_readCodes _ hb hc hw hr]
      rfl
    | other hactions => exact absurd rfl hactions
  | resources hnone =>
    cases hw with
    | codes _ hw =>
      rw [if_neg hne, if_pos rfl, hnone, if_neg (by decide),
        readMember_append accepts_readCodes _ hb hc hw hr]
      rfl
    | other _ hresources => exact absurd rfl hresources
  | other hactions hresources =>
    cases hw with
    | codes hname =>
      rcases hname with h | h
      · exact absurd h hactions
      · exact absurd h hresources
    | other _ _ hw =>
      rw [if_neg hactions, if_neg hresources,
        readMember_append (x := ()) accepts_skipValue _ hb hc hw hr]
      rfl

/-! ## Maps -/

/-- The list that was read, if there was one, and the lists that are still to come are one list at
most, and this is it. -/
def Fills (seen : Option (List Int)) (lists : List (List Int)) (xs : List Int) : Prop :=
  (seen.toList ++ lists).length ≤ 1 ∧ xs = (seen.toList ++ lists).flatten

theorem fills_nil_iff (seen : Option (List Int)) (xs : List Int) :
    Fills seen [] xs ↔ xs = seen.getD [] := by
  cases seen with
  | none => exact ⟨fun h => h.2, fun h => ⟨Nat.zero_le _, h⟩⟩
  | some ys =>
    rw [Fills, List.append_nil, Option.toList_some, List.flatten_singleton, List.length_singleton,
      Option.getD_some]
    exact and_iff_right (Nat.le_refl 1)

/-- The request that the lists read so far and the members that are still to come make. -/
def Draft.Makes (d : Draft) (fields : List (String × List Int)) (r : BatchRequest) : Prop :=
  Fills d.actions (under actionsName fields) r.actions ∧
    Fills d.resources (under resourcesName fields) r.resources

theorem Draft.makes_nil_iff (d : Draft) (r : BatchRequest) : d.Makes [] r ↔ r = d.finish := by
  obtain ⟨actions, resources⟩ := r
  unfold Makes
  rw [under, under, List.filter_nil, List.filter_nil, List.map_nil, fills_nil_iff, fills_nil_iff,
    finish, BatchRequest.mk.injEq]

theorem under_cons_self (name : String) (xs : List Int) (fields : List (String × List Int)) :
    under name ((name, xs) :: fields) = xs :: under name fields := by
  rw [under, List.filter_cons_of_pos (by exact decide_eq_true rfl), List.map_cons]
  rfl

theorem under_cons_of_ne {name other : String} (h : other ≠ name) (xs : List Int)
    (fields : List (String × List Int)) :
    under name ((other, xs) :: fields) = under name fields := by
  rw [under, List.filter_cons_of_neg (by simpa using h)]
  rfl

/-- A member moves from the ones to come to the ones that were read. -/
theorem Takes.makes_iff {d d' : Draft} {name : String} {xs : List Int} (h : Takes d name xs d')
    (fields : List (String × List Int)) (r : BatchRequest) :
    d'.Makes fields r ↔ d.Makes ((name, xs) :: fields) r := by
  have hne : resourcesName ≠ actionsName := by decide
  unfold Draft.Makes
  cases h with
  | actions hnone =>
    rw [under_cons_self, under_cons_of_ne hne.symm, hnone]
    rfl
  | resources hnone =>
    rw [under_cons_self, under_cons_of_ne hne, hnone]
    rfl
  | other hactions hresources => rw [under_cons_of_ne hactions, under_cons_of_ne hresources]

/-- A member is taken if its name does not stand there twice. -/
theorem exists_takes {d : Draft} {name : String} {xs : List Int}
    {fields : List (String × List Int)} {r : BatchRequest} (h : d.Makes ((name, xs) :: fields) r) :
    ∃ d', Takes d name xs d' := by
  -- two lists under one name are more than one
  have hnone : ∀ {seen : Option (List Int)} {lists : List (List Int)} {ys : List Int},
      Fills seen (xs :: lists) ys → seen = none := by
    intro seen lists ys hfills
    cases seen with
    | none => rfl
    | some zs =>
      have hlen := hfills.1
      rw [List.length_append, List.length_cons, Option.toList_some, List.length_singleton] at hlen
      omega
  by_cases hactions : name = actionsName
  · subst hactions
    have hfills := h.1
    rw [under_cons_self] at hfills
    exact ⟨_, .actions (hnone hfills)⟩
  by_cases hresources : name = resourcesName
  · subst hresources
    have hfills := h.2
    rw [under_cons_self] at hfills
    exact ⟨_, .resources (hnone hfills)⟩
  · exact ⟨d, .other hactions hresources⟩

/-- **The members that were read were written.**  By induction on the clock. -/
theorem elements_of_readFields {clock : List UInt8} {first : Bool} {d : Draft} {cs : List Char}
    {r : BatchRequest} {rest : List UInt8}
    (h : readFields clock first d (encode cs) = .ok (r, rest)) :
    ∃ w fields v, Elements (Member Field) first w fields ∧ d.Makes fields r ∧ cs = w ++ '}' :: v ∧
      rest = encode v := by
  induction clock generalizing first d cs with
  | nil => cases h
  | cons t clock ih =>
    rw [readFields] at h
    split at h
    · cases h
    · next hnext =>
      obtain ⟨a, v, ha, rfl, hend⟩ := end_of_nextName hnext
      obtain ⟨rfl, rfl⟩ := Prod.mk.inj (Except.ok.inj h)
      exact ⟨a, [], v, .nil ha, (d.makes_nil_iff _).2 rfl, rfl, hend⟩
    · next start hnext =>
      obtain ⟨l, u, hl, rfl, rfl⟩ := before_of_nextName hnext
      split at h
      · cases h
      · next name r' hname =>
        obtain ⟨n, u, hn, rfl, rfl⟩ := spells_of_readText hname
        split at h
        · cases h
        -- the member leaves the draft, and with it what the rest of the members has to make
        · next d' r' hfield =>
          obtain ⟨b, c, w, v, xs, hb, hc, hw, htakes, rfl, rfl⟩ := field_of_readField hfield
          obtain ⟨y, fields, z, hy, hmakes, rfl, rfl⟩ := ih h
          refine ⟨_, _, z, .cons hl (.intro hn hb hc hw) hy, (htakes.makes_iff fields r).1 hmakes,
            ?_, rfl⟩
          simp only [List.append_assoc, List.cons_append]

/-- **The members that are written are read.** -/
theorem readFields_append {first : Bool} {w : List Char} {fields : List (String × List Int)}
    (hw : Elements (Member Field) first w fields) {clock : List UInt8} {d : Draft}
    {r : BatchRequest} (hmakes : d.Makes fields r) {rest : List UInt8}
    (hclock : (encode w ++ 0x7D :: rest).length ≤ clock.length) :
    readFields clock first d (encode w ++ 0x7D :: rest) = .ok (r, rest) := by
  induction hw generalizing clock d with
  | @nil first a ha =>
    obtain ⟨t, clock, rfl, -⟩ := exists_cons_of_length_le hclock
    obtain ⟨hnext, hend⟩ := nextName_end ha first rest
    rw [readFields, hnext]
    dsimp only
    rw [hend, (d.makes_nil_iff r).1 hmakes]
  | @cons first l _ v x fields hl hx hv ih =>
    obtain @⟨n, b, c, w, name, xs, hn, hb, hc, hw⟩ := hx
    -- what follows the value is a comma, a bracket or blanks before one of them
    obtain ⟨d', htakes⟩ := exists_takes hmakes
    have hstop : Stops (encode v ++ 0x7D :: rest) := stops_of_elements hv .map rest
    have hfield := readField_append hb hc hw htakes hstop
    simp only [encode_append, encode_member, List.append_assoc, List.cons_append] at hclock ⊢
    obtain ⟨t, clock, rfl, hle⟩ := exists_cons_of_length_le hclock
    rw [readFields, nextName_append hl]
    dsimp only
    rw [readText_append hn]
    dsimp only
    rw [hfield]
    dsimp only
    refine ih ((htakes.makes_iff fields r).2 hmakes) ?_
    simp only [List.length_append, List.length_cons] at hle ⊢
    omega

/-! ## Lists -/

theorem codes_of_readItem {i : Nat} {cs : List Char} {rest : List UInt8} {o : Option (List Int)}
    (h : readItem i (encode cs) = .ok (o, rest)) :
    o = none ∧ rest = encode cs ∨
      ∃ l w v xs, o = some xs ∧ Before (i == 0) l ∧ Codes w xs ∧ cs = l ++ (w ++ v) ∧
        rest = encode v := by
  obtain ⟨next, hnext, h⟩ := bind_eq_ok.1 h
  cases next with
  | none =>
    obtain ⟨rfl, rfl⟩ := Prod.mk.inj (Except.ok.inj h)
    exact .inl ⟨rfl, rfl⟩
  | some start =>
    obtain ⟨l, u, hl, rfl, rfl⟩ := before_of_nextElement hnext
    dsimp only at h
    split at h
    · next xs r hxs =>
      obtain ⟨rfl, rfl⟩ := Prod.mk.inj (Except.ok.inj h)
      obtain ⟨a, w, v, ha, hw, rfl, rfl⟩ := accepts_readCodes.sound hxs
      refine .inr ⟨l ++ a, w, v, xs, rfl, hl.append_blanks ha, hw, ?_, rfl⟩
      rw [List.append_assoc]
    · cases h

theorem readItem_end {a : List Char} (ha : Blanks a) (i : Nat) (rest : List UInt8) :
    readItem i (encode a ++ 0x5D :: rest) = .ok (none, encode a ++ 0x5D :: rest) :=
  bind_eq_ok.2 ⟨none, nextElement_end ha (i == 0) rest, rfl⟩

theorem readItem_append {i : Nat} {l w : List Char} {xs : List Int} (hl : Before (i == 0) l)
    (hw : Codes w xs) {rest : List UInt8} (hr : Stops rest) :
    readItem i (encode l ++ (encode w ++ rest)) = .ok (some xs, rest) := by
  obtain ⟨c, v, rfl, hc⟩ := accepts_readCodes.opens hw
  have hone := accepts_readCodes.complete blanks_nil hw hr
  rw [encode_nil, List.nil_append] at hone
  refine bind_eq_ok.2 ⟨_, nextElement_append hl hc v rest, ?_⟩
  dsimp only
  rw [hone]
  rfl

/-- The lists that were read were written. -/
theorem elements_of_readItems {cs : List Char} {r : BatchRequest} {rest : List UInt8}
    (h : readItems (encode cs) = .ok (r, rest)) :
    ∃ w lists v, Elements Codes true w lists ∧ lists.length ≤ 2 ∧
      r = ⟨lists.headD [], lists.tail.headD []⟩ ∧ cs = w ++ ']' :: v ∧ rest = encode v := by
  obtain ⟨⟨actions, r₁⟩, h₁, h⟩ := bind_eq_ok.1 h
  obtain ⟨⟨resources, r₂⟩, h₂, h⟩ := bind_eq_ok.1 h
  obtain ⟨r₃, hclose, h⟩ := bind_eq_ok.1 h
  obtain ⟨rfl, rfl⟩ := Prod.mk.inj (Except.ok.inj h)
  rcases codes_of_readItem h₁ with ⟨rfl, rfl⟩ | ⟨l, w, v, xs, rfl, hl, hw, rfl, rfl⟩
  · obtain ⟨rfl, rfl⟩ := Prod.mk.inj (Except.ok.inj h₂)
    obtain ⟨a, v, ha, rfl, rfl⟩ := end_of_closeList hclose
    exact ⟨a, [], v, .nil ha, Nat.zero_le _, rfl, rfl, rfl⟩
  · rcases codes_of_readItem h₂ with ⟨rfl, rfl⟩ | ⟨l', w', v', xs', rfl, hl', hw', rfl, rfl⟩
    · obtain ⟨a, v, ha, rfl, rfl⟩ := end_of_closeList hclose
      refine ⟨l ++ (w ++ a), [xs], v, .cons hl hw (.nil ha), Nat.le_succ 1, rfl, ?_, rfl⟩
      simp only [List.append_assoc]
    · obtain ⟨a, v, ha, rfl, rfl⟩ := end_of_closeList hclose
      refine ⟨l ++ (w ++ (l' ++ (w' ++ a))), [xs, xs'], v,
        .cons hl hw (.cons hl' hw' (.nil ha)), Nat.le_refl 2, rfl, ?_, rfl⟩
      simp only [List.append_assoc]

/-- The lists that are written are read. -/
theorem readItems_append {w : List Char} {lists : List (List Int)}
    (hw : Elements Codes true w lists) (hlen : lists.length ≤ 2) (rest : List UInt8) :
    readItems (encode w ++ 0x5D :: rest) =
      .ok (⟨lists.headD [], lists.tail.headD []⟩, rest) := by
  cases hw with
  | nil ha =>
    refine bind_eq_ok.2 ⟨_, readItem_end ha 0 rest, ?_⟩
    refine bind_eq_ok.2 ⟨_, rfl, ?_⟩
    exact bind_eq_ok.2 ⟨_, closeList_append ha rest, rfl⟩
  | @cons _ l w v xs _ hl hw hv =>
    have hstop : Stops (encode v ++ 0x5D :: rest) := stops_of_elements hv .list rest
    have hfirst := readItem_append (i := 0) hl hw hstop
    rw [encode_append, encode_append, List.append_assoc, List.append_assoc]
    refine bind_eq_ok.2 ⟨_, hfirst, ?_⟩
    cases hv with
    | nil ha =>
      refine bind_eq_ok.2 ⟨_, readItem_end ha 1 rest, ?_⟩
      exact bind_eq_ok.2 ⟨_, closeList_append ha rest, rfl⟩
    | @cons _ l' w' v' xs' _ hl' hw' hv' =>
      have hstop' : Stops (encode v' ++ 0x5D :: rest) := stops_of_elements hv' .list rest
      have hsecond := readItem_append (i := 1) hl' hw' hstop'
      rw [encode_append, encode_append, List.append_assoc, List.append_assoc]
      refine bind_eq_ok.2 ⟨_, hsecond, ?_⟩
      cases hv' with
      | nil ha => exact bind_eq_ok.2 ⟨_, closeList_append ha rest, rfl⟩
      | cons =>
        simp only [List.length_cons] at hlen
        omega

/-! ## Requests -/

/-- **The reader of batch requests accepts their format.** -/
theorem accepts_read : Accepts read Format where
  sound := by
    intro cs r rest h
    obtain ⟨⟨head, r₁⟩, hhead, h⟩ := bind_eq_ok.1 h
    dsimp only at h
    split at h
    · obtain ⟨a, u, ha, rfl, rfl⟩ := opener_of_readHead (k := .map) hhead
      obtain ⟨w, fields, v, hw, hmakes, rfl, rfl⟩ := elements_of_readFields h
      obtain ⟨actions, resources⟩ := r
      obtain ⟨⟨hactions, rfl⟩, ⟨hresources, rfl⟩⟩ := hmakes
      refine ⟨a, _, v, ha, .map (.intro hw) hactions hresources, ?_, rfl⟩
      rw [List.cons_append, List.append_assoc, List.singleton_append]
      rfl
    · obtain ⟨a, u, ha, rfl, rfl⟩ := opener_of_readHead (k := .list) hhead
      obtain ⟨w, lists, v, hw, hlen, rfl, rfl, rfl⟩ := elements_of_readItems h
      refine ⟨a, _, v, ha, .list (.intro hw) hlen, ?_, rfl⟩
      rw [List.cons_append, List.append_assoc, List.singleton_append]
      rfl
    · cases h
  complete := by
    intro a w r rest ha hw _
    cases hw with
    | map hw hactions hresources =>
      obtain ⟨hw⟩ := hw
      rw [encode_bracket]
      refine bind_eq_ok.2 ⟨_, readHead_opening ha .map _, ?_⟩
      have hmakes : Draft.Makes ⟨none, none⟩ _ ⟨_, _⟩ := ⟨⟨hactions, rfl⟩, ⟨hresources, rfl⟩⟩
      exact readFields_append hw hmakes (Nat.le_refl _)
    | list hw hlen =>
      obtain ⟨hw⟩ := hw
      rw [encode_bracket]
      refine bind_eq_ok.2 ⟨_, readHead_opening ha .list _, ?_⟩
      exact readItems_append hw hlen rest
  opens := by
    intro w r hw
    cases hw with
    | map hw =>
      obtain ⟨-⟩ := hw
      exact ⟨'{', _, rfl, opens_opener .map⟩
    | list hw =>
      obtain ⟨-⟩ := hw
      exact ⟨'[', _, rfl, opens_opener .list⟩

/-- **Exactly the texts of the format are read, and as what they say.**  A text is a batch request
if and only if it is, blanks around it apart, a map with each of the two lists at most once or a
list of up to two lists; and the request holds the codes as they are written. -/
theorem readWhole_read_eq_ok_iff (t : String) (r : BatchRequest) :
    readWhole read (encode t.toList) = .ok r ↔ Document Format t.toList r :=
  accepts_read.readWhole_eq_ok_iff t.toList r

end AuditLabels.BatchRequest

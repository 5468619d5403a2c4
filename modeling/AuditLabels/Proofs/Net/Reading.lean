import AuditLabels.Proofs.Net.Digits

/-!
# Addresses are read as written

Each reader takes exactly the words of its form off the front of a text, as long as what follows
does not carry the word on.  So an address can be read in one way only.
-/

namespace AuditLabels.Net

/-! ## Addresses of version 4 -/

theorem takeChar_eq_some_iff {c : Char} {cs rest : List Char} :
    takeChar c cs = some rest ↔ cs = c :: rest := by
  cases cs with
  | nil => simp [takeChar]
  | cons d cs =>
    rw [takeChar, List.cons.injEq]
    split
    · next hd => rw [Option.some.injEq, and_iff_right hd]
    · next hd => exact iff_of_false nofun fun h => hd h.1

@[simp] theorem takeChar_cons (c : Char) (cs : List Char) : takeChar c (c :: cs) = some cs :=
  takeChar_eq_some_iff.2 rfl

/-- **An address of version 4 is taken as it is written.** -/
theorem takeV4_eq_some_iff {a b c d : UInt8} {cs rest : List Char} :
    takeV4 cs = some ((a, b, c, d), rest) ↔
      cs = quad a b c d ++ rest ∧ NoDigit Text.digit? rest := by
  have hpoint : ∀ r, NoDigit Text.digit? ('.' :: r) := fun r => noDigit_cons rfl r
  constructor
  · intro h
    simp only [takeV4, Option.bind_eq_bind, Option.bind_eq_some_iff, Prod.exists,
      takeByte_eq_some_iff, takeChar_eq_some_iff, Option.pure_def, Option.some.injEq,
      Prod.mk.injEq] at h
    obtain ⟨_, _, ⟨rfl, -⟩, _, rfl, _, _, ⟨rfl, -⟩, _, rfl, _, _, ⟨rfl, -⟩, _, rfl, _, _,
      ⟨rfl, hr⟩, ⟨rfl, rfl, rfl, rfl⟩, rfl⟩ := h
    refine ⟨?_, hr⟩
    simp only [quad, List.append_assoc, List.cons_append]
  · rintro ⟨rfl, hr⟩
    have hbyte : ∀ (x : UInt8) (r : List Char), NoDigit Text.digit? r →
        takeByte (Nat.toDigits 10 x.toNat ++ r) = some (x, r) :=
      fun x r hr => takeByte_eq_some_iff.2 ⟨rfl, hr⟩
    simp only [takeV4, quad, List.append_assoc, List.cons_append, Option.bind_eq_bind,
      Option.bind_some, hbyte _ _ (hpoint _), hbyte _ _ hr, takeChar_cons,
      Option.pure_def]

/-- No address of version 4 begins without a digit. -/
theorem takeV4_eq_none {cs : List Char} (h : NoDigit Text.digit? cs) : takeV4 cs = none := by
  have hbyte : takeByte cs = none := by
    have hnil : takeByte ([] ++ cs) = _ := takeByte_append nofun h
    rw [List.nil_append, if_pos (.inl rfl)] at hnil
    exact hnil
  rw [takeV4, hbyte]
  rfl

/-! ## Groups -/

section Group

variable {g : UInt16} {w cs rest : List Char}

theorem takeGroup_append (hw : IsGroup w g) (hr : NoDigit Text.hexDigit? rest) :
    takeGroup (w ++ rest) = some (g, rest) := by
  obtain ⟨ds, hds, hne, hlength, hg⟩ := hw
  rw [← ofDigits_eq] at hg
  simp only [takeGroup, takeDigits_append hds hr]
  rw [if_neg (not_or.2 ⟨hne, Nat.not_lt.2 hlength⟩), ← hg, UInt16.ofNat_toNat]

/-- **A group is taken as it is written.** -/
theorem takeGroup_eq_some_iff : takeGroup cs = some (g, rest) ↔
    ∃ w, cs = w ++ rest ∧ IsGroup w g ∧ NoDigit Text.hexDigit? rest := by
  constructor
  · intro h
    obtain ⟨w, ds, r, rfl, hds, hr⟩ := exists_digits Text.hexDigit? cs
    simp only [takeGroup, takeDigits_append hds hr] at h
    split at h
    · cases h
    · next hnot =>
      obtain ⟨rfl, rfl⟩ := Prod.mk.inj (Option.some.inj h)
      rw [not_or, Nat.not_lt] at hnot
      refine ⟨w, rfl, ⟨ds, hds, hnot.1, hnot.2, ?_⟩, hr⟩
      rw [UInt16.toNat_ofNat_of_lt' (ofDigits_lt hds hnot.2), ofDigits_eq]
  · rintro ⟨w, rfl, hw, hr⟩
    exact takeGroup_append hw hr

theorem takeGroup_eq_none (h : NoDigit Text.hexDigit? cs) : takeGroup cs = none := by
  have htake : takeDigits Text.hexDigit? ([] ++ cs) = ([], cs) := takeDigits_append .nil h
  rw [List.nil_append] at htake
  rw [takeGroup, htake]
  rfl

/-- A group is no byte: an address of version 4 does not begin with a group and something else. -/
theorem takeV4_eq_none_of_group (hw : IsGroup w g) (hr : NoDigit Text.hexDigit? rest)
    (hpoint : rest.head? ≠ some '.') : takeV4 (w ++ rest) = none := by
  cases htake : takeV4 (w ++ rest) with
  | none => rfl
  | some found =>
    obtain ⟨⟨a, b, c, d⟩, r⟩ := found
    obtain ⟨hcs, -⟩ := takeV4_eq_some_iff.1 htake
    obtain ⟨ds, hds, -⟩ := hw
    have hbyte := hasDigits_decimal_iff.2 ⟨Text.isDigit_of_mem_toDigits (n := a.toNat), rfl⟩
    have hhex := hbyte.imp fun _ _ => hexDigit?_of_digit?
    -- both are the digits at the front, and behind those of the byte stands the point
    have hdigits := takeDigits_append hds hr
    rw [hcs, quad, List.append_assoc, List.cons_append,
      takeDigits_append hhex (noDigit_cons rfl _)] at hdigits
    obtain ⟨-, rfl⟩ := Prod.mk.inj hdigits
    exact absurd rfl hpoint

end Group

/-- What stands behind groups and does not carry them on. -/
structure Ends (rest : List Char) : Prop where
  no_digit : NoDigit Text.hexDigit? rest
  no_point : rest.head? ≠ some '.'
  no_group : ∀ r, rest = ':' :: r → NoDigit Text.hexDigit? r

theorem takeColon_eq_some_iff {first : Bool} {cs start : List Char} :
    takeColon first cs = some start ↔ cs = separator first ++ start := by
  cases first with
  | true => exact Option.some_inj
  | false => exact takeChar_eq_some_iff

/-- More groups begin with a colon. -/
theorem Groups.front {four : Bool} {v : List Char} {gs : List UInt16}
    (h : Groups false four v gs) : v = [] ∨ ∃ t, v = ':' :: t := by
  cases h with
  | nil => exact .inl rfl
  | quad a b c d => exact .inr ⟨_, rfl⟩
  | cons _ _ => exact .inr ⟨_, rfl⟩

/-- **What is taken as groups is written as groups.** -/
theorem groups_of_takeGroups {limit : Nat} {first four : Bool} {cs rest : List Char}
    {gs : List UInt16} (h : takeGroups limit first cs = (gs, four, rest)) :
    gs.length ≤ limit ∧ ∃ w, cs = w ++ rest ∧ Groups first four w gs := by
  induction limit generalizing first four cs rest gs with
  | zero =>
    cases h
    exact ⟨Nat.le_refl 0, [], rfl, .nil⟩
  | succ limit ih =>
    have hnone : ([], false, cs) = (gs, four, rest) → gs.length ≤ limit + 1 ∧
        ∃ w, cs = w ++ rest ∧ Groups first four w gs := by
      intro h
      cases h
      exact ⟨Nat.zero_le _, [], rfl, .nil⟩
    unfold takeGroups at h
    split at h
    · exact hnone h
    next start hcolon =>
    rw [takeColon_eq_some_iff] at hcolon
    subst hcolon
    split at h
    · next hv4 =>
      cases h
      split at hv4
      · cases hv4
      next hlimit =>
      obtain ⟨rfl, -⟩ := takeV4_eq_some_iff.1 hv4
      refine ⟨Nat.succ_le_succ (Nat.pos_of_ne_zero hlimit), _, ?_, .quad _ _ _ _⟩
      rw [List.append_assoc]
    split at h
    · exact hnone h
    next g rest hgroup =>
    obtain ⟨w, rfl, hw, -⟩ := takeGroup_eq_some_iff.1 hgroup
    cases hmore : takeGroups limit false rest with
    | mk gs more =>
    obtain ⟨hlength, v, rfl, hv⟩ := ih hmore
    rw [hmore] at h
    cases h
    refine ⟨Nat.succ_le_succ hlength, _, ?_, .cons hw hv⟩
    simp only [List.append_assoc]

section Append

variable {first : Bool} {rest : List Char}

/-- Nothing is taken where nothing begins. -/
theorem takeGroups_of_ends (hr : Ends rest) (limit : Nat) :
    takeGroups limit first rest = ([], false, rest) := by
  cases limit with
  | zero => rfl
  | succ limit =>
    unfold takeGroups
    split
    · rfl
    next start hcolon =>
    rw [takeColon_eq_some_iff] at hcolon
    have hstart : NoDigit Text.hexDigit? start := by
      cases first with
      | true =>
        obtain rfl : rest = start := hcolon
        exact hr.no_digit
      | false => exact hr.no_group start hcolon
    rw [takeV4_eq_none hstart.decimal, takeGroup_eq_none hstart, ite_self]

/-- What follows a group of a text does not carry it on. -/
theorem Groups.noDigit_append {four : Bool} {v : List Char} {gs : List UInt16}
    (h : Groups false four v gs) (hr : Ends rest) :
    NoDigit Text.hexDigit? (v ++ rest) ∧ (v ++ rest).head? ≠ some '.' := by
  rcases h.front with rfl | ⟨t, rfl⟩
  · exact ⟨hr.no_digit, hr.no_point⟩
  · exact ⟨noDigit_cons rfl _, by simp⟩

/-- **Groups that are written are taken,** as long as there is room for them. -/
theorem takeGroups_append {four : Bool} {w : List Char} {gs : List UInt16}
    (h : Groups first four w gs) (hr : Ends rest) {limit : Nat} (hlimit : gs.length ≤ limit) :
    takeGroups limit first (w ++ rest) = (gs, four, rest) := by
  induction h generalizing limit with
  | nil => exact takeGroups_of_ends hr limit
  | quad a b c d =>
    obtain ⟨limit, rfl⟩ := Nat.exists_eq_add_of_le' hlimit
    have hv4 : takeV4 (quad a b c d ++ rest) = some ((a, b, c, d), rest) :=
      takeV4_eq_some_iff.2 ⟨rfl, hr.no_digit.decimal⟩
    rw [List.append_assoc]
    simp only [List.length_cons, List.length_nil, takeGroups, takeColon_eq_some_iff.2 rfl, hv4]
    rfl
  | @cons first four w v g gs hw hv ih =>
    obtain ⟨hdigit, hpoint⟩ := hv.noDigit_append hr
    cases limit with
    | zero => cases hlimit
    | succ limit =>
      rw [List.append_assoc, List.append_assoc]
      simp only [takeGroups, takeColon_eq_some_iff.2 rfl, takeV4_eq_none_of_group hw hdigit hpoint,
        ite_self, takeGroup_append hw hdigit, ih (Nat.le_of_succ_le_succ hlimit)]

end Append

/-! ## Addresses of version 6 -/

/-- **What is taken as an address of version 6 is written as one.** -/
theorem isV6_of_takeV6 {cs rest : List Char} {gs : List UInt16}
    (h : takeV6 cs = some (gs, rest)) : ∃ w, cs = w ++ rest ∧ IsV6 w gs := by
  cases hfront : takeGroups 8 true cs with
  | mk front more =>
  obtain ⟨four, cs'⟩ := more
  obtain ⟨hlength, v, rfl, hv⟩ := groups_of_takeGroups hfront
  simp only [takeV6, hfront] at h
  split at h
  · next height =>
    cases h
    exact ⟨v, rfl, .full hv height⟩
  next hshort =>
  split at h
  · cases h
  next hfour =>
  obtain rfl : four = false := Bool.eq_false_iff.2 hfour
  simp only [Option.bind_eq_bind, Option.bind_eq_some_iff, takeChar_eq_some_iff] at h
  obtain ⟨_, rfl, behind, rfl, h⟩ := h
  cases hback : takeGroups (7 - front.length) true behind with
  | mk back more =>
  obtain ⟨four, cs⟩ := more
  obtain ⟨hroom, w, rfl, hw⟩ := groups_of_takeGroups hback
  have hboth : front.length + back.length ≤ 7 := by omega
  rw [hback] at h
  cases h
  refine ⟨v ++ ':' :: ':' :: w, ?_, .short hv hw hboth⟩
  rw [List.append_assoc, List.cons_append, List.cons_append]

theorem ends_zeros (rest : List Char) : Ends (':' :: ':' :: rest) where
  no_digit := noDigit_cons rfl _
  no_point := by simp
  no_group r hr := by
    obtain rfl := List.tail_eq_of_cons_eq hr
    exact noDigit_cons rfl rest

/-- **An address of version 6 that is written is taken.** -/
theorem takeV6_append {w rest : List Char} {gs : List UInt16} (h : IsV6 w gs) (hr : Ends rest) :
    takeV6 (w ++ rest) = some (gs, rest) := by
  cases h with
  | full hgs height =>
    simp only [takeV6, takeGroups_append hgs hr (Nat.le_of_eq height), if_pos height]
    rfl
  | @short four v w front back hfront hback hlength =>
    have htake := takeGroups_append hfront (ends_zeros (w ++ rest))
      (by omega : front.length ≤ 8)
    have hmore := takeGroups_append hback hr (by omega : back.length ≤ 7 - front.length)
    rw [List.append_assoc, List.cons_append, List.cons_append, takeV6]
    simp only [htake, if_neg (by omega : ¬ front.length = 8), takeChar_cons, Option.bind_eq_bind,
      Option.bind_some, hmore]
    rfl

/-! ## Hosts -/

namespace Endpoint

theorem isScope_of_takeScope {cs rest : List Char} {n : Nat} (h : takeScope cs = (n, rest)) :
    ∃ w, cs = w ++ rest ∧ IsScope w (UInt32.ofNat n) := by
  unfold takeScope at h
  cases htake : (takeChar '%' cs).bind (takeNumber 0x100000000) with
  | none =>
    rw [htake] at h
    cases h
    exact ⟨[], rfl, .none⟩
  | some found =>
    rw [htake] at h
    obtain rfl : found = (n, rest) := h
    obtain ⟨behind, hchar, hnumber⟩ := Option.bind_eq_some_iff.1 htake
    rw [takeChar_eq_some_iff] at hchar
    obtain ⟨w, rfl, hw, hlt, -⟩ := takeNumber_eq_some_iff.1 hnumber
    refine ⟨'%' :: w, hchar, .number ?_⟩
    rw [UInt32.toNat_ofNat_of_lt' hlt, hw]

theorem ends_scope {w : List Char} {scope : UInt32} (h : IsScope w scope) (rest : List Char) :
    Ends (w ++ ']' :: rest) := by
  cases h with
  | none => exact ⟨noDigit_cons rfl rest, by simp, nofun⟩
  | number hw => exact ⟨noDigit_cons rfl _, by simp, nofun⟩

theorem takeScope_append {w rest : List Char} {scope : UInt32} (h : IsScope w scope)
    (hr : NoDigit Text.digit? rest) (hpercent : rest.head? ≠ some '%') :
    takeScope (w ++ rest) = (scope.toNat, rest) := by
  cases h with
  | none =>
    have hchar : takeChar '%' rest = none := by
      cases hchar : takeChar '%' rest with
      | none => rfl
      | some r => exact absurd (congrArg List.head? (takeChar_eq_some_iff.1 hchar)) hpercent
    rw [List.nil_append, takeScope, hchar]
    rfl
  | number hw =>
    rw [List.cons_append, takeScope, takeChar_cons, Option.bind_some,
      takeNumber_eq_some_iff.2 ⟨_, rfl, hw, scope.toNat_lt, hr⟩, Option.getD_some]

/-- **What is taken as a host is written as one.** -/
theorem isHost_of_takeHost {cs rest : List Char} {ip : Ip} {n : Nat}
    (h : takeHost cs = some ((ip, n), rest)) :
    ∃ w, cs = w ++ rest ∧ IsHost w ip (UInt32.ofNat n) := by
  unfold takeHost at h
  split at h
  · next hv4 =>
    cases h
    exact ⟨_, (takeV4_eq_some_iff.1 hv4).1, .v4 _ _ _ _⟩
  · simp only [Option.bind_eq_bind, Option.bind_eq_some_iff, Prod.exists, takeChar_eq_some_iff,
      Option.pure_def, Option.some.injEq, Prod.mk.injEq] at h
    obtain ⟨_, rfl, gs, behind, hv6, r, hchar, ⟨rfl, hscope⟩, rfl⟩ := h
    obtain ⟨w, rfl, hw⟩ := isV6_of_takeV6 hv6
    obtain ⟨s, hbehind, hs⟩ := isScope_of_takeScope (Prod.ext hscope hchar)
    refine ⟨_, ?_, .v6 hw hs⟩
    rw [hbehind]
    simp only [List.append_assoc, List.cons_append, List.nil_append]

/-- **A host that is written is taken.** -/
theorem takeHost_append {w rest : List Char} {ip : Ip} {scope : UInt32} (h : IsHost w ip scope)
    (hr : NoDigit Text.digit? rest) :
    takeHost (w ++ rest) = some ((ip, scope.toNat), rest) := by
  cases h with
  | v4 a b c d =>
    rw [takeHost, takeV4_eq_some_iff.2 ⟨rfl, hr⟩]
    rfl
  | @v6 w s gs _ hw hs =>
    have hbracket : NoDigit Text.digit? (']' :: rest) := noDigit_cons rfl rest
    have hv6 := takeV6_append hw (ends_scope hs rest)
    have hscope := takeScope_append hs hbracket (by simp)
    have htext : '[' :: (w ++ (s ++ [']'])) ++ rest = '[' :: (w ++ (s ++ ']' :: rest)) := by
      simp only [List.append_assoc, List.cons_append, List.nil_append]
    rw [htext, takeHost, takeV4_eq_none (noDigit_cons rfl _)]
    simp only [takeChar_cons, hv6, hscope, Option.bind_eq_bind, Option.bind_some,
      Option.pure_def]

/-- **An endpoint is read exactly from a host, a colon and the digits of a port.** -/
theorem parse?_eq_some_iff {s : String} {e : Endpoint} :
    parse? s = some e ↔ ∃ host port, s.toList = host ++ ':' :: port ∧
      IsHost host e.ip e.scope ∧ Text.digits? port = some e.port.toNat := by
  have hcolon : ∀ r, NoDigit Text.digit? (':' :: r) := fun r => noDigit_cons rfl r
  constructor
  · intro h
    simp only [parse?, Option.bind_eq_bind, Option.bind_eq_some_iff, Prod.exists,
      takeChar_eq_some_iff] at h
    obtain ⟨ip, scope, _, hhost, behind, rfl, n, cs, hport, h⟩ := h
    obtain ⟨host, hs, hwritten⟩ := isHost_of_takeHost hhost
    obtain ⟨port, rfl, hn, hlt, -⟩ := takeNumber_eq_some_iff.1 hport
    split at h
    · next hend =>
      obtain rfl := List.isEmpty_iff.1 hend
      obtain rfl := Option.some.inj h
      rw [List.append_nil] at hs
      refine ⟨host, port, hs, hwritten, ?_⟩
      rw [UInt16.toNat_ofNat_of_lt' hlt, hn]
    · cases h
  · rintro ⟨host, port, hs, hhost, hport⟩
    have hnumber : takeNumber 0x10000 port = some (e.port.toNat, []) :=
      takeNumber_eq_some_iff.2 ⟨port, (List.append_nil port).symm, hport, e.port.toNat_lt, nofun⟩
    rw [parse?, hs, takeHost_append hhost (hcolon port)]
    simp only [Option.bind_eq_bind, Option.bind_some, takeChar_cons, hnumber,
      List.isEmpty_nil, if_pos, UInt32.ofNat_toNat, UInt16.ofNat_toNat]

end Endpoint

end AuditLabels.Net

import AuditLabels.Proofs.Net.Reading
import AuditLabels.Text.Blank

/-!
# What a host looks like

A host is made of digits and points, or it stands in brackets that hold no other brackets and no
blanks.  So names, addresses of version 6 without brackets, and hosts with a port are no hosts.
-/

namespace AuditLabels.Net

/-! ## Characters -/

/-- A character of an address of version 4. -/
def IsOuter (c : Char) : Prop := c.isDigit = true ∨ c = '.'

/-- A character between the brackets. -/
def isInner (c : Char) : Bool := (Text.hexDigit? c).isSome || c == ':' || c == '.' || c == '%'

theorem isInner_of_hexDigit? {c : Char} {d : Nat} (h : Text.hexDigit? c = some d) :
    isInner c = true := by
  rw [isInner, h]
  rfl

theorem IsOuter.isInner {c : Char} (h : IsOuter c) : isInner c = true := by
  rcases h with hc | rfl
  · exact isInner_of_hexDigit? (hexDigit?_of_digit? (Text.digit?_of_isDigit hc))
  · rfl

theorem toNat_lt_of_isInner {c : Char} (h : isInner c = true) : c.toNat < 0x80 := by
  simp only [isInner, Bool.or_eq_true, beq_iff_eq] at h
  rcases h with ((h | rfl) | rfl) | rfl
  · obtain ⟨d, hd⟩ := Option.isSome_iff_exists.1 h
    exact Text.toNat_lt_of_hexDigit? hd
  all_goals decide

/-- Between the brackets there are no blanks and no brackets. -/
theorem isInner_spec {c : Char} (h : isInner c = true) :
    Text.isBlank c = false ∧ c ≠ '[' ∧ c ≠ ']' := by
  have hascii : ∀ n < 0x80, isInner (Char.ofNat n) = true →
      Text.isBlank (Char.ofNat n) = false ∧ Char.ofNat n ≠ '[' ∧ Char.ofNat n ≠ ']' := by
    decide +kernel
  have hc := hascii c.toNat (toNat_lt_of_isInner h)
  rw [Char.ofNat_toNat] at hc
  exact hc h

/-! ## Addresses -/

theorem isOuter_of_mem_quad {a b c d : UInt8} {x : Char} (h : x ∈ quad a b c d) : IsOuter x := by
  have hbyte : ∀ b : UInt8, x ∈ Nat.toDigits 10 b.toNat → IsOuter x :=
    fun b hx => .inl (Text.isDigit_of_mem_toDigits x hx)
  simp only [quad, List.mem_append, List.mem_cons] at h
  rcases h with h | rfl | h | rfl | h | rfl | h
  · exact hbyte a h
  · exact .inr rfl
  · exact hbyte b h
  · exact .inr rfl
  · exact hbyte c h
  · exact .inr rfl
  · exact hbyte d h

theorem isInner_of_mem_group {w : List Char} {g : UInt16} (h : IsGroup w g) {c : Char}
    (hc : c ∈ w) : isInner c = true := by
  obtain ⟨ds, hds, -⟩ := h
  obtain ⟨i, hi, rfl⟩ := List.getElem_of_mem hc
  exact isInner_of_hexDigit? (hds.get hi (hds.length_eq ▸ hi))

theorem isInner_of_mem_separator {first : Bool} {c : Char} (h : c ∈ separator first) :
    isInner c = true := by
  cases first with
  | true => cases h
  | false =>
    obtain rfl := List.mem_singleton.1 h
    rfl

theorem isInner_of_mem_groups {first four : Bool} {w : List Char} {gs : List UInt16}
    (h : Groups first four w gs) : ∀ c ∈ w, isInner c = true := by
  induction h with
  | nil => nofun
  | quad a b c d =>
    exact List.forall_mem_append.2
      ⟨fun _ => isInner_of_mem_separator, fun _ hx => (isOuter_of_mem_quad hx).isInner⟩
  | cons hw _ ih =>
    exact List.forall_mem_append.2 ⟨fun _ => isInner_of_mem_separator,
      List.forall_mem_append.2 ⟨fun _ => isInner_of_mem_group hw, ih⟩⟩

theorem isInner_of_mem_v6 {w : List Char} {gs : List UInt16} (h : IsV6 w gs) :
    ∀ c ∈ w, isInner c = true := by
  cases h with
  | full hgs _ => exact isInner_of_mem_groups hgs
  | short hfront hback _ =>
    exact List.forall_mem_append.2 ⟨isInner_of_mem_groups hfront,
      List.forall_mem_cons.2 ⟨rfl, List.forall_mem_cons.2 ⟨rfl, isInner_of_mem_groups hback⟩⟩⟩

theorem isInner_of_mem_scope {w : List Char} {scope : UInt32} (h : IsScope w scope) :
    ∀ c ∈ w, isInner c = true := by
  cases h with
  | none => nofun
  | number hw =>
    have hdigits := (Text.digits?_eq_some_iff.1 hw).2.1
    exact List.forall_mem_cons.2 ⟨rfl, fun c hc => IsOuter.isInner (.inl (hdigits c hc))⟩

/-! ## Hosts -/

/-- **A host stands in brackets or is made of digits and points.** -/
theorem IsHost.shape {w : List Char} {ip : Ip} {scope : UInt32} (h : IsHost w ip scope) :
    (w ≠ [] ∧ ∀ c ∈ w, IsOuter c) ∨ ∃ v, w = '[' :: (v ++ [']']) ∧ ∀ c ∈ v, isInner c = true := by
  cases h with
  | v4 a b c d =>
    refine .inl ⟨?_, fun _ => isOuter_of_mem_quad⟩
    exact List.append_ne_nil_of_right_ne_nil _ (List.cons_ne_nil _ _)
  | @v6 w s gs _ hw hs =>
    refine .inr ⟨w ++ s, by rw [List.append_assoc], ?_⟩
    exact List.forall_mem_append.2 ⟨isInner_of_mem_v6 hw, isInner_of_mem_scope hs⟩

/-- Texts that may be taken for hosts. -/
inductive Lookalike : List Char → Prop
  | empty : Lookalike []
  /-- Something else than digits and points, without brackets. -/
  | name {w : List Char} {c : Char} : w.head? ≠ some '[' → c ∈ w → ¬ IsOuter c → Lookalike w
  | bare {w : List Char} {gs : List UInt16} : IsV6 w gs → Lookalike w
  | with_port {w port : List Char} {ip : Ip} {scope : UInt32} : IsHost w ip scope →
      Lookalike (w ++ ':' :: port)
  | padded {w : List Char} {c : Char} : c ∈ w → Text.isBlank c = true → Lookalike w

/-- No address of version 4 has a colon. -/
theorem not_isOuter_colon : ¬ IsOuter ':' := by
  rintro (h | h) <;> simp at h

/-- Groups behind others begin with a colon. -/
theorem Groups.colon_mem {four : Bool} {v : List Char} {gs : List UInt16}
    (h : Groups false four v gs) (hgs : gs ≠ []) : ':' ∈ v := by
  cases h with
  | nil => exact absurd rfl hgs
  | quad a b c d => exact List.mem_cons_self
  | cons _ _ => exact List.mem_cons_self

theorem IsV6.colon_mem {w : List Char} {gs : List UInt16} (h : IsV6 w gs) : ':' ∈ w := by
  cases h with
  | full hgs height =>
    cases hgs with
    | nil => cases height
    | quad a b c d => cases height
    | cons _ hmore =>
      have hne := List.ne_nil_of_length_eq_add_one (Nat.succ.inj height)
      exact List.mem_append_right _ (List.mem_append_right _ (hmore.colon_mem hne))
  | short _ _ _ => exact List.mem_append_right _ List.mem_cons_self

/-- A bracket does not stand between brackets. -/
theorem not_isInner_bracket : ¬ isInner '[' = true := by decide

theorem not_isHost_of_isV6 {w : List Char} {gs : List UInt16} (hw : IsV6 w gs) (ip : Ip)
    (scope : UInt32) : ¬ IsHost w ip scope := by
  intro hhost
  rcases hhost.shape with ⟨-, houter⟩ | ⟨v, rfl, -⟩
  · exact not_isOuter_colon (houter ':' hw.colon_mem)
  · exact not_isInner_bracket (isInner_of_mem_v6 hw '[' List.mem_cons_self)

/-- The bracket at the end of a host would stand between the brackets of the longer one. -/
theorem IsHost.not_isHost_append {w : List Char} {ip : Ip} {scope : UInt32}
    (hw : IsHost w ip scope) (port : List Char) (ip' : Ip) (scope' : UInt32) :
    ¬ IsHost (w ++ ':' :: port) ip' scope' := by
  intro hhost
  rcases hhost.shape with ⟨-, houter⟩ | ⟨v, hv, hinner⟩
  · exact not_isOuter_colon (houter ':' (List.mem_append_right w List.mem_cons_self))
  rcases hw.shape with ⟨hne, houter⟩ | ⟨u, rfl, -⟩
  · obtain ⟨c, w, rfl⟩ := List.exists_cons_of_ne_nil hne
    obtain rfl := (List.cons.inj hv).1
    exact not_isInner_bracket (houter '[' List.mem_cons_self).isInner
  · have hbehind : v ++ [']'] = u ++ ']' :: ':' :: port := by
      simpa using hv.symm
    have hdrop := congrArg List.dropLast hbehind
    rw [List.dropLast_concat, List.dropLast_append_of_ne_nil (List.cons_ne_nil _ _),
      List.dropLast_cons_cons] at hdrop
    have hmem : ']' ∈ v := hdrop ▸ List.mem_append_right u List.mem_cons_self
    exact (isInner_spec (hinner _ hmem)).2.2 rfl

theorem IsHost.not_isBlank {w : List Char} {ip : Ip} {scope : UInt32} (h : IsHost w ip scope) :
    ∀ c ∈ w, Text.isBlank c = false := by
  rcases h.shape with ⟨-, houter⟩ | ⟨v, rfl, hinner⟩
  · exact fun c hc => (isInner_spec (houter c hc).isInner).1
  · exact List.forall_mem_cons.2 ⟨rfl, List.forall_mem_append.2
      ⟨fun c hc => (isInner_spec (hinner c hc)).1, List.forall_mem_singleton.2 rfl⟩⟩

/-- **They are no hosts.** -/
theorem Lookalike.not_isHost {w : List Char} (h : Lookalike w) (ip : Ip) (scope : UInt32) :
    ¬ IsHost w ip scope := by
  intro hhost
  cases h with
  | empty =>
    rcases hhost.shape with ⟨hne, -⟩ | ⟨v, hv, -⟩
    · exact hne rfl
    · cases hv
  | name hfront hc hnot =>
    rcases hhost.shape with ⟨-, houter⟩ | ⟨v, rfl, -⟩
    · exact hnot (houter _ hc)
    · exact hfront rfl
  | bare hw => exact not_isHost_of_isV6 hw ip scope hhost
  | with_port hw => exact hw.not_isHost_append _ ip scope hhost
  | padded hc hblank =>
    rw [hhost.not_isBlank _ hc] at hblank
    cases hblank

end AuditLabels.Net

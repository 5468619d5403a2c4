import AuditLabels.Http.MediaType
import AuditLabels.Proofs.Text.Pieces

/-!
# Content types that say JSON

Which content types make a body JSON, said without cutting them up.  The type is `application`, and
the subtype has the word `json` in one of three places: it is the word, it ends in a plus sign and
the word, or the word stands in front of its last plus sign.
-/

namespace AuditLabels.Http.MediaType

open Text

/-! ## Subtypes -/

/-- A subtype with the word `json` by itself, as its suffix, or in front of its suffix. -/
inductive JsonSubtype : List Char → Prop
  | word {w : List Char} : isJsonWord w = true → JsonSubtype w
  | suffix {b w : List Char} : b ≠ [] → isJsonWord w = true → JsonSubtype (b ++ '+' :: w)
  | base {w x : List Char} : isJsonWord w = true → '+' ∉ x → JsonSubtype (w ++ '+' :: x)

/-- A sign that is no letter is not in the word. -/
theorem not_mem_of_isJsonWord {w : List Char} (hw : isJsonWord w = true) {c : Char}
    (hc : asciiLower c ∉ ['j', 's', 'o', 'n']) : c ∉ w := by
  intro hmem
  have hword : w.map asciiLower = ['j', 's', 'o', 'n'] := of_decide_eq_true hw
  have hlower : asciiLower c ∈ w.map asciiLower := List.mem_map_of_mem hmem
  rw [hword] at hlower
  exact hc hlower

theorem ne_nil_of_isJsonWord {w : List Char} (hw : isJsonWord w = true) : w ≠ [] := by
  rintro rfl
  exact absurd hw (by decide)

/-- A text with a plus sign has a last one. -/
theorem exists_last_plus {cs : List Char} (h : '+' ∈ cs) :
    ∃ b x, cs = b ++ '+' :: x ∧ '+' ∉ x := by
  obtain ⟨x, b, hrev, hx⟩ := List.eq_append_cons_of_mem (List.mem_reverse.2 h)
  refine ⟨b.reverse, x.reverse, ?_, ?_⟩
  · have hcs := congrArg List.reverse hrev
    rw [List.reverse_reverse, List.reverse_append, List.reverse_cons, List.append_assoc] at hcs
    exact hcs
  · rw [List.mem_reverse]
    exact hx

/-- Going backwards, characters without a plus sign are passed over. -/
theorem ne_plus_of_not_mem {x : List Char} (hx : '+' ∉ x) :
    ∀ c ∈ x.reverse, (c != '+') = true := by
  intro c hc
  rw [bne_iff_ne]
  rintro rfl
  exact hx (List.mem_reverse.1 hc)

/-- A subtype is cut at its last plus sign, unless nothing stands before it. -/
theorem splitSuffix_append {b x : List Char} (hx : '+' ∉ x) :
    splitSuffix (b ++ '+' :: x) = if b = [] then ('+' :: x, none) else (b, some x) := by
  have hrev : (b ++ '+' :: x).reverse = x.reverse ++ '+' :: b.reverse := by
    rw [List.reverse_append, List.reverse_cons, List.append_assoc]
    rfl
  have hspan := span_append (r := '+' :: b.reverse) (ne_plus_of_not_mem hx) (by simp)
  unfold splitSuffix
  rw [hrev, hspan.1, hspan.2, List.reverse_reverse]
  by_cases hb : b = []
  · rw [if_pos hb, hb]
    rfl
  · rw [if_neg hb]
    obtain ⟨c, before, hcons⟩ := List.exists_cons_of_ne_nil (mt List.reverse_eq_nil_iff.1 hb)
    rw [hcons]
    dsimp only
    rw [← hcons, List.reverse_reverse]

theorem splitSuffix_of_not_mem {cs : List Char} (h : '+' ∉ cs) : splitSuffix cs = (cs, none) := by
  unfold splitSuffix
  rw [(span_self (ne_plus_of_not_mem h)).2]

/-- **The cut subtype has the word where the whole one has it.** -/
theorem isJsonSubtype_iff (cs : List Char) : isJsonSubtype cs = true ↔ JsonSubtype cs := by
  have hplus : ∀ {w : List Char}, isJsonWord w = true → '+' ∉ w :=
    fun hw => not_mem_of_isJsonWord hw (by decide)
  unfold isJsonSubtype
  constructor
  · intro h
    by_cases hmem : '+' ∈ cs
    · obtain ⟨b, x, rfl, hx⟩ := exists_last_plus hmem
      rw [splitSuffix_append hx] at h
      by_cases hb : b = []
      -- a plus sign in front belongs to the subtype, which is then not the word
      · rw [if_pos hb] at h
        simp only [Option.any_none, Bool.or_false] at h
        exact absurd List.mem_cons_self (hplus h)
      · rw [if_neg hb] at h
        simp only [Option.any_some, Bool.or_eq_true] at h
        rcases h with h | h
        · exact .base h hx
        · exact .suffix hb h
    · rw [splitSuffix_of_not_mem hmem] at h
      simp only [Option.any_none, Bool.or_false] at h
      exact .word h
  · intro h
    cases h with
    | word hw =>
      rw [splitSuffix_of_not_mem (hplus hw)]
      simp only [hw, Bool.true_or]
    | suffix hb hw =>
      rw [splitSuffix_append (hplus hw), if_neg hb]
      simp only [Option.any_some, hw, Bool.or_true]
    | base hw hx =>
      rw [splitSuffix_append hx, if_neg (ne_nil_of_isJsonWord hw)]
      simp only [hw, Bool.true_or]

/-! ## Media types -/

/-- A media type that says JSON: the type, the subtype, and maybe parameters behind a semicolon. -/
inductive JsonType : List Char → Prop
  | intro {t s p : List Char} : t.map asciiLower = "application".toList → JsonSubtype s →
      (∀ c ∈ s, Method.isTokenChar c = true) →
      p = [] ∨ (∃ q, p = ';' :: q ∧ areParameters .start q = true) → JsonType (t ++ '/' :: (s ++ p))

theorem JsonSubtype.ne_nil {cs : List Char} (h : JsonSubtype cs) : cs ≠ [] := by
  cases h with
  | word hw => exact ne_nil_of_isJsonWord hw
  | suffix => exact List.append_ne_nil_of_right_ne_nil _ (List.cons_ne_nil _ _)
  | base => exact List.append_ne_nil_of_right_ne_nil _ (List.cons_ne_nil _ _)

/-- **Exactly the media types of the form say JSON.** -/
theorem isJson_iff (cs : List Char) : isJson cs = true ↔ JsonType cs := by
  unfold isJson
  constructor
  · intro h
    rcases dropWhile_eq_nil_or (· != '/') cs with hd | ⟨c, rest, hd, hc⟩
    · rw [hd] at h
      cases h
    rw [hd] at h
    obtain rfl : c = '/' := by simpa using hc
    simp only [Bool.and_eq_true, decide_eq_true_eq, List.all_eq_true, isJsonSubtype_iff] at h
    obtain ⟨⟨⟨⟨htype, -⟩, htokens⟩, hsub⟩, htail⟩ := h
    have hcs : cs = cs.takeWhile (· != '/') ++ '/' ::
        (rest.takeWhile (· != ';') ++ rest.dropWhile (· != ';')) := by
      rw [List.takeWhile_append_dropWhile, ← hd, List.takeWhile_append_dropWhile]
    rw [hcs]
    refine .intro htype hsub htokens ?_
    rcases dropWhile_eq_nil_or (· != ';') rest with hp | ⟨d, q, hp, hd⟩
    · exact .inl hp
    · rw [hp] at htail ⊢
      obtain rfl : d = ';' := by simpa using hd
      exact .inr ⟨q, rfl, htail⟩
  · rintro @⟨t, s, p, htype, hsub, htokens, hp⟩
    -- neither sign that cuts a media type stands before the place where it cuts
    have ht : ∀ c ∈ t, (c != '/') = true := by
      intro c hc
      rw [bne_iff_ne]
      rintro rfl
      have hlower : asciiLower '/' ∈ t.map asciiLower := List.mem_map_of_mem hc
      rw [htype] at hlower
      exact absurd hlower (by decide)
    have hs : ∀ c ∈ s, (c != ';') = true := by
      intro c hc
      rw [bne_iff_ne]
      rintro rfl
      exact absurd (htokens _ hc) (by decide)
    have hcut := span_append (r := '/' :: (s ++ p)) ht (by simp)
    have hstop : ∀ c ∈ p.head?, (c != ';') = false := by
      rcases hp with rfl | ⟨q, rfl, -⟩
      · simp
      · simp
    have hcut' := span_append hs hstop
    have htail : isTail p = true := by
      rcases hp with rfl | ⟨q, rfl, hq⟩
      · rfl
      · exact hq
    rw [hcut.1, hcut.2]
    dsimp only
    rw [hcut'.1, hcut'.2, htype, List.isEmpty_eq_false_iff.2 hsub.ne_nil,
      List.all_eq_true.2 htokens, (isJsonSubtype_iff s).2 hsub, htail]
    rfl

/-- The first content type of the request is one that says JSON. -/
def SaysJson (r : Request) : Prop :=
  ∃ v cs, r.header? "content-type" = some v ∧ visibleText? v = some cs ∧ JsonType cs

theorem saysJson_iff (r : Request) : saysJson r = true ↔ SaysJson r := by
  unfold saysJson SaysJson
  cases hv : r.header? "content-type" with
  | none => simp
  | some v =>
    cases hcs : visibleText? v with
    | none => simp [hcs]
    | some cs => simp [hcs, isJson_iff]

end AuditLabels.Http.MediaType

import AuditLabels.Text.Blank

/-!
# Pieces of texts

Where a text is cut: behind its first characters of one kind, at the blanks around it, or at every
separator.  The pieces between separators are the parts of the text that hold none and have one, or
an end of the text, on either side.
-/

namespace AuditLabels.Text

/-! ## The first characters of a kind -/

/-- Characters of a kind in front of one of another kind are cut off there. -/
theorem span_append {p : Char → Bool} {a r : List Char} (ha : ∀ c ∈ a, p c = true)
    (hr : ∀ c ∈ r.head?, p c = false) :
    (a ++ r).takeWhile p = a ∧ (a ++ r).dropWhile p = r := by
  rw [List.takeWhile_append_of_pos ha, List.dropWhile_append_of_pos ha]
  cases r with
  | nil => exact ⟨List.append_nil a, rfl⟩
  | cons c r =>
    have hc : ¬ p c = true := by
      rw [hr c rfl]
      exact Bool.false_ne_true
    rw [List.takeWhile_cons_of_neg hc, List.dropWhile_cons_of_neg hc, List.append_nil]
    exact ⟨rfl, rfl⟩

/-- A text of one kind is not cut. -/
theorem span_self {p : Char → Bool} {a : List Char} (ha : ∀ c ∈ a, p c = true) :
    a.takeWhile p = a ∧ a.dropWhile p = [] := by
  have hspan := span_append (r := []) ha (by simp)
  rw [List.append_nil] at hspan
  exact hspan

/-- A text has one first separator. -/
theorem eq_of_first {sep : Char} {a b r s : List Char} (ha : sep ∉ a) (hb : sep ∉ b)
    (h : a ++ sep :: r = b ++ sep :: s) : a = b ∧ r = s := by
  have hother : ∀ {x : List Char}, sep ∉ x → ∀ c ∈ x, (c != sep) = true :=
    fun hx c hc => bne_iff_ne.2 fun heq => hx (heq ▸ hc)
  obtain ⟨htake, hdrop⟩ := span_append (r := sep :: r) (hother ha) (by simp)
  obtain ⟨htake', hdrop'⟩ := span_append (r := sep :: s) (hother hb) (by simp)
  rw [h] at htake hdrop
  exact ⟨htake.symm.trans htake', (List.cons.inj (hdrop.symm.trans hdrop')).2⟩

/-- What is left behind the first characters of a kind is empty or begins with one of another. -/
theorem dropWhile_eq_nil_or (p : Char → Bool) (cs : List Char) :
    cs.dropWhile p = [] ∨ ∃ c r, cs.dropWhile p = c :: r ∧ p c = false := by
  cases hd : cs.dropWhile p with
  | nil => exact .inl rfl
  | cons c r =>
    have hhead := List.head?_dropWhile_not p cs
    rw [hd] at hhead
    exact .inr ⟨c, r, rfl, by simpa using hhead⟩

/-! ## Blanks around a text -/

/-- The text is the other one with blanks around it. -/
def IsPadded (cs core : List Char) : Prop :=
  ∃ a b, cs = a ++ (core ++ b) ∧ (∀ c ∈ a, isBlank c = true) ∧ ∀ c ∈ b, isBlank c = true

theorem trimStart_append {a : List Char} (ha : ∀ c ∈ a, isBlank c = true) (cs : List Char) :
    trimStart (a ++ cs) = trimStart cs :=
  List.dropWhile_append_of_pos ha

theorem trimEnd_append {b : List Char} (hb : ∀ c ∈ b, isBlank c = true) (cs : List Char) :
    trimEnd (cs ++ b) = trimEnd cs := by
  have hreverse : ∀ c ∈ b.reverse, isBlank c = true := by
    intro c hc
    exact hb c (List.mem_reverse.1 hc)
  rw [trimEnd, trimEnd, List.reverse_append, List.dropWhile_append_of_pos hreverse]

/-- **Blanks around a text do not count.** -/
theorem trim_of_isPadded {cs core : List Char} (h : IsPadded cs core) : trim cs = trim core := by
  obtain ⟨a, b, rfl, ha, hb⟩ := h
  rw [trim, trimStart_append ha]
  rcases dropWhile_eq_nil_or isBlank core with hnil | ⟨c, r, hcons, hc⟩
  · -- there is nothing but blanks, in the text and behind it
    have hspan : core.takeWhile isBlank ++ core.dropWhile isBlank = core :=
      List.takeWhile_append_dropWhile
    rw [hnil, List.append_nil] at hspan
    have hcore : ∀ c ∈ core, isBlank c = true := by
      intro c hc
      rw [← hspan] at hc
      exact List.all_eq_true.1 List.all_takeWhile c hc
    have hall : ∀ c ∈ core ++ b, isBlank c = true := by
      intro c hc
      rcases List.mem_append.1 hc with hc | hc
      · exact hcore c hc
      · exact hb c hc
    rw [trim_eq_nil_of_all hcore]
    exact trim_eq_nil_of_all hall
  · have hstart : trimStart (core ++ b) = trimStart core ++ b := by
      unfold trimStart
      rw [List.dropWhile_append, hcons]
      rfl
    rw [hstart, trimEnd_append hb]
    rfl

/-- A text is itself with no blanks around it. -/
theorem isPadded_self (cs : List Char) : IsPadded cs cs :=
  ⟨[], [], by simp, by simp, by simp⟩

/-- A text is its trim with blanks around it. -/
theorem isPadded_trim (cs : List Char) : IsPadded cs (trim cs) := by
  have hstart : cs.takeWhile isBlank ++ trimStart cs = cs := List.takeWhile_append_dropWhile
  have hend : trim cs ++ ((trimStart cs).reverse.takeWhile isBlank).reverse = trimStart cs := by
    rw [trim, trimEnd, ← List.reverse_append, List.takeWhile_append_dropWhile, List.reverse_reverse]
  refine ⟨cs.takeWhile isBlank, ((trimStart cs).reverse.takeWhile isBlank).reverse, ?_, ?_, ?_⟩
  · rw [hend, hstart]
  · intro c hc
    exact List.all_eq_true.1 List.all_takeWhile c hc
  · intro c hc
    exact List.all_eq_true.1 List.all_takeWhile c (List.mem_reverse.1 hc)

/-- A text that is left of another one without the blanks around it: it neither starts nor ends with
a blank. -/
structure IsTrim (cs core : List Char) : Prop where
  padded : IsPadded cs core
  first : ∀ c, core.head? = some c → isBlank c = false
  last : ∀ c, core.getLast? = some c → isBlank c = false

theorem not_isBlank_of_head?_dropWhile (cs : List Char) {c : Char}
    (h : (cs.dropWhile isBlank).head? = some c) : isBlank c = false := by
  rcases dropWhile_eq_nil_or isBlank cs with hnil | ⟨d, r, hcons, hd⟩
  · rw [hnil] at h
    cases h
  · rw [hcons] at h
    obtain rfl := Option.some.inj h
    exact hd

theorem isTrim_trim (cs : List Char) : IsTrim cs (trim cs) where
  padded := isPadded_trim cs
  first := by
    intro c hc
    -- what is cut off at the end leaves the front as it is
    have hprefix : trim cs <+: trimStart cs := by
      have hsuffix := List.dropWhile_suffix isBlank (l := (trimStart cs).reverse)
      rw [← List.reverse_prefix, List.reverse_reverse] at hsuffix
      exact hsuffix
    obtain ⟨b, hb⟩ := hprefix
    apply not_isBlank_of_head?_dropWhile cs
    show (trimStart cs).head? = some c
    rw [← hb, List.head?_append, hc, Option.some_or]
  last := by
    intro c hc
    apply not_isBlank_of_head?_dropWhile (trimStart cs).reverse
    rw [trim, trimEnd, List.getLast?_reverse] at hc
    exact hc

/-- **Every text has one trim.** -/
theorem isTrim_iff {cs core : List Char} : IsTrim cs core ↔ core = trim cs := by
  constructor
  · intro h
    rw [trim_of_isPadded h.padded, trim_eq_self h.first h.last]
  · rintro rfl
    exact isTrim_trim cs

/-- A text without blanks is its own trim. -/
theorem trim_of_forall_not {cs : List Char} (h : ∀ c ∈ cs, isBlank c = false) : trim cs = cs := by
  refine trim_eq_self (fun c hc => ?_) (fun c hc => ?_)
  · exact h c (List.mem_of_head? hc)
  · exact h c (List.mem_of_getLast? hc)

/-! ## Pieces between separators -/

/-- A text without separators is one piece. -/
theorem split_of_not_mem {sep : Char} {cs : List Char} (h : sep ∉ cs) : split sep cs = [cs] := by
  induction cs with
  | nil => rfl
  | cons c cs ih =>
    rw [List.mem_cons, not_or] at h
    rw [split, if_neg (Ne.symm h.1), ih h.2]

/-- The pieces of a text, with the separators between them, are the text. -/
theorem intercalate_split (sep : Char) (cs : List Char) :
    [sep].intercalate (split sep cs) = cs := by
  induction cs with
  | nil => rfl
  | cons c cs ih =>
    obtain ⟨piece, pieces, hsplit⟩ := List.exists_cons_of_ne_nil (split_ne_nil sep cs)
    rw [hsplit] at ih
    by_cases hc : c = sep
    · rw [split, if_pos hc, hsplit, List.intercalate_cons_cons, ih, hc]
      rfl
    · rw [split, if_neg hc, hsplit, ← ih]
      cases pieces with
      | nil => rw [List.intercalate_singleton, List.intercalate_singleton]
      | cons next pieces =>
        rw [List.intercalate_cons_cons, List.intercalate_cons_cons]
        rfl

/-- Texts with the same pieces are the same. -/
theorem eq_of_split_eq {sep : Char} {cs ds : List Char} (h : split sep cs = split sep ds) :
    cs = ds := by
  rw [← intercalate_split sep cs, h, intercalate_split]

/-- Pieces without separators are told apart when they are joined. -/
theorem split_intercalate {sep : Char} {pieces : List (List Char)} (hne : pieces ≠ [])
    (h : ∀ p ∈ pieces, sep ∉ p) : split sep ([sep].intercalate pieces) = pieces := by
  induction pieces with
  | nil => exact absurd rfl hne
  | cons piece pieces ih =>
    have hpiece : split sep piece = [piece] := split_of_not_mem (h piece List.mem_cons_self)
    cases pieces with
    | nil => rw [List.intercalate_singleton, hpiece]
    | cons next pieces =>
      have hrest : split sep ([sep].intercalate (next :: pieces)) = next :: pieces :=
        ih (List.cons_ne_nil _ _) fun p hp => h p (List.mem_cons_of_mem _ hp)
      rw [List.intercalate_cons_cons, List.append_assoc, List.singleton_append, split_append_cons,
        hpiece, hrest]
      rfl

/-- A part of a text that holds no separator and has one, or an end of the text, on either side. -/
def IsPiece (sep : Char) (cs p : List Char) : Prop :=
  sep ∉ p ∧ ∃ a b, cs = a ++ (p ++ b) ∧ (a = [] ∨ ∃ a', a = a' ++ [sep]) ∧
    (b = [] ∨ ∃ b', b = sep :: b')

/-- A piece of the text behind a separator is a piece of the whole text. -/
theorem IsPiece.behind {sep : Char} {cs p : List Char} (h : IsPiece sep cs p) (w : List Char) :
    IsPiece sep (w ++ sep :: cs) p := by
  obtain ⟨hp, a, b, rfl, ha, hb⟩ := h
  refine ⟨hp, w ++ sep :: a, b, by simp, ?_, hb⟩
  rcases ha with rfl | ⟨a', rfl⟩
  · exact .inr ⟨w, rfl⟩
  · exact .inr ⟨w ++ sep :: a', by simp⟩

/-- What is split off is a piece.  By induction on the length: the first separator cuts off the
first piece. -/
theorem isPiece_of_mem_split {sep : Char} {cs p : List Char} (h : p ∈ split sep cs) :
    IsPiece sep cs p := by
  induction hn : cs.length using Nat.strongRecOn generalizing cs with
  | ind n ih =>
    by_cases hmem : sep ∈ cs
    · obtain ⟨w, r, rfl, hw⟩ := List.eq_append_cons_of_mem hmem
      rw [split_append_cons, split_of_not_mem hw, List.singleton_append, List.mem_cons] at h
      rcases h with rfl | h
      · exact ⟨hw, [], sep :: r, rfl, .inl rfl, .inr ⟨r, rfl⟩⟩
      · have hlt : r.length < n := by
          rw [← hn, List.length_append, List.length_cons]
          omega
        exact (ih r.length hlt h rfl).behind w
    · rw [split_of_not_mem hmem, List.mem_singleton] at h
      subst h
      exact ⟨hmem, [], [], by simp, .inl rfl, .inl rfl⟩

/-- **Splitting gives exactly the pieces.** -/
theorem mem_split_iff {sep : Char} {cs p : List Char} : p ∈ split sep cs ↔ IsPiece sep cs p := by
  refine ⟨isPiece_of_mem_split, ?_⟩
  rintro ⟨hp, a, b, rfl, ha, hb⟩
  have hfront : p ∈ split sep (p ++ b) := by
    rcases hb with rfl | ⟨b', rfl⟩
    · rw [List.append_nil, split_of_not_mem hp]
      exact List.mem_singleton_self p
    · rw [split_append_cons, split_of_not_mem hp]
      exact List.mem_cons_self
  rcases ha with rfl | ⟨a', rfl⟩
  · exact hfront
  · rw [List.append_assoc, List.singleton_append, split_append_cons]
    exact List.mem_append_right _ hfront

end AuditLabels.Text

import AuditLabels.Text.Lowercase

/-!
# Words in any case

Which texts have a given lower case.  No letter from outside of ASCII becomes a small ASCII letter
by itself, but for the Kelvin sign, which becomes a `k`; so an ASCII word without a `k` is the lower
case of ASCII texts only.
-/

namespace AuditLabels.Text

/-! ## ASCII -/

/-- The code point of the character with a code point. -/
theorem toNat_ofNat_of_isValidChar {n : Nat} (h : n.isValidChar) : (Char.ofNat n).toNat = n := by
  rw [Char.ofNat, dif_pos h]
  rfl

/-- The short mapping is the one that only looks at ASCII. -/
theorem asciiLower_eq_toLower (c : Char) : asciiLower c = c.toLower := by
  unfold asciiLower Char.toLower
  by_cases h : 'A' ≤ c ∧ c ≤ 'Z'
  · have hval : c.val ≥ 'A'.val ∧ c.val ≤ 'Z'.val := h
    have hle : c.toNat ≤ 90 := UInt32.le_iff_toNat_le.1 h.2
    rw [if_pos h, dif_pos hval]
    apply Char.toNat_inj.1
    have hvalid : (c.toNat + 32).isValidChar := .inl (by omega)
    have hsum : (c.val + ('a'.val - 'A'.val)).toNat = c.toNat + 32 := by
      rw [UInt32.toNat_add]
      show (c.toNat + 32) % 4294967296 = c.toNat + 32
      omega
    rw [toNat_ofNat_of_isValidChar hvalid]
    exact hsum.symm
  · have hval : ¬ (c.val ≥ 'A'.val ∧ c.val ≤ 'Z'.val) := h
    rw [if_neg h, dif_neg hval]

/-- Only an ASCII letter becomes a small ASCII letter in ASCII. -/
theorem toNat_lt_of_toLower {c : Char} (h : c.toLower.toNat < 0x80) : c.toNat < 0x80 := by
  rw [← asciiLower_eq_toLower, asciiLower] at h
  split at h
  · next hc =>
    have hle : c.toNat ≤ 90 := UInt32.le_iff_toNat_le.1 hc.2
    omega
  · exact h

theorem lower_of_forall_lt {cs : List Char} (h : ∀ c ∈ cs, c.toNat < 0x80) :
    lower cs = cs.map Char.toLower := by
  induction cs with
  | nil => rfl
  | cons c cs ih =>
    have hc : lowerChar c = [c.toLower] := by
      rw [lowerChar_of_lt (h c List.mem_cons_self), asciiLower_eq_toLower]
    have hcs := ih fun d hd => h d (List.mem_cons_of_mem c hd)
    rw [lower, List.flatMap_cons, hc, List.map_cons, ← hcs]
    rfl

/-! ## Outside of ASCII -/

/-- The letters of the run stay outside of ASCII, or the run is the Kelvin sign. -/
def CaseRun.Stays (run : CaseRun) : Prop :=
  (run.first = 0x212A ∧ run.last = 0x212A ∧ run.shift = -8383) ∨
    0x80 ≤ run.first + run.shift ∧ (run.last + run.shift < 0xD800 ∨
      0xE000 ≤ run.first + run.shift ∧ run.last + run.shift < 0x110000)

theorem stays_of_mem_caseRuns : ∀ run ∈ caseRuns, run.Stays := by
  unfold CaseRun.Stays
  decide +kernel

theorem CaseRun.Stays.lower {run : CaseRun} (h : run.Stays) {n : Nat}
    (hn : run.contains n = true) :
    0x80 ≤ (Char.ofNat (n + run.shift).toNat).toNat ∨ Char.ofNat (n + run.shift).toNat = 'k' := by
  simp only [CaseRun.contains, Bool.and_eq_true, decide_eq_true_iff] at hn
  obtain ⟨⟨hfirst, hlast⟩, -⟩ := hn
  rcases h with ⟨hf, hl, hs⟩ | ⟨hlow, hhigh⟩
  · right
    obtain rfl : n = 0x212A := by omega
    rw [hs]
    rfl
  · left
    have hvalid : (n + run.shift).toNat.isValidChar := by
      rcases hhigh with hhigh | ⟨hlow', hhigh⟩
      · exact .inl (by omega)
      · exact .inr ⟨by omega, by omega⟩
    rw [toNat_ofNat_of_isValidChar hvalid]
    omega

/-- A letter from outside of ASCII leaves a sign of it. -/
theorem exists_mem_lowerChar {c : Char} (hc : 0x80 ≤ c.toNat) :
    ∃ d ∈ lowerChar c, 0x80 ≤ d.toNat ∨ d = 'k' := by
  rw [lowerChar, if_neg (by omega)]
  split
  · exact ⟨Char.ofNat 0x307, by simp, .inl (by decide)⟩
  · split
    · next run hrun =>
      have hstays := stays_of_mem_caseRuns run (List.mem_of_find?_eq_some hrun)
      have hcontains := List.find?_some hrun
      exact ⟨_, List.mem_singleton_self _, hstays.lower hcontains⟩
    · exact ⟨c, List.mem_singleton_self c, .inl hc⟩

/-! ## Words -/

/-- **All of Unicode adds no spelling.**  A text has an ASCII word without a `k` for its lower case
exactly if it is that word up to the case of ASCII letters. -/
theorem lower_eq_iff {cs word : List Char} (hword : ∀ d ∈ word, d.toNat < 0x80 ∧ d ≠ 'k') :
    lower cs = word ↔ cs.map Char.toLower = word := by
  constructor
  · intro h
    have hascii : ∀ c ∈ cs, c.toNat < 0x80 := by
      intro c hc
      rcases Nat.lt_or_ge c.toNat 0x80 with hlt | hlarge
      · exact hlt
      obtain ⟨d, hd, hsign⟩ := exists_mem_lowerChar hlarge
      have hmem : d ∈ lower cs := List.mem_flatMap.2 ⟨c, hc, hd⟩
      rw [h] at hmem
      obtain ⟨hlt, hk⟩ := hword d hmem
      rcases hsign with hsign | hsign
      · omega
      · exact absurd hsign hk
    rw [← lower_of_forall_lt hascii, h]
  · intro h
    have hascii : ∀ c ∈ cs, c.toNat < 0x80 := by
      intro c hc
      have hmem : c.toLower ∈ word := h ▸ List.mem_map_of_mem hc
      exact toNat_lt_of_toLower (hword _ hmem).1
    rw [lower_of_forall_lt hascii, h]

end AuditLabels.Text

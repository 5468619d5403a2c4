import AuditLabels.RateLimit.Bucket

/-!
# Quotas of rates

Which rates can be kept.  A rate is refused if it lets nothing in, in a second or at once, or if its
tokens come faster than one in a nanosecond.
-/

namespace AuditLabels

/-- The rate lets something in, and its tokens are at least a nanosecond apart. -/
structure Rate.Kept (r : Rate) : Prop where
  some_in_second : 0 < r.perSecond.toNat
  one_in_nanosecond : r.perSecond.toNat ≤ 1000000000
  some_at_once : 0 < r.burst.toNat

theorem Rate.interval?_eq_some_iff {r : Rate} {d : Nat} :
    r.interval? = some d ↔
      d = 1000000000 / r.perSecond.toNat ∧ 0 < r.perSecond.toNat ∧
        r.perSecond.toNat ≤ 1000000000 := by
  have hzero : r.perSecond = 0 ↔ r.perSecond.toNat = 0 := UInt32.toNat_inj.symm
  have hnanos : nanosPerSecond = 1000000000 := rfl
  unfold Rate.interval?
  rw [hnanos]
  dsimp only
  by_cases hsome : r.perSecond = 0
  · rw [if_pos hsome, if_pos rfl]
    have hnone := hzero.1 hsome
    constructor
    · intro h
      cases h
    · rintro ⟨-, hpos, -⟩
      omega
  · rw [if_neg hsome]
    have hpos : 0 < r.perSecond.toNat := Nat.pos_of_ne_zero (mt hzero.2 hsome)
    by_cases hle : r.perSecond.toNat ≤ 1000000000
    · have hd : 0 < 1000000000 / r.perSecond.toNat := Nat.div_pos hle hpos
      rw [if_neg (by omega), Option.some.injEq]
      constructor
      · intro h
        exact ⟨h.symm, hpos, hle⟩
      · rintro ⟨h, -, -⟩
        exact h.symm
    · have hd : 1000000000 / r.perSecond.toNat = 0 := Nat.div_eq_of_lt (by omega)
      rw [if_pos hd]
      constructor
      · intro h
        cases h
      · rintro ⟨-, -, h⟩
        exact absurd h hle

/-- **A rate has a quota exactly if it can be kept.** -/
theorem Quota.exists_ofRate?_iff (r : Rate) : (∃ q, ofRate? r = some q) ↔ r.Kept := by
  unfold ofRate?
  cases hd : r.interval? with
  | none =>
    constructor
    · rintro ⟨q, h⟩
      cases h
    · rintro ⟨hpos, hle, -⟩
      rw [Rate.interval?_eq_some_iff.2 ⟨rfl, hpos, hle⟩] at hd
      cases hd
  | some d =>
    obtain ⟨hval, hpos, hle⟩ := Rate.interval?_eq_some_iff.1 hd
    have hinterval : 0 < d := by
      rw [hval]
      exact Nat.div_pos hle hpos
    dsimp only
    constructor
    · rintro ⟨q, h⟩
      split at h
      · next hquota => exact ⟨hpos, hle, hquota.2⟩
      · cases h
    · rintro ⟨-, -, hburst⟩
      exact ⟨_, dif_pos ⟨hinterval, hburst⟩⟩

end AuditLabels

import AuditLabels.RateLimit.Bucket

/-!
# Bursts

How many tokens a bucket gives while no time passes.  The time at which the next token is due
counts the tokens that have been taken, one interval for each, so a full bucket gives exactly as
many tokens as its quota allows at once, and one that refuses stays as it is.
-/

namespace AuditLabels

/-! ## Quotas of rates -/

namespace Quota

/-- A quota allows as many tokens at once as the rate says. -/
theorem burst_of_ofRate?_eq_some {r : Rate} {q : Quota} (h : ofRate? r = some q) :
    q.burst = r.burst.toNat := by
  unfold ofRate? at h
  split at h
  · cases h
  · split at h
    · cases h
      rfl
    · cases h

/-- A bucket lasts for `k` intervals exactly if it holds `k` tokens. -/
theorem mul_interval_le_tolerance_iff (q : Quota) (k : Nat) :
    k * q.interval ≤ q.tolerance ↔ k ≤ q.burst := by
  rw [tolerance, Nat.mul_comm q.interval, Nat.mul_le_mul_right_iff q.interval_pos]

end Quota

/-! ## Tokens taken at one time -/

namespace Bucket

/-- What is left of a full bucket behind `k` tokens, all of them taken at the time `t`. -/
def Spent (q : Quota) (t k : Nat) (b : Bucket) : Prop := b.due q t = t + (k + 1) * q.interval

/-- Nothing has been taken from a full bucket. -/
theorem spent_full (q : Quota) (t : Nat) : Spent q t 0 full := by
  show t + q.interval = t + (0 + 1) * q.interval
  rw [Nat.zero_add, Nat.one_mul]

/-- A bucket from which fewer tokens were taken than it holds gives one more. -/
theorem take_of_lt {q : Quota} {t k : Nat} {b : Bucket} (hb : Spent q t k b) (hk : k < q.burst) :
    ∃ rest, b.take q t = some rest ∧ Spent q t (k + 1) rest := by
  have hdue : b.due q t = t + (k + 1) * q.interval := hb
  have hle : (k + 1) * q.interval ≤ q.tolerance := (q.mul_interval_le_tolerance_iff _).2 hk
  have hnot : ¬ t < b.due q t - q.tolerance := by
    rw [hdue]
    omega
  refine ⟨⟨some (max (b.due q t) t + q.interval)⟩, ?_, ?_⟩
  · rw [take, if_neg hnot]
  · show max (b.due q t) t + q.interval = t + (k + 1 + 1) * q.interval
    rw [hdue, Nat.add_mul (k + 1) 1, Nat.one_mul]
    omega

/-- A bucket from which as many tokens were taken as it holds gives none. -/
theorem take_of_le {q : Quota} {t k : Nat} {b : Bucket} (hb : Spent q t k b) (hk : q.burst ≤ k) :
    b.take q t = none := by
  have hdue : b.due q t = t + (k + 1) * q.interval := hb
  have hlt : q.tolerance < (k + 1) * q.interval := by
    rw [← Nat.not_le, q.mul_interval_le_tolerance_iff]
    omega
  have hpos : t < b.due q t - q.tolerance := by
    rw [hdue]
    omega
  rw [take, if_pos hpos]

end Bucket

end AuditLabels

import Mathlib
import AuditLabels.Proofs.RateLimit.Burst
import AuditLabels.Proofs.RateLimit.Quota

/-!
# How fast tokens come

The time from one token to the next is a whole number of nanoseconds, the largest one at which a
second still brings all the tokens of the rate.  So whoever keeps to the rate is never refused, and
whoever does not gets less than twice of it: both are told by the time at which the next token is
due, which every token puts off by at least one interval.
-/

namespace AuditLabels

/-! ## Intervals -/

theorem Rate.not_kept_iff (r : Rate) :
    ¬ r.Kept ↔
      r.perSecond.toNat = 0 ∨ 1000000000 < r.perSecond.toNat ∨ r.burst.toNat = 0 := by
  constructor
  · intro h
    by_contra hnone
    exact h ⟨by omega, by omega, by omega⟩
  · rintro h ⟨hpos, hle, hburst⟩
    omega

namespace Quota

theorem ofRate?_eq_some_iff {r : Rate} {q : Quota} :
    ofRate? r = some q ↔ r.interval? = some q.interval ∧ q.burst = r.burst.toNat := by
  constructor
  · intro h
    refine ⟨?_, burst_of_ofRate?_eq_some h⟩
    unfold ofRate? at h
    split at h
    · cases h
    · next d hd =>
      split at h
      · obtain rfl := Option.some.inj h
        exact hd
      · cases h
  · rintro ⟨hinterval, hburst⟩
    have hpos : 0 < q.interval ∧ 0 < r.burst.toNat := ⟨q.interval_pos, hburst ▸ q.burst_pos⟩
    rw [ofRate?, hinterval]
    dsimp only
    rw [dif_pos hpos]
    cases q
    simp_all

theorem interval_of_ofRate? {r : Rate} {q : Quota} (h : ofRate? r = some q) :
    q.interval = 1000000000 / r.perSecond.toNat ∧ 0 < r.perSecond.toNat ∧
      r.perSecond.toNat ≤ 1000000000 :=
  Rate.interval?_eq_some_iff.1 (ofRate?_eq_some_iff.1 h).1

/-- Tokens of a higher rate do not come later. -/
theorem interval_antitone {r r' : Rate} {q q' : Quota} (h : ofRate? r = some q)
    (h' : ofRate? r' = some q') (hle : r.perSecond.toNat ≤ r'.perSecond.toNat) :
    q'.interval ≤ q.interval := by
  obtain ⟨hq, hpos, -⟩ := interval_of_ofRate? h
  obtain ⟨hq', -, -⟩ := interval_of_ofRate? h'
  rw [hq, hq']
  exact Nat.div_le_div_left hle hpos

/-- A second brings all the tokens of the rate. -/
theorem interval_mul_le {r : Rate} {q : Quota} (h : ofRate? r = some q) :
    q.interval * r.perSecond.toNat ≤ 1000000000 := by
  rw [(interval_of_ofRate? h).1]
  exact Nat.div_mul_le_self _ _

/-- A second brings less than twice the tokens of the rate: rounding an interval down takes less
than half of it away. -/
theorem lt_two_mul_interval {r : Rate} {q : Quota} (h : ofRate? r = some q) :
    1000000000 < 2 * (q.interval * r.perSecond.toNat) := by
  obtain ⟨hq, hpos, hle⟩ := interval_of_ofRate? h
  have hround : 1000000000 < (q.interval + 1) * r.perSecond.toNat := by
    rw [hq, Nat.mul_comm]
    exact Nat.lt_mul_div_succ _ hpos
  have hone : r.perSecond.toNat ≤ q.interval * r.perSecond.toNat :=
    Nat.le_mul_of_pos_left _ q.interval_pos
  rw [Nat.add_mul, Nat.one_mul] at hround
  omega

theorem interval_le {r : Rate} {q : Quota} (h : ofRate? r = some q) : q.interval ≤ 1000000000 := by
  rw [(interval_of_ofRate? h).1]
  exact Nat.div_le_self _ _

/-- Tokens for which the rate leaves the time come within that time. -/
theorem mul_interval_le {r : Rate} {q : Quota} (h : ofRate? r = some q) {k time : Nat}
    (hk : k * 1000000000 ≤ r.perSecond.toNat * time) : k * q.interval ≤ time := by
  obtain ⟨-, hpos, -⟩ := interval_of_ofRate? h
  have hsecond := Nat.mul_le_mul_left k (interval_mul_le h)
  refine Nat.le_of_mul_le_mul_right ?_ hpos
  rw [Nat.mul_assoc, Nat.mul_comm time]
  exact le_trans hsecond hk

/-- Tokens that come within a time are less than twice those of the rate. -/
theorem mul_lt_of_mul_interval_le {r : Rate} {q : Quota} (h : ofRate? r = some q) {k time : Nat}
    (hpos : 0 < k) (hk : k * q.interval ≤ time) :
    k * 1000000000 < 2 * r.perSecond.toNat * time := by
  have hsecond := Nat.mul_lt_mul_of_pos_left (lt_two_mul_interval h) hpos
  have htime := Nat.mul_le_mul_left (2 * r.perSecond.toNat) hk
  have heq : k * (2 * (q.interval * r.perSecond.toNat)) =
      2 * r.perSecond.toNat * (k * q.interval) := by ring
  exact lt_of_lt_of_le hsecond (heq ▸ htime)

/-- What a full bucket holds and more besides. -/
theorem mul_interval_eq (q : Quota) {n : Nat} (h : q.burst ≤ n) :
    n * q.interval = (n - q.burst) * q.interval + q.tolerance := by
  rw [tolerance, Nat.mul_comm q.interval, ← Nat.add_mul, Nat.sub_add_cancel h]

/-- The time that a full bucket lasts is a number of 64 bits. -/
theorem tolerance_lt {r : Rate} {q : Quota} (h : ofRate? r = some q) : q.tolerance < 2 ^ 64 := by
  have hburst : q.burst ≤ 2 ^ 32 := by
    rw [burst_of_ofRate?_eq_some h]
    exact Nat.le_of_lt r.burst.toNat_lt
  calc q.tolerance ≤ 1000000000 * 2 ^ 32 := Nat.mul_le_mul (interval_le h) hburst
    _ < 2 ^ 64 := by norm_num

end Quota

/-! ## Tokens taken over time -/

namespace Bucket

/-- The times at which there is a token, among the times at which one is asked for. -/
def served (q : Quota) (b : Bucket) : List Nat → List Nat
  | [] => []
  | t :: ts => match b.take q t with
    | some rest => t :: served q rest ts
    | none => served q b ts

theorem served_of_take_eq_some {q : Quota} {b rest : Bucket} {t : Nat} {ts : List Nat}
    (h : b.take q t = some rest) : b.served q (t :: ts) = t :: rest.served q ts := by
  rw [served, h]

theorem served_of_take_eq_none {q : Quota} {b : Bucket} {t : Nat} {ts : List Nat}
    (h : b.take q t = none) : b.served q (t :: ts) = b.served q ts := by
  rw [served, h]

/-- A token is there if the next one is due within the time that a bucket lasts. -/
theorem take_eq_some_iff {q : Quota} {b rest : Bucket} {t : Nat} :
    b.take q t = some rest ↔
      b.due q t ≤ t + q.tolerance ∧ rest = ⟨some (max (b.due q t) t + q.interval)⟩ := by
  unfold take
  split
  · refine iff_of_false nofun ?_
    rintro ⟨hle, -⟩
    omega
  · rw [Option.some.injEq]
    constructor
    · intro h
      exact ⟨by omega, h.symm⟩
    · rintro ⟨-, h⟩
      exact h.symm

/-- **Every token puts off the next one.**  The token with the number `j` is not given before `j`
intervals have come on top of what is due, less the time that a bucket lasts. -/
theorem le_of_mem_served {q : Quota} {due : Nat} {ts : List Nat} {j t : Nat}
    (ht : (served q ⟨some due⟩ ts)[j]? = some t) : due + j * q.interval ≤ t + q.tolerance := by
  induction ts generalizing due j with
  | nil => cases ht
  | cons u ts ih =>
    cases htake : take q u ⟨some due⟩ with
    | none =>
      rw [served_of_take_eq_none htake] at ht
      exact ih ht
    | some rest =>
      rw [served_of_take_eq_some htake] at ht
      obtain ⟨hle, rfl⟩ := take_eq_some_iff.1 htake
      have hdue : (⟨some due⟩ : Bucket).due q u = due := rfl
      rw [hdue] at hle ht
      cases j with
      | zero =>
        obtain rfl := Option.some.inj ht
        omega
      | succ j =>
        have hnext := ih ht
        rw [Nat.add_mul, Nat.one_mul]
        omega

/-- **A bucket gives no more than its burst and one token in every interval.**  Between two tokens
with the numbers `i` and `j` lie as many intervals as the burst leaves of them. -/
theorem window_of_served {q : Quota} {b : Bucket} {ts : List Nat} {i j s t : Nat} (hij : i ≤ j)
    (hs : (b.served q ts)[i]? = some s) (ht : (b.served q ts)[j]? = some t) :
    s + (j - i) * q.interval ≤ t + q.tolerance := by
  induction ts generalizing b i j with
  | nil => cases hs
  | cons u ts ih =>
    cases htake : b.take q u with
    | none =>
      rw [served_of_take_eq_none htake] at hs ht
      exact ih hij hs ht
    | some rest =>
      rw [served_of_take_eq_some htake] at hs ht
      cases i with
      | succ i =>
        obtain ⟨k, rfl⟩ : ∃ k, j = k + 1 := ⟨j - 1, by omega⟩
        rw [Nat.add_sub_add_right]
        exact ih (by omega) hs ht
      | zero =>
        obtain rfl := Option.some.inj hs
        cases j with
        | zero =>
          obtain rfl := Option.some.inj ht
          omega
        -- what is given later is put off by the token given here
        | succ j =>
          obtain ⟨-, rfl⟩ := take_eq_some_iff.1 htake
          have hnext := le_of_mem_served ht
          rw [Nat.sub_zero, Nat.add_mul, Nat.one_mul]
          omega

/-- The times leave an interval for every token but those of the burst. -/
def Paced (q : Quota) (ts : List Nat) : Prop :=
  ∀ i j s t, i ≤ j → ts[i]? = some s → ts[j]? = some t →
    s + (j - i + 1) * q.interval ≤ t + q.tolerance

theorem Paced.tail {q : Quota} {t : Nat} {ts : List Nat} (h : Paced q (t :: ts)) : Paced q ts := by
  intro i j s u hij hs hu
  have hnext := h (i + 1) (j + 1) s u (by omega) hs hu
  rw [Nat.add_sub_add_right] at hnext
  exact hnext

/-- A bucket whose next token is due early enough serves all times that leave their intervals. -/
theorem served_of_due {q : Quota} {due : Nat} {ts : List Nat}
    (hdue : ∀ (j t : Nat), ts[j]? = some t → due + j * q.interval ≤ t + q.tolerance)
    (hts : Paced q ts) : served q ⟨some due⟩ ts = ts := by
  induction ts generalizing due with
  | nil => rfl
  | cons t ts ih =>
    have hle : due ≤ t + q.tolerance := by
      have h := hdue 0 t rfl
      omega
    have htake : take q t ⟨some due⟩ = some ⟨some (max due t + q.interval)⟩ :=
      take_eq_some_iff.2 ⟨hle, rfl⟩
    rw [served_of_take_eq_some htake]
    congr 1
    refine ih ?_ hts.tail
    intro j u hu
    -- the next token is due one interval behind what was due, or behind the time just served
    have hlate := hdue (j + 1) u hu
    have hearly := hts 0 (j + 1) t u (Nat.zero_le _) rfl hu
    rw [Nat.add_mul, Nat.one_mul] at hlate
    rw [Nat.sub_zero, Nat.add_mul (j + 1), Nat.add_mul j, Nat.one_mul] at hearly
    omega

/-- **A full bucket serves all times that leave their intervals.** -/
theorem served_full {q : Quota} {ts : List Nat} (hts : Paced q ts) : full.served q ts = ts := by
  cases ts with
  | nil => rfl
  | cons t ts =>
    have hle : t + q.interval ≤ t + q.tolerance := by
      have h := hts 0 0 t t le_rfl rfl rfl
      omega
    have htake : take q t full = some ⟨some (max (t + q.interval) t + q.interval)⟩ :=
      take_eq_some_iff.2 ⟨hle, rfl⟩
    rw [served_of_take_eq_some htake]
    congr 1
    refine served_of_due ?_ hts.tail
    intro j u hu
    have hearly := hts 0 (j + 1) t u (Nat.zero_le _) rfl hu
    rw [Nat.sub_zero, Nat.add_mul (j + 1), Nat.add_mul j, Nat.one_mul] at hearly
    omega

end Bucket

/-! ## Rates over time -/

/-- Requests at these times keep to the rate: from any of them to any later one, there are no more
than the burst and what the rate brings in the meantime. -/
structure Rate.Allows (r : Rate) (times : List Nat) : Prop where
  ascending : times.Pairwise (· ≤ ·)
  window : ∀ i j s t, i ≤ j → times[i]? = some s → times[j]? = some t →
    (j - i + 1) * 1000000000 ≤ r.burst.toNat * 1000000000 + r.perSecond.toNat * (t - s)

/-- Requests that keep to a rate leave the intervals of its quota. -/
theorem Rate.Allows.paced {r : Rate} {q : Quota} {times : List Nat} (h : r.Allows times)
    (hq : Quota.ofRate? r = some q) : Bucket.Paced q times := by
  intro i j s t hij hs ht
  have hwindow := h.window i j s t hij hs ht
  rw [← Quota.burst_of_ofRate?_eq_some hq] at hwindow
  have hst : s ≤ t := by
    obtain ⟨hi, rfl⟩ := List.getElem?_eq_some_iff.1 hs
    obtain ⟨hj, rfl⟩ := List.getElem?_eq_some_iff.1 ht
    rcases Nat.lt_or_eq_of_le hij with hlt | rfl
    · exact List.pairwise_iff_getElem.1 h.ascending i j hi hj hlt
    · exact le_rfl
  rcases Nat.le_total (j - i + 1) q.burst with hle | hle
  · have hburst := (q.mul_interval_le_tolerance_iff _).2 hle
    omega
  -- the requests on top of the burst need no more time than there is
  · have hmore : (j - i + 1 - q.burst) * q.interval ≤ t - s := by
      refine Quota.mul_interval_le hq ?_
      rw [Nat.sub_mul]
      exact tsub_le_iff_left.2 hwindow
    rw [q.mul_interval_eq hle]
    omega

/-- How a rate is kept by a quota: a second brings at least the tokens of the rate and less than
twice as many, and so does any other time between requests. -/
structure Rate.KeptBy (r : Rate) (q : Quota) : Prop where
  interval_pos : 1 ≤ q.interval
  interval_le : q.interval ≤ 1000000000
  not_stricter : q.interval * r.perSecond.toNat ≤ 1000000000
  under_twice : 1000000000 < 2 * (q.interval * r.perSecond.toNat)
  tolerance_eq : q.tolerance = q.interval * r.burst.toNat
  tolerance_lt : q.tolerance < 2 ^ 64
  /-- Requests that keep to the rate are all served. -/
  serves : ∀ times, r.Allows times → Bucket.full.served q times = times
  /-- From any token that is given to any later one, those on top of the first and the burst are
  less than twice what the rate brings. -/
  limits : ∀ b times i j s t, (Bucket.served q b times)[i]? = some s →
    (Bucket.served q b times)[j]? = some t → i + r.burst.toNat < j →
    (j - i - r.burst.toNat) * 1000000000 < 2 * r.perSecond.toNat * (t - s)

/-- **A rate is kept.**  Nobody who keeps to it is refused, and nobody gets twice of it. -/
theorem Rate.keptBy_of_ofRate? {r : Rate} {q : Quota} (h : Quota.ofRate? r = some q) :
    r.KeptBy q where
  interval_pos := q.interval_pos
  interval_le := Quota.interval_le h
  not_stricter := Quota.interval_mul_le h
  under_twice := Quota.lt_two_mul_interval h
  tolerance_eq := by rw [Quota.tolerance, Quota.burst_of_ofRate?_eq_some h]
  tolerance_lt := Quota.tolerance_lt h
  serves times hallows := Bucket.served_full (hallows.paced h)
  limits b times i j s t hs ht hij := by
    rw [← Quota.burst_of_ofRate?_eq_some h] at hij ⊢
    have hwindow := Bucket.window_of_served (by omega) hs ht
    rw [q.mul_interval_eq (n := j - i) (by omega)] at hwindow
    exact Quota.mul_lt_of_mul_interval_le h (by omega) (by omega)

end AuditLabels

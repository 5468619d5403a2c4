import AuditLabels.Proofs.RateLimit.Pace
import AuditLabels.Proofs.Service.Setup

/-!
# The rate of a service

Setting up a service refuses exactly the rates that cannot be kept, and the service keeps the rate
of its configuration: it is never stricter, it never gives twice of it, and the times it computes
with have 64 bits.
-/

namespace AuditLabels

namespace Service

/-- The only error of the configuration that setting up tells is a rate that cannot be kept. -/
theorem told_error_iff (c : Config) :
    (∃ e reason, (ofConfig c).2 = .error e ∧ e.failure? = some (.configuration reason)) ↔
      ¬ c.rate.Kept := by
  by_cases hkept : c.rate.Kept
  · refine iff_of_false ?_ fun hnot => hnot hkept
    rintro ⟨e, reason, he, hreason⟩
    obtain ⟨quota, hsetup⟩ := ofConfig_of_kept hkept
    rw [hsetup] at he
    cases hcors : (CorsPolicy.ofConfig? c).2 with
    | none =>
      rw [hcors] at he
      obtain rfl := Except.error.inj he
      cases hreason
    | some cors =>
      rw [hcors] at he
      cases he
  · refine iff_of_true ⟨.badRate c.rate, _, ?_, rfl⟩ hkept
    rw [ofConfig_of_not_kept hkept]

/-- **A service keeps the rate of its configuration.**  Setting up is refused exactly for a rate of
nothing, of more than a thousand million in a second, or without a burst.  Every other rate is kept
by the quota of the service, and the tokens of a higher rate do not come later. -/
theorem ofConfig_keeps_rate (c : Config) :
    ((∃ e reason, (ofConfig c).2 = .error e ∧ e.failure? = some (.configuration reason)) ↔
      c.rate.perSecond.toNat = 0 ∨ 1000000000 < c.rate.perSecond.toNat ∨
        c.rate.burst.toNat = 0) ∧
    (c.rate.Kept → ∃ q, Quota.ofRate? c.rate = some q ∧ c.rate.KeptBy q ∧
      (∀ s, (ofConfig c).2 = .ok s → s.quota = q) ∧
      ∀ r' q', Quota.ofRate? r' = some q' → c.rate.perSecond.toNat ≤ r'.perSecond.toNat →
        q'.interval ≤ q.interval) := by
  refine ⟨?_, ?_⟩
  · rw [told_error_iff, Rate.not_kept_iff]
  · intro hkept
    obtain ⟨q, hq⟩ := (Quota.exists_ofRate?_iff c.rate).2 hkept
    refine ⟨q, hq, Rate.keptBy_of_ofRate? hq, ?_, ?_⟩
    · intro s hs
      have hquota := ofRate?_of_ofConfig_eq_ok hs
      rw [hq] at hquota
      exact (Option.some.inj hquota).symm
    · intro r' q' hq' hle
      exact Quota.interval_antitone hq hq' hle

/-- Three in a second and as many at once as can be said: a third of a second is rounded down, and
the time that a full bucket lasts still has 64 bits. -/
theorem ofConfig_keeps_rate_thirds :
    (⟨3, 4294967295⟩ : Rate).Kept ∧
      ∃ q, Quota.ofRate? ⟨3, 4294967295⟩ = some q ∧ q.interval = 333333333 ∧
        q.tolerance < 2 ^ 64 ∧
        ∀ s, (ofConfig ⟨"audit-labels", .production, "127.0.0.1", 1, ⟨3, 4294967295⟩, []⟩).2 =
          .ok s → s.quota = q := by
  have hkept : (⟨3, 4294967295⟩ : Rate).Kept := ⟨by decide, by decide, by decide⟩
  obtain ⟨q, hq, hby, hquota, -⟩ :=
    (ofConfig_keeps_rate ⟨"audit-labels", .production, "127.0.0.1", 1, ⟨3, 4294967295⟩, []⟩).2 hkept
  refine ⟨hkept, q, hq, ?_, hby.tolerance_lt, hquota⟩
  exact (Quota.interval_of_ofRate? hq).1

end Service

end AuditLabels

import AuditLabels.Config.Basic

/-!
# Rate limits

One bucket of tokens is shared by all clients.  It holds up to `burst` tokens and gains one in every
interval, and a request that finds it empty is refused.  The bucket is kept as a single time, at
which the next token would be due if every token so far had been taken at its turn: a request is
refused while that time is more than a whole bucket ahead.
-/

namespace AuditLabels

/-! ## Quotas -/

/-- The nanoseconds of a second. -/
def nanosPerSecond : Nat := 1000000000

/-- The whole nanoseconds from one token to the next, if the rate leaves any. -/
def Rate.interval? (r : Rate) : Option Nat :=
  let d := if r.perSecond = 0 then 0 else nanosPerSecond / r.perSecond.toNat
  if d = 0 then none else some d

/-- How tokens come: one in every interval, up to a burst of them. -/
structure Quota where
  interval : Nat
  burst : Nat
  interval_pos : 0 < interval
  burst_pos : 0 < burst

namespace Quota

/-- The quota of a rate, unless the rate never or always lets requests in. -/
def ofRate? (r : Rate) : Option Quota :=
  match r.interval? with
  | none => none
  | some d =>
    if h : 0 < d ∧ 0 < r.burst.toNat then some ⟨d, r.burst.toNat, h.1, h.2⟩ else none

/-- The time that a full bucket lasts. -/
def tolerance (q : Quota) : Nat := q.interval * q.burst

end Quota

/-! ## Buckets -/

/-- The state of a bucket: when the next token is due.  It is not known before the first request. -/
structure Bucket where
  due? : Option Nat
  deriving DecidableEq, Repr

namespace Bucket

/-- A bucket that nobody has taken a token from. -/
def full : Bucket := ⟨none⟩

/-- When the next token is due, seen at the time `now`. -/
def due (q : Quota) (now : Nat) (b : Bucket) : Nat := b.due?.getD (now + q.interval)

/-- Take a token at the time `now`, if there is one. -/
def take (q : Quota) (now : Nat) (b : Bucket) : Option Bucket :=
  if now < b.due q now - q.tolerance then none
  else some ⟨some (max (b.due q now) now + q.interval)⟩

/-- The nanoseconds until a token can be taken. -/
def wait (q : Quota) (now : Nat) (b : Bucket) : Nat := b.due q now - q.tolerance - now

/-- A token is there exactly if there is nothing to wait for. -/
theorem take_isSome_iff (q : Quota) (now : Nat) (b : Bucket) :
    (b.take q now).isSome ↔ b.wait q now = 0 := by
  unfold take wait
  split
  · simp; omega
  · simp; omega

/-- A full bucket has a token. -/
theorem take_full_isSome (q : Quota) (now : Nat) : (full.take q now).isSome := by
  have h : q.interval ≤ q.tolerance := Nat.le_mul_of_pos_right _ q.burst_pos
  rw [take_isSome_iff]
  simp only [wait, due, full, Option.getD_none]
  omega

end Bucket

/-- Why a request is not let in. -/
inductive Refusal where
  /-- The bucket is empty. -/
  | spent
  /-- The client cannot be told from others. -/
  | anonymous
  | other
  deriving DecidableEq, Repr

end AuditLabels

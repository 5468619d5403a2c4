import AuditLabels.Proofs.RateLimit.Burst
import AuditLabels.Proofs.Service.Reply

/-!
# Runs

What a service does with any sequence of requests that arrive while no time passes.  Only lookups
take tokens, so the bucket counts the lookups before a request, up to the burst of the rate limit;
nothing else is carried from one request to the next.
-/

namespace AuditLabels

namespace Service

/-! ## The service of a configuration -/

/-- A service has the quota of the rate that is configured. -/
theorem ofRate?_of_ofConfig_eq_ok {c : Config} {s : Service} (h : (ofConfig c).2 = .ok s) :
    Quota.ofRate? c.rate = some s.quota := by
  unfold ofConfig at h
  cases hq : Quota.ofRate? c.rate with
  | none =>
    rw [hq] at h
    cases h
  | some quota =>
    simp only [hq] at h
    split at h
    · cases h
      rfl
    · cases h

/-! ## One request -/

/-- The path of the request is the one of a lookup. -/
def isLookup (r : Http.Request) : Bool :=
  match Route.ofPath? r.target.path with
  | some (.lookup _) => true
  | _ => false

theorem exists_lookup_of_isLookup {r : Http.Request} (h : isLookup r = true) :
    ∃ l, Route.ofPath? r.target.path = some (.lookup l) := by
  unfold isLookup at h
  split at h
  · next l hl => exact ⟨l, hl⟩
  · cases h

theorem isLookup_of_ofPath? {r : Http.Request} {l : Lookup}
    (h : Route.ofPath? r.target.path = some (.lookup l)) : isLookup r = true := by
  rw [isLookup, h]

/-- A lookup that finds a token is done. -/
theorem handle_of_take_eq_some {s : Service} {m : Moment} {b rest : Bucket} {r : Http.Request}
    {l : Lookup} (hr : Route.ofPath? r.target.path = some (.lookup l))
    (hb : b.take s.quota m.now = some rest) : s.handle m b r = (s.admitted m l r, rest) := by
  simp only [handle, hr, hb]

/-- A lookup that finds no token leaves the bucket as it is. -/
theorem handle_of_take_eq_none {s : Service} {m : Moment} {b : Bucket} {r : Http.Request}
    {l : Lookup} (hr : Route.ofPath? r.target.path = some (.lookup l))
    (hb : b.take s.quota m.now = none) :
    s.handle m b r = (refused (b.wait s.quota m.now) l r, b) := by
  simp only [handle, hr, hb]

/-- Only lookups look at the bucket: any other request gets the same reply from every bucket, which
is none of the rate limit, and leaves the bucket as it is. -/
theorem handle_of_not_isLookup (s : Service) (m : Moment) (b : Bucket) {r : Http.Request}
    (hr : isLookup r = false) :
    (s.handle m b r).1.answer.status ≠ 429 ∧ (s.handle m b r).2 = b := by
  unfold isLookup at hr
  unfold handle
  split at hr
  · cases hr
  · next hne =>
    split
    · refine ⟨?_, rfl⟩
      show (send r (.bare 404)).status ≠ 429
      rw [status_send]
      decide
    · refine ⟨?_, rfl⟩
      show (send r (health m r)).status ≠ 429
      rw [status_send]
      rcases status_health m r with h | h <;> rw [h] <;> decide
    · next l hl => exact absurd hl (hne l)

/-! ## Many requests -/

/-- The bucket that requests leave. -/
def after (s : Service) (b : Bucket) : List (Moment × Http.Request) → Bucket
  | [] => b
  | (m, r) :: rest => s.after (s.handle m b r).2 rest

/-- How many of the requests are lookups. -/
def lookups (visits : List (Moment × Http.Request)) : Nat := visits.countP fun v => isLookup v.2

/-- Requests behind others find the bucket that those leave. -/
theorem after_append (s : Service) (b : Bucket) (xs ys : List (Moment × Http.Request)) :
    s.after b (xs ++ ys) = s.after (s.after b xs) ys := by
  induction xs generalizing b with
  | nil => rfl
  | cons v xs ih => exact ih _

/-- The bucket behind one more request. -/
theorem after_take_succ {s : Service} {b : Bucket} {visits : List (Moment × Http.Request)}
    {i : Nat} {m : Moment} {r : Http.Request} (hi : visits[i]? = some (m, r)) :
    s.after b (visits.take (i + 1)) = (s.handle m (s.after b (visits.take i)) r).2 := by
  rw [List.take_add_one, hi, after_append]
  rfl

/-- Every request is handled with the bucket that the ones before it leave. -/
theorem run_getElem? (s : Service) (b : Bucket) {visits : List (Moment × Http.Request)} {i : Nat}
    {m : Moment} {r : Http.Request} (hi : visits[i]? = some (m, r)) :
    (s.run b visits)[i]? = some (s.handle m (s.after b (visits.take i)) r).1 := by
  induction visits generalizing b i with
  | nil => cases hi
  | cons v visits ih =>
    cases i with
    | zero =>
      obtain rfl : v = (m, r) := Option.some.inj hi
      rfl
    | succ i => exact ih _ hi

/-- Every request gets one reply. -/
theorem length_run (s : Service) (b : Bucket) (visits : List (Moment × Http.Request)) :
    (s.run b visits).length = visits.length := by
  induction visits generalizing b with
  | nil => rfl
  | cons v visits ih => exact congrArg Nat.succ (ih _)

/-! ## No time passes -/

variable {s : Service} {t : Nat}

/-- A request takes a token exactly if it is a lookup and there is one left. -/
theorem spent_handle {m : Moment} {b : Bucket} (r : Http.Request) {n : Nat} (hm : m.now = t)
    (hb : b.Spent s.quota t (min n s.quota.burst)) :
    (s.handle m b r).2.Spent s.quota t
      (min (n + if isLookup r then 1 else 0) s.quota.burst) := by
  cases hr : isLookup r with
  | false =>
    rw [(s.handle_of_not_isLookup m b hr).2]
    exact hb
  | true =>
    obtain ⟨l, hl⟩ := exists_lookup_of_isLookup hr
    rw [if_pos rfl]
    -- a lookup counts up to the burst, and then the bucket stays as it is
    by_cases hn : n < s.quota.burst
    · rw [Nat.min_eq_left (Nat.le_of_lt hn)] at hb
      obtain ⟨rest, htake, hrest⟩ := Bucket.take_of_lt hb hn
      rw [← hm] at htake
      rw [handle_of_take_eq_some hl htake, Nat.min_eq_left hn]
      exact hrest
    · rw [Nat.min_eq_right (Nat.le_of_not_lt hn)] at hb
      have htake := Bucket.take_of_le hb (Nat.le_refl _)
      rw [← hm] at htake
      rw [handle_of_take_eq_none hl htake, Nat.min_eq_right (by omega)]
      exact hb

/-- **The bucket counts the lookups.**  Behind any requests, as many tokens have been taken from a
full bucket as there were lookups among them, up to the burst. -/
theorem spent_after {visits : List (Moment × Http.Request)} (ht : ∀ v ∈ visits, v.1.now = t)
    {b : Bucket} {n : Nat} (hb : b.Spent s.quota t (min n s.quota.burst)) :
    (s.after b visits).Spent s.quota t (min (n + lookups visits) s.quota.burst) := by
  induction visits generalizing b n with
  | nil => exact hb
  | cons v visits ih =>
    obtain ⟨m, r⟩ := v
    have hstep := s.spent_handle r (ht _ List.mem_cons_self) hb
    have hrest := ih (fun v hv => ht v (List.mem_cons_of_mem _ hv)) hstep
    have hcount : lookups ((m, r) :: visits) = (if isLookup r then 1 else 0) + lookups visits := by
      rw [lookups, List.countP_cons, Nat.add_comm]
      rfl
    rw [hcount, ← Nat.add_assoc]
    exact hrest

/-- A lookup is done if fewer lookups than the burst stand before it, and turned away otherwise. -/
theorem handle_after {visits : List (Moment × Http.Request)} (ht : ∀ v ∈ visits, v.1.now = t)
    {m : Moment} (hm : m.now = t) {r : Http.Request} {l : Lookup}
    (hr : Route.ofPath? r.target.path = some (.lookup l)) :
    (s.handle m (s.after .full visits) r).1 =
      if lookups visits < s.quota.burst then s.admitted m l r
      else refused ((s.after .full visits).wait s.quota m.now) l r := by
  have hspent := spent_after (s := s) ht (n := 0) (b := .full) (by
    rw [Nat.zero_min]
    exact Bucket.spent_full s.quota t)
  rw [Nat.zero_add] at hspent
  split
  · next hlt =>
    rw [Nat.min_eq_left (Nat.le_of_lt hlt)] at hspent
    obtain ⟨rest, htake, -⟩ := Bucket.take_of_lt hspent hlt
    rw [← hm] at htake
    rw [handle_of_take_eq_some hr htake]
  · next hge =>
    rw [Nat.min_eq_right (Nat.le_of_not_lt hge)] at hspent
    have htake := Bucket.take_of_le hspent (Nat.le_refl _)
    rw [← hm] at htake
    rw [handle_of_take_eq_none hr htake]

/-- A lookup that is the first request to a service is done, whenever it arrives. -/
theorem run_full_singleton (s : Service) (m : Moment) {r : Http.Request} {l : Lookup}
    (hr : Route.ofPath? r.target.path = some (.lookup l)) :
    s.run .full [(m, r)] = [s.admitted m l r] := by
  obtain ⟨rest, htake⟩ := Option.isSome_iff_exists.1 (Bucket.take_full_isSome s.quota m.now)
  show [(s.handle m .full r).1] = [s.admitted m l r]
  rw [handle_of_take_eq_some hr htake]

/-- **A burst and nothing but the burst.**  While no time passes, a lookup is done if fewer lookups
than the burst stand before it, and then its answer is, but for a fresh identifier, the one it gets
from a service that nobody has asked before; every other lookup is turned away.  A request that is
no lookup is never turned away and leaves the bucket as it is, wherever it stands. -/
theorem run_admits_burst {c : Config} (hs : (ofConfig c).2 = .ok s)
    {visits : List (Moment × Http.Request)} (ht : ∀ v ∈ visits, v.1.now = t)
    {i : Nat} {m : Moment} {r : Http.Request} (hi : visits[i]? = some (m, r)) :
    0 < c.rate.burst.toNat ∧ ∃ reply, (s.run .full visits)[i]? = some reply ∧
      match Route.ofPath? r.target.path with
      | some (.lookup _) =>
        if lookups (visits.take i) < c.rate.burst.toNat then
          Done (requestId m r) reply ∧ ∀ m', ∃ fresh, s.run .full [(m', r)] = [fresh] ∧
            maskFreshId r reply.answer = maskFreshId r fresh.answer
        else TurnedAway r reply
      | _ => reply.answer.status ≠ 429 ∧
          s.after .full (visits.take (i + 1)) = s.after .full (visits.take i) := by
  have hburst := Quota.burst_of_ofRate?_eq_some (ofRate?_of_ofConfig_eq_ok hs)
  have hm : m.now = t := ht _ (List.mem_of_getElem? hi)
  have hbefore : ∀ v ∈ visits.take i, v.1.now = t := fun v hv => ht v (List.mem_of_mem_take hv)
  refine ⟨hburst ▸ s.quota.burst_pos, _, s.run_getElem? .full hi, ?_⟩
  split
  · next l hl =>
    rw [handle_after hbefore hm hl, hburst]
    split
    · refine ⟨s.done_admitted m l r, fun m' => ⟨_, s.run_full_singleton m' hl, ?_⟩⟩
      exact s.maskFreshId_admitted m m' l r
    · exact turnedAway_refused _ l r
  · next hne =>
    have hr : isLookup r = false := by
      unfold isLookup
      split
      · next l hl => exact absurd hl (hne l)
      · rfl
    rw [after_take_succ hi]
    exact s.handle_of_not_isLookup m _ hr

/-- A request for a path at the time 7, without headers and without a body. -/
def visit (method : Http.Method) (path : String) : Moment × Http.Request :=
  (⟨7, "fresh", "now"⟩, ⟨method, ⟨[], path.toList, none⟩, [], []⟩)

/-- Three lookups and a health check at once.  The first lookup asks for nothing sensible, and the
second by a wrong method. -/
def hurry : List (Moment × Http.Request) :=
  [visit .get "/api/v1/audit-labels/x/y", visit .get "/health", visit .head "/api/v1/audit-labels",
   visit .get "/api/v1/audit-labels/action/1"]

/-- With a burst of two the last of the three is turned away. -/
theorem run_admits_burst_hurry :
    ∃ s reply, (ofConfig ⟨"audit-labels", .development, "127.0.0.1", 0, ⟨1, 2⟩, []⟩).2 = .ok s ∧
      (∀ v ∈ hurry, v.1.now = 7) ∧ (s.run .full hurry)[3]? = some reply ∧
      TurnedAway (visit .get "/api/v1/audit-labels/action/1").2 reply := by
  have ht : ∀ v ∈ hurry, v.1.now = 7 := by
    simp [hurry, visit]
  obtain ⟨-, reply, hreply, hcase⟩ :=
    run_admits_burst (c := ⟨"audit-labels", .development, "127.0.0.1", 0, ⟨1, 2⟩, []⟩) rfl ht
      (i := 3) rfl
  exact ⟨_, reply, rfl, ht, hreply, hcase⟩

end Service

end AuditLabels

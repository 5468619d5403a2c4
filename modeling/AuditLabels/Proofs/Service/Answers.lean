import AuditLabels.Proofs.Service.Routes
import AuditLabels.Proofs.Service.Run
import Mathlib.Data.List.Forall2

/-!
# Proper answers

No request makes the service fail.  Whatever it holds and whenever it comes, the status of its
answer is one of five, nothing is logged as a fault of the service, only paths that lead nowhere are
not found, and a request that is refused is told so in the envelope of errors.
-/

namespace AuditLabels

/-! ## Failures -/

namespace Failure

/-- The code by which the rate limit refuses a request. -/
def limitCode : String := "RATE_LIMIT_EXCEEDED"

/-- The codes of what is wrong with a request. -/
def requestCodes : List String :=
  ["INVALID_NAMESPACE", "INVALID_PATH_PARAMETER", "INVALID_BODY", "VALIDATION_ERROR"]

/-- How an error with a code is told: with a code and a message, and with details exactly if the
code is the one of lists that are too long. -/
inductive Tells : String → Json → Prop
  | plain {code message : String} (hcode : code ≠ "VALIDATION_ERROR") :
      Tells code (.object [("error", .object [("code", .text code), ("message", .text message)])])
  | detailed {message : String} {details : Json} :
      Tells "VALIDATION_ERROR" (.object [("error", .object
        [("code", .text "VALIDATION_ERROR"), ("message", .text message), ("details", details)])])

/-- Every failure is told in the envelope of errors. -/
theorem tells_envelope (f : Failure) : Tells f.code f.envelope := by
  cases f with
  | tooLong lists => exact .detailed
  | _ =>
    refine .plain ?_
    simp [code]

/-- A failure that is the client's fault has the code of one. -/
theorem code_mem_requestCodes {f : Failure} (h : f.status = 400) : f.code ∈ requestCodes := by
  cases f with
  | rateLimited => cases h
  | configuration reason => cases h
  | internal => cases h
  | unknownNamespace e => simp [code, requestCodes]
  | invalidPath reason => simp [code, requestCodes]
  | invalidBody reason => simp [code, requestCodes]
  | tooLong lists => simp [code, requestCodes]

/-- Only the service's own faults are logged. -/
theorem events_eq_nil {f : Failure} (h : f.status < 500) : f.events = [] := by
  rw [events, if_neg (Nat.not_le_of_lt h)]

end Failure

/-! ## What is logged about lookups -/

/-- How a fault of the service is logged. -/
def Log.Event.IsFault (e : Log.Event) : Prop := e.message = "Server error occurred"

namespace Outcome

/-- Nothing is logged as a fault of the service. -/
def Calm (o : Outcome) : Prop := ∀ e ∈ o.events, ¬ e.IsFault

theorem calm_andThen {α : Type} {x : Except Failure α} {next : α → Outcome}
    (hnext : ∀ a, Calm (next a)) : Calm (andThen x next) := by
  cases x with
  | error f =>
    intro e he
    cases he
  | ok a => exact hnext a

end Outcome

/-- What is logged about a lookup is that codes have no labels, which is no fault. -/
theorem Lookup.calm_perform (l : Lookup) (r : Http.Request) : (l.perform r).Calm := by
  cases l with
  | batch =>
    refine Outcome.calm_andThen fun b => ?_
    intro e he
    dsimp only at he
    split at he
    · cases he
    · rw [List.mem_singleton.1 he]
      simp [Log.Event.IsFault, missingLabels]
  | catalog space =>
    refine Outcome.calm_andThen fun space => ?_
    refine Outcome.calm_andThen fun ns => ?_
    intro e he
    cases he
  | label space code =>
    refine Outcome.calm_andThen fun space => ?_
    refine Outcome.calm_andThen fun code => ?_
    refine Outcome.calm_andThen fun ns => ?_
    refine Outcome.calm_andThen fun n => ?_
    intro e he
    dsimp only at he
    split at he
    · cases he
    · rw [List.mem_singleton.1 he]
      simp [Log.Event.IsFault, missingLabel]

namespace Service

/-! ## Proper replies -/

/-- The statuses of answers. -/
def statuses : List Nat := [200, 400, 404, 405, 429]

/-- A reply by which no fault of the service shows.  Not found is said of paths that lead nowhere
and of no others, and of a method only if the path leads to something that it does not serve; a
lookup may always be asked what may be done. -/
structure Proper (r : Http.Request) (reply : Reply) : Prop where
  status : reply.answer.status ∈ statuses
  no_fault : ∀ e, .event e ∈ reply.entries → ¬ e.IsFault
  not_found : reply.answer.status = 404 ↔ ∀ route, ¬ Route.Leads r.target.path route
  not_allowed : reply.answer.status = 405 ↔ reply.answer.status ≠ 429 ∧
    ∃ route, Route.Leads r.target.path route ∧ r.method ∉ route.methods ∧
      (route = .health ∨ r.method ≠ .options)
  bad_request : reply.answer.status = 400 → r.method ≠ .head →
    ∃ code ∈ Failure.requestCodes, ∃ v, reply.answer.body = .json v ∧ Failure.Tells code v
  too_many : reply.answer.status = 429 → r.method ≠ .head →
    ∃ v, reply.answer.body = .json v ∧ Failure.Tells Failure.limitCode v

/-- A reply to a request whose path leads somewhere is proper if it says nothing else, and that a
method is not allowed only if what the path leads to does not serve it. -/
theorem Proper.of_leads {r : Http.Request} {reply : Reply} {route : Route} {n : Nat}
    (hroute : Route.Leads r.target.path route) (hstatus : reply.answer.status = n)
    (hn : n ∈ [200, 400, 405, 429]) (hfault : ∀ e, .event e ∈ reply.entries → ¬ e.IsFault)
    (hallowed : n = 405 ↔
      n ≠ 429 ∧ r.method ∉ route.methods ∧ (route = .health ∨ r.method ≠ .options))
    (hbad : n = 400 → r.method ≠ .head →
      ∃ code ∈ Failure.requestCodes, ∃ v, reply.answer.body = .json v ∧ Failure.Tells code v)
    (hmany : n = 429 → r.method ≠ .head →
      ∃ v, reply.answer.body = .json v ∧ Failure.Tells Failure.limitCode v) :
    Proper r reply := by
  subst hstatus
  have hsubset : [200, 400, 405, 429] ⊆ statuses := by decide
  have hfound : reply.answer.status ≠ 404 := by
    intro h
    rw [h] at hn
    exact absurd hn (by decide)
  refine ⟨hsubset hn, hfault, iff_of_false hfound fun hnone => hnone route hroute, ?_, hbad, hmany⟩
  rw [hallowed]
  constructor
  · rintro ⟨hlimit, hmethod⟩
    exact ⟨hlimit, route, hroute, hmethod⟩
  · rintro ⟨hlimit, other, hother, hmethod⟩
    obtain rfl := hother.unique hroute
    exact ⟨hlimit, hmethod⟩

/-- What is served, or asked what may be done, may be answered. -/
theorem Proper.of_ok {r : Http.Request} {reply : Reply} {route : Route}
    (hroute : Route.Leads r.target.path route) (hstatus : reply.answer.status = 200)
    (hfault : ∀ e, .event e ∈ reply.entries → ¬ e.IsFault)
    (hserved : r.method ∈ route.methods ∨ route ≠ .health ∧ r.method = .options) :
    Proper r reply := by
  refine .of_leads hroute hstatus (by decide) hfault (iff_of_false (by decide) ?_) (by simp)
    (by simp)
  rintro ⟨-, hmethod, hother⟩
  rcases hserved with h | ⟨hhealth, hoptions⟩
  · exact hmethod h
  · exact hother.elim hhealth fun hne => hne hoptions

/-- A method that does not serve what the path leads to may be told so. -/
theorem Proper.of_not_allowed {r : Http.Request} {reply : Reply} {route : Route}
    (hroute : Route.Leads r.target.path route) (hstatus : reply.answer.status = 405)
    (hfault : ∀ e, .event e ∈ reply.entries → ¬ e.IsFault) (hmethod : r.method ∉ route.methods)
    (hother : route = .health ∨ r.method ≠ .options) : Proper r reply := by
  have hallowed : 405 ≠ 429 ∧ r.method ∉ route.methods ∧
      (route = .health ∨ r.method ≠ .options) := ⟨by decide, hmethod, hother⟩
  exact .of_leads hroute hstatus (by decide) hfault (iff_of_true rfl hallowed) (by simp) (by simp)

/-! ## Requests that are no lookups -/

/-- Where nothing is logged no fault is. -/
theorem not_isFault_of_nil : ∀ e, Log.Entry.event e ∈ [] → ¬ e.IsFault := by
  intro e he
  cases he

/-- A path that leads nowhere is not found. -/
theorem proper_of_not_leads {r : Http.Request} (hr : ∀ route, ¬ Route.Leads r.target.path route) :
    Proper r ⟨send r (.bare 404), []⟩ where
  status := by
    rw [status_send]
    decide
  no_fault := not_isFault_of_nil
  not_found := by
    rw [status_send]
    exact iff_of_true rfl hr
  not_allowed := by
    rw [status_send]
    refine iff_of_false (by decide) ?_
    rintro ⟨-, route, hroute, -⟩
    exact hr route hroute
  bad_request := by
    rw [status_send]
    intro h
    cases h
  too_many := by
    rw [status_send]
    intro h
    cases h

/-- The health check is answered, or its method is not allowed. -/
theorem proper_health (m : Moment) {r : Http.Request}
    (hroute : Route.Leads r.target.path .health) : Proper r ⟨send r (health m r), []⟩ := by
  have hmethods : r.method ∈ Route.health.methods ↔ r.method = .get ∨ r.method = .head := by
    simp [Route.methods]
  by_cases h : r.method = .get ∨ r.method = .head
  · refine .of_ok hroute ?_ not_isFault_of_nil (.inl (hmethods.2 h))
    rw [status_send, health, if_pos h]
    rfl
  · refine .of_not_allowed hroute ?_ not_isFault_of_nil (mt hmethods.1 h) (.inl rfl)
    rw [status_send, health, if_neg h]
    rfl

/-! ## Lookups -/

/-- A lookup that got no token is refused. -/
theorem proper_refused (wait : Nat) {l : Lookup} {r : Http.Request}
    (hroute : Route.Leads r.target.path (.lookup l)) : Proper r (refused wait l r) := by
  have haway := turnedAway_refused wait l r
  have hfault : ∀ e, .event e ∈ (refused wait l r).entries → ¬ e.IsFault := by
    rw [haway.no_entries]
    exact not_isFault_of_nil
  refine .of_leads hroute haway.status (by decide) hfault ?_ (by simp) ?_
  · exact iff_of_false (by decide) fun h => h.1 rfl
  · intro _ hhead
    refine ⟨_, ?_, Failure.tells_envelope .rateLimited⟩
    rw [haway.body, if_neg hhead]
    rfl

/-- The events of a lookup that got a token are the ones of the work on it. -/
theorem event_mem_admitted {s : Service} {m : Moment} {l : Lookup} {r : Http.Request}
    {e : Log.Event} : .event e ∈ (s.admitted m l r).entries ↔ e ∈ (s.respond l r).2 := by
  simp [admitted, requestSpan]

/-- Nothing about the outcome of a lookup is logged as a fault of the service. -/
theorem not_isFault_of_mem_eventsOf {l : Lookup} {r : Http.Request} {e : Log.Event}
    (he : e ∈ eventsOf (l.perform r)) : ¬ e.IsFault := by
  rcases List.mem_append.1 he with he | he
  · exact l.calm_perform r e he
  · cases hresult : (l.perform r).result with
    | ok v =>
      rw [hresult] at he
      cases he
    | error f =>
      have hstatus : f.status < 500 := by
        rw [l.blamesClient_perform r f hresult]
        decide
      rw [hresult] at he
      dsimp only at he
      rw [Failure.events_eq_nil hstatus] at he
      cases he

/-- A lookup that its method serves is answered, or told what is wrong with the request. -/
theorem proper_admitted_of_serves (s : Service) (m : Moment) {l : Lookup} {r : Http.Request}
    (hroute : Route.Leads r.target.path (.lookup l)) (hserves : l.serves r.method = true) :
    Proper r (s.admitted m l r) := by
  have hmethod : r.method ∈ (Route.lookup l).methods := Route.mem_methods_lookup.2 hserves
  have hfault : ∀ e, .event e ∈ (s.admitted m l r).entries → ¬ e.IsFault := by
    intro e he
    rw [event_mem_admitted, s.respond_of_serves hserves] at he
    exact not_isFault_of_mem_eventsOf he
  cases hresult : (l.perform r).result with
  | ok v =>
    refine .of_ok hroute ?_ hfault (.inl hmethod)
    rw [s.status_admitted m hserves, Outcome.told, hresult]
  | error f =>
    have hclient : f.status = 400 := l.blamesClient_perform r f hresult
    have htold : (l.perform r).told = (f.status, f.envelope) := by
      rw [Outcome.told, hresult]
    have hstatus : (s.admitted m l r).answer.status = 400 := by
      rw [s.status_admitted m hserves, htold]
      exact hclient
    refine .of_leads hroute hstatus (by decide) hfault ?_ ?_ (by simp)
    · exact iff_of_false (by decide) fun h => h.2.1 hmethod
    · intro _ hhead
      refine ⟨f.code, Failure.code_mem_requestCodes hclient, f.envelope, ?_, f.tells_envelope⟩
      rw [(s.told_admitted m hserves hhead).2, htold]

/-- A lookup that got a token is answered whatever its method. -/
theorem proper_admitted (s : Service) (m : Moment) {l : Lookup} {r : Http.Request}
    (hroute : Route.Leads r.target.path (.lookup l)) : Proper r (s.admitted m l r) := by
  by_cases hserves : l.serves r.method = true
  · exact s.proper_admitted_of_serves m hroute hserves
  have hmethod : r.method ∉ (Route.lookup l).methods := mt Route.mem_methods_lookup.1 hserves
  -- nothing is looked up, so there is nothing to log
  have hidle : (s.respond l r).2 = [] := by
    unfold respond
    rw [if_neg hserves]
    split <;> rfl
  have hfault : ∀ e, .event e ∈ (s.admitted m l r).entries → ¬ e.IsFault := by
    intro e he
    rw [event_mem_admitted, hidle] at he
    cases he
  by_cases hoptions : r.method = .options
  · refine .of_ok hroute ?_ hfault (.inr ⟨by simp, hoptions⟩)
    rw [admitted, status_send, respond, if_pos hoptions]
    rfl
  · refine .of_not_allowed hroute ?_ hfault hmethod (.inr hoptions)
    rw [admitted, status_send, respond, if_neg hoptions, if_neg hserves]
    rfl

/-! ## Any request -/

/-- **One request never makes the service fail,** whatever it holds and whatever was asked
before. -/
theorem proper_handle (s : Service) (m : Moment) (b : Bucket) (r : Http.Request) :
    Proper r (s.handle m b r).1 := by
  cases hroute : Route.ofPath? r.target.path with
  | none =>
    have hreply : (s.handle m b r).1 = ⟨send r (.bare 404), []⟩ := by
      simp only [handle, hroute]
    rw [hreply]
    exact proper_of_not_leads (Route.ofPath?_eq_none_iff.1 hroute)
  | some route =>
    have hleads := Route.ofPath?_eq_some_iff.1 hroute
    cases route with
    | health =>
      have hreply : (s.handle m b r).1 = ⟨send r (health m r), []⟩ := by
        simp only [handle, hroute]
      rw [hreply]
      exact proper_health m hleads
    | lookup l =>
      cases htake : b.take s.quota m.now with
      | none =>
        rw [handle_of_take_eq_none hroute htake]
        exact proper_refused _ hleads
      | some rest =>
        rw [handle_of_take_eq_some hroute htake]
        exact s.proper_admitted m hleads

/-- **No requests make a service fail.**  Whatever they hold, whenever they come and from whatever
bucket they start, each of them gets a proper reply. -/
theorem run_proper (s : Service) (b : Bucket) (visits : List (Moment × Http.Request)) :
    List.Forall₂ (fun visit reply => Proper visit.2 reply) visits (s.run b visits) := by
  -- the bucket is general, since each request finds the one that the request before it leaves
  induction visits generalizing b with
  | nil => exact .nil
  | cons visit visits ih =>
    obtain ⟨m, r⟩ := visit
    exact .cons (s.proper_handle m b r) (ih _)

end Service

end AuditLabels

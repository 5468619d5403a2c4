import AuditLabels.Service.Basic

/-!
# Single replies

What a client sees of a lookup that got a token and of one that got none, and that the two cannot be
confused: a lookup that is done is answered with 200, 400 or 405, under the identifier of its
request and inside its span, while one that is turned away is answered with 429 and none of these.
-/

namespace AuditLabels

/-! ## Faults of lookups -/

namespace Outcome

/-- Whatever goes wrong is the client's fault. -/
def BlamesClient (o : Outcome) : Prop := ∀ f, o.result = .error f → f.status = 400

/-- A step that blames the client, in front of an outcome that does, makes one that does. -/
theorem blamesClient_andThen {α : Type} {x : Except Failure α} {next : α → Outcome}
    (hx : ∀ f, x = .error f → f.status = 400) (hnext : ∀ a, BlamesClient (next a)) :
    BlamesClient (andThen x next) := by
  intro f hf
  cases x with
  | error g =>
    obtain rfl : g = f := Except.error.inj hf
    exact hx g rfl
  | ok a => exact hnext a f hf

/-- Where nothing goes wrong nobody is blamed. -/
theorem blamesClient_ok (v : Json) (es : List Log.Event) : BlamesClient ⟨.ok v, es⟩ := by
  intro f hf
  cases hf

end Outcome

namespace Lookup

open Outcome

/-- A segment that cannot be decoded is the client's fault. -/
theorem status_of_decodeSegment_eq_error {name : String} {segment : List Char} {f : Failure}
    (h : decodeSegment name segment = .error f) : f.status = 400 := by
  unfold decodeSegment at h
  split at h <;> cases h
  rfl

/-- A segment that names no namespace is the client's fault. -/
theorem status_of_readNamespace_eq_error {s : String} {f : Failure}
    (h : readNamespace s = .error f) : f.status = 400 := by
  unfold readNamespace at h
  split at h <;> cases h
  rfl

/-- A segment that says no code is the client's fault. -/
theorem status_of_readCode_eq_error {s : String} {f : Failure} (h : readCode s = .error f) :
    f.status = 400 := by
  unfold readCode at h
  split at h <;> cases h
  rfl

/-- A body that is no batch is the client's fault. -/
theorem status_of_readBatch_eq_error {r : Http.Request} {f : Failure}
    (h : readBatch r = .error f) : f.status = 400 := by
  unfold readBatch at h
  split at h
  · cases h
    rfl
  · split at h
    · cases h
      rfl
    · unfold decodeBatch at h
      split at h
      · next b _ _ =>
        have hb : validate b = .error f := h
        unfold validate at hb
        split at hb <;> cases hb
        rfl
      · cases h
        rfl

/-- **A lookup never fails by itself.**  What goes wrong in it is the client's fault. -/
theorem blamesClient_perform (l : Lookup) (r : Http.Request) : BlamesClient (l.perform r) := by
  cases l with
  | batch =>
    refine blamesClient_andThen (fun f => status_of_readBatch_eq_error) fun b => ?_
    exact blamesClient_ok _ _
  | catalog space =>
    refine blamesClient_andThen (fun f => status_of_decodeSegment_eq_error) fun space => ?_
    refine blamesClient_andThen (fun f => status_of_readNamespace_eq_error) fun ns => ?_
    exact blamesClient_ok _ _
  | label space code =>
    refine blamesClient_andThen (fun f => status_of_decodeSegment_eq_error) fun space => ?_
    refine blamesClient_andThen (fun f => status_of_decodeSegment_eq_error) fun code => ?_
    refine blamesClient_andThen (fun f => status_of_readNamespace_eq_error) fun ns => ?_
    refine blamesClient_andThen (fun f => status_of_readCode_eq_error) fun n => ?_
    exact blamesClient_ok _ _

end Lookup

/-! ## Names of headers -/

namespace CorsPolicy

/-- The names of all headers that tell browsers who may show an answer. -/
def headerNames : List String :=
  ["vary", "access-control-expose-headers", "access-control-allow-methods",
   "access-control-allow-headers", allowOriginName]

/-- The header that allows an origin has its name. -/
theorem name_of_mem_allowOrigin {p : CorsPolicy} {r : Http.Request} {h : Http.Header}
    (hh : h ∈ p.allowOrigin r) : h.name = allowOriginName := by
  unfold allowOrigin at hh
  split at hh
  · rw [List.mem_singleton.1 hh]
  · split at hh
    · split at hh
      · rw [List.mem_singleton.1 hh]
      · cases hh
    · cases hh

/-- The headers of an answer are among the named ones. -/
theorem name_mem_of_mem_headers {p : CorsPolicy} {r : Http.Request} {h : Http.Header}
    (hh : h ∈ p.headers r) : h.name ∈ headerNames := by
  rw [headers, List.mem_cons, List.mem_cons] at hh
  rcases hh with rfl | rfl | hh
  · simp [headerNames, vary, Http.Header.ofText]
  · simp [headerNames, Http.Header.ofText]
  · simp [headerNames, name_of_mem_allowOrigin hh]

/-- The headers of the answer to a preflight are among the named ones. -/
theorem name_mem_of_mem_preflightHeaders {p : CorsPolicy} {r : Http.Request} {h : Http.Header}
    (hh : h ∈ p.preflightHeaders r) : h.name ∈ headerNames := by
  rw [preflightHeaders, List.mem_cons, List.mem_cons, List.mem_cons] at hh
  rcases hh with rfl | rfl | rfl | hh
  · simp [headerNames, vary, Http.Header.ofText]
  · simp [headerNames, Http.Header.ofText]
  · simp [headerNames, Http.Header.ofText]
  · simp [headerNames, name_of_mem_allowOrigin hh]

end CorsPolicy

namespace Service

/-! ## Sending -/

@[simp] theorem status_send (r : Http.Request) (a : Http.Answer) :
    (send r a).status = a.status := by
  unfold send
  split <;> rfl

/-- Only the length of the body is added to the headers. -/
theorem headers_send (r : Http.Request) (a : Http.Answer) :
    (send r a).headers = a.withLength.headers := by
  unfold send
  split <;> rfl

/-- A header that is sent is one of the answer or the length of the body. -/
theorem mem_headers_send {r : Http.Request} {a : Http.Answer} {h : Http.Header}
    (hh : h ∈ (send r a).headers) : h ∈ a.headers ∨ h.name = "content-length" := by
  rw [headers_send, Http.Answer.withLength, Http.Answer.withHeaders, List.mem_append,
    List.mem_singleton] at hh
  rcases hh with hh | rfl
  · exact Or.inl hh
  · exact Or.inr rfl

/-- A header of the answer is sent. -/
theorem mem_headers_send_of_mem {r : Http.Request} {a : Http.Answer} {h : Http.Header}
    (hh : h ∈ a.headers) : h ∈ (send r a).headers := by
  rw [headers_send, Http.Answer.withLength, Http.Answer.withHeaders, List.mem_append]
  exact Or.inl hh

/-- Only `HEAD` is answered without the body. -/
theorem body_send (r : Http.Request) (a : Http.Answer) :
    (send r a).body = if r.method = .head then .empty else a.body := by
  unfold send
  split <;> rfl

/-! ## Lookups that are turned away -/

/-- The envelope of a failure about which there is nothing more to know. -/
def faultJson (code message : String) : Json :=
  .object [("error", .object [("code", .text code), ("message", .text message)])]

/-- A reply by which the rate limit turns a request away: it says so, and when to ask again; it has
no identifier and no headers for browsers, and opens no span. -/
structure TurnedAway (r : Http.Request) (reply : Reply) : Prop where
  status : reply.answer.status = 429
  body : reply.answer.body = if r.method = .head then .empty
    else .json (faultJson "RATE_LIMIT_EXCEEDED" "Rate limit exceeded")
  after : ∃ seconds, .ofText "x-ratelimit-after" (Text.ofNat seconds) ∈ reply.answer.headers
  no_id : ∀ h ∈ reply.answer.headers, h.name ≠ requestIdName
  no_cors : ∀ h ∈ reply.answer.headers, h.name ∉ CorsPolicy.headerNames
  no_entries : reply.entries = []

/-- The names of the headers of a lookup that got no token. -/
theorem name_of_mem_headers_refused {wait : Nat} {l : Lookup} {r : Http.Request}
    {h : Http.Header} (hh : h ∈ (refused wait l r).answer.headers) :
    h.name ∈ ["content-type", "x-ratelimit-after", "allow", "content-length"] := by
  rcases mem_headers_send hh with hh | hname
  · simp only [Http.Answer.withHeaders, Failure.answer, Http.Answer.json, List.cons_append,
      List.nil_append, List.mem_cons] at hh
    rcases hh with rfl | rfl | hh
    · simp [Http.Header.ofText]
    · simp [Http.Header.ofText]
    · split at hh
      · cases hh
      · rw [List.mem_singleton.1 hh]
        simp [allow, Http.Header.ofText]
  · simp [hname]

/-- None of these names is the one of an identifier or of a header for browsers. -/
theorem not_shared_of_mem :
    ∀ name ∈ ["content-type", "x-ratelimit-after", "allow", "content-length"],
      name ≠ requestIdName ∧ name ∉ CorsPolicy.headerNames := by
  decide

/-- A lookup that got no token is turned away. -/
theorem turnedAway_refused (wait : Nat) (l : Lookup) (r : Http.Request) :
    TurnedAway r (refused wait l r) where
  status := by
    rw [refused, status_send]
    rfl
  body := by
    rw [refused, body_send]
    rfl
  after := by
    refine ⟨wait / nanosPerSecond, mem_headers_send_of_mem ?_⟩
    simp [Http.Answer.withHeaders]
  no_id _ hh := (not_shared_of_mem _ (name_of_mem_headers_refused hh)).1
  no_cors _ hh := (not_shared_of_mem _ (name_of_mem_headers_refused hh)).2
  no_entries := rfl

/-! ## Lookups that are done -/

/-- A reply to a lookup that was done: it has the identifier `id` and stands in a span. -/
structure Done (id : List UInt8) (reply : Reply) : Prop where
  status : reply.answer.status = 200 ∨ reply.answer.status = 400 ∨ reply.answer.status = 405
  has_id : ⟨requestIdName, id⟩ ∈ reply.answer.headers
  span : ∃ (fields : Log.Fields) (events : List Log.Event),
    reply.entries = .span ⟨.info, "http_request", fields⟩ :: events.map .event

/-- The statuses of lookups that got a token. -/
theorem status_respond (s : Service) (l : Lookup) (r : Http.Request) :
    (s.respond l r).1.status = 200 ∨ (s.respond l r).1.status = 400 ∨
      (s.respond l r).1.status = 405 := by
  unfold respond
  split
  · exact Or.inl rfl
  · split
    · show (answerOf (l.perform r)).status = 200 ∨ (answerOf (l.perform r)).status = 400 ∨
        (answerOf (l.perform r)).status = 405
      unfold answerOf
      split
      · exact Or.inl rfl
      · next f hf => exact Or.inr (Or.inl (l.blamesClient_perform r f hf))
    · exact Or.inr (Or.inr rfl)

/-- A lookup that got a token is done. -/
theorem done_admitted (s : Service) (m : Moment) (l : Lookup) (r : Http.Request) :
    Done (requestId m r) (s.admitted m l r) where
  status := by
    rw [admitted, status_send]
    exact s.status_respond l r
  has_id := mem_headers_send_of_mem (by simp [Http.Answer.withHeaders])
  span := ⟨_, (s.respond l r).2, rfl⟩

/-! ## Requests that are no lookups -/

/-- The health check is answered at once. -/
theorem status_health (m : Moment) (r : Http.Request) :
    (health m r).status = 200 ∨ (health m r).status = 405 := by
  unfold health
  split
  · exact Or.inl rfl
  · exact Or.inr rfl

/-! ## Fresh identifiers -/

/-- An answer with the identifier blanked out, unless the request was sent with one. -/
def maskFreshId (r : Http.Request) (a : Http.Answer) : Http.Answer :=
  if (r.header? requestIdName).isSome then a
  else { a with headers := a.headers.map fun h =>
    if h.name = requestIdName then ⟨requestIdName, []⟩ else h }

/-- The identifier that a request was sent with does not depend on when it arrives. -/
theorem requestId_of_isSome {r : Http.Request} (h : (r.header? requestIdName).isSome)
    (m m' : Moment) : requestId m r = requestId m' r := by
  obtain ⟨id, hid⟩ := Option.isSome_iff_exists.1 h
  rw [requestId, requestId, hid]
  rfl

/-- **When a lookup is done shows in its fresh identifier only.** -/
theorem maskFreshId_admitted (s : Service) (m m' : Moment) (l : Lookup) (r : Http.Request) :
    maskFreshId r (s.admitted m l r).answer = maskFreshId r (s.admitted m' l r).answer := by
  by_cases h : (r.header? requestIdName).isSome
  · rw [maskFreshId, maskFreshId, if_pos h, if_pos h, admitted, admitted,
      requestId_of_isSome h m m']
  -- a fresh identifier is the only header that depends on the moment
  · rw [maskFreshId, maskFreshId, if_neg h, if_neg h]
    simp only [admitted, headers_send, status_send, body_send, Http.Answer.withLength,
      Http.Answer.withHeaders, List.map_append, List.map_cons, List.map_nil, if_true]

end Service

end AuditLabels

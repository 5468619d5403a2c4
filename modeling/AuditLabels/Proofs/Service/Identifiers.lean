import AuditLabels.Proofs.Service.Origins
import AuditLabels.Proofs.Service.Routes
import AuditLabels.Proofs.Text.Utf8

/-!
# Identifiers of requests

Under which identifier an answer and the log speak of a request.  A lookup that got a token has
exactly one, the first that it was sent with or else a fresh one, and its span shows the same.  No
other answer has any, whatever its request was sent with, and no other request opens a span.
-/

namespace AuditLabels

/-! ## Texts of identifiers -/

namespace Http

/-- The first value of a header is the first of its values. -/
theorem firstValue?_eq_head? (headers : List Header) (name : String) :
    firstValue? headers name = (valuesOf name headers).head? := by
  have hbeq : (fun h : Header => h.name == name) = fun h => decide (h.name = name) := by
    funext h
    exact beq_eq_decide h.name name
  rw [firstValue?, valuesOf, List.head?_map, List.head?_filter, hbeq]

theorem isVisible_iff (b : UInt8) : isVisible b = true ↔ b = 0x09 ∨ (0x20 ≤ b ∧ b ≤ 0x7E) := by
  simp [isVisible]

/-- The text of a value is written with the bytes of the value. -/
theorem encode_of_visibleText? {value : List UInt8} {cs : List Char}
    (h : visibleText? value = some cs) : Text.Utf8.encode cs = value := by
  unfold visibleText? at h
  split at h
  · next hall =>
    obtain rfl := Option.some.inj h
    clear h
    induction value with
    | nil => rfl
    | cons b value ih =>
      rw [List.all_cons, Bool.and_eq_true] at hall
      have hascii : b < 0x80 := by
        -- visible bytes end below the last one of ASCII
        rw [UInt8.lt_iff_toNat_lt]
        rcases (isVisible_iff b).1 hall.1 with rfl | ⟨-, hle⟩
        · decide
        · exact Nat.lt_of_le_of_lt (UInt8.le_iff_toNat_le.1 hle) (by decide)
      rw [List.map_cons, Text.Utf8.encode_cons_of_isByte (Text.Utf8.isByte_ofNat_toNat hascii),
        ih hall.2]
  · cases h

end Http

/-! ## Spans -/

namespace Log

/-- The spans among entries of the log. -/
def spans (entries : List Entry) : List Span :=
  entries.filterMap fun
    | .span s => some s
    | .event _ => none

theorem spans_events (events : List Event) : spans (events.map .event) = [] := by
  rw [spans, List.filterMap_map, List.filterMap_eq_nil_iff]
  intro e _
  rfl

end Log

namespace Service

open Http (valuesOf valuesOf_append valuesOf_eq_nil)

/-- How the log shows an identifier: by the text of its bytes, if all of them are visible ASCII,
blanks or tabs, and otherwise as unknown. -/
inductive Shows (id : List UInt8) : String → Prop
  | text {text : String} (hvisible : ∀ b ∈ id, b = 0x09 ∨ (0x20 ≤ b ∧ b ≤ 0x7E))
      (hbytes : Text.Utf8.encode text.toList = id) : Shows id text
  | unknown {b : UInt8} (hmem : b ∈ id) (hhidden : ¬ (b = 0x09 ∨ (0x20 ≤ b ∧ b ≤ 0x7E))) :
      Shows id "unknown"

theorem shows_shownId (id : List UInt8) : Shows id (shownId id) := by
  unfold shownId
  cases hid : Http.visibleText? id with
  | some cs =>
    have hall : id.all Http.isVisible = true := by
      by_contra hnot
      rw [Http.visibleText?, if_neg hnot] at hid
      cases hid
    refine .text ?_ ?_
    · intro b hb
      exact (Http.isVisible_iff b).1 (List.all_eq_true.1 hall b hb)
    · rw [String.toList_ofList]
      exact Http.encode_of_visibleText? hid
  | none =>
    have hnot : ¬ ∀ b ∈ id, Http.isVisible b = true := by
      intro hall
      rw [Http.visibleText?, if_pos (List.all_eq_true.2 hall)] at hid
      cases hid
    simp only [not_forall] at hnot
    obtain ⟨b, hb, hhidden⟩ := hnot
    exact .unknown hb (mt (Http.isVisible_iff b).2 hhidden)

/-! ## Replies with and without an identifier -/

/-- A reply under an identifier: its answer has this one and no other, it is the first that the
request was sent with or else a fresh one, and the only span of the reply shows it. -/
structure Identified (m : Moment) (r : Http.Request) (id : List UInt8) (reply : Reply) : Prop where
  answer : valuesOf "x-request-id" reply.answer.headers = [id]
  sent : ∀ first rest, valuesOf "x-request-id" r.headers = first :: rest → id = first
  fresh : valuesOf "x-request-id" r.headers = [] → id = Text.Utf8.encode m.freshId.toList
  span : ∃ fields text, Log.spans reply.entries = [⟨.info, "http_request", fields⟩] ∧
    fields.lookup "request_id" = some (.text text) ∧ Shows id text

/-- A reply without an identifier, and without a span. -/
structure Anonymous (reply : Reply) : Prop where
  answer : valuesOf "x-request-id" reply.answer.headers = []
  span : Log.spans reply.entries = []

/-! ## Lookups that are done -/

/-- The headers of a lookup that got a token, before it is given its identifier. -/
theorem name_mem_of_mem_respond {s : Service} {l : Lookup} {r : Http.Request} {h : Http.Header}
    (hh : h ∈ (s.respond l r).1.headers) :
    h.name ∈ ["content-type", "allow"] ++ CorsPolicy.headerNames := by
  have hcors (hmem : h ∈ s.cors.headers r) :
      h.name ∈ ["content-type", "allow"] ++ CorsPolicy.headerNames :=
    List.mem_append_right _ (CorsPolicy.name_mem_of_mem_headers hmem)
  have hallow (heq : h = allow l.allowed) :
      h.name ∈ ["content-type", "allow"] ++ CorsPolicy.headerNames := by
    rw [heq]
    simp [allow, Http.Header.ofText]
  unfold respond at hh
  split at hh
  · rcases List.mem_cons.1 hh with hh | hh
    · exact hallow hh
    · exact List.mem_append_right _ (CorsPolicy.name_mem_of_mem_preflightHeaders hh)
  · split at hh
    · dsimp only at hh
      rw [answerOf_eq_json] at hh
      rcases List.mem_cons.1 hh with rfl | hh
      · simp [Http.Header.ofText]
      · exact hcors hh
    · rcases List.mem_cons.1 hh with hh | hh
      · exact hallow hh
      · exact hcors hh

/-- The one span of a lookup that got a token. -/
theorem spans_admitted (s : Service) (m : Moment) (l : Lookup) (r : Http.Request) :
    Log.spans (s.admitted m l r).entries = [⟨.info, "http_request",
      [("method", .text r.method.name), ("uri", .text r.target.text),
        ("request_id", .text (shownId (requestId m r)))]⟩] := by
  have hevents := Log.spans_events (s.respond l r).2
  exact congrArg (List.cons _) hevents

/-- **A lookup that got a token has one identifier,** in its answer and in its span. -/
theorem identified_admitted (s : Service) (m : Moment) (l : Lookup) (r : Http.Request) :
    Identified m r (requestId m r) (s.admitted m l r) where
  answer := by
    have hother : "x-request-id" ∉ ["content-type", "allow"] ++ CorsPolicy.headerNames := by decide
    have hrespond : valuesOf "x-request-id" (s.respond l r).1.headers = [] := by
      apply valuesOf_eq_nil
      intro h hh hname
      have hmem := name_mem_of_mem_respond hh
      rw [hname] at hmem
      exact hother hmem
    show valuesOf "x-request-id"
      (send r ((s.respond l r).1.withHeaders [⟨requestIdName, requestId m r⟩])).headers = _
    rw [valuesOf_send (by decide), Http.Answer.withHeaders, valuesOf_append, hrespond]
    rfl
  sent := by
    intro first rest hfirst
    have hheader : r.header? requestIdName = some first := by
      show Http.firstValue? r.headers "x-request-id" = some first
      rw [Http.firstValue?_eq_head?, hfirst]
      rfl
    rw [requestId, hheader, Option.getD_some]
  fresh := by
    intro hnone
    have hheader : r.header? requestIdName = none := by
      show Http.firstValue? r.headers "x-request-id" = none
      rw [Http.firstValue?_eq_head?, hnone]
      rfl
    rw [requestId, hheader, Option.getD_none]
  span := ⟨_, _, s.spans_admitted m l r, rfl, shows_shownId (requestId m r)⟩

/-! ## Everything else -/

/-- A lookup that got no token has no identifier. -/
theorem anonymous_refused (wait : Nat) (l : Lookup) (r : Http.Request) :
    Anonymous (refused wait l r) where
  answer := valuesOf_eq_nil (turnedAway_refused wait l r).no_id
  span := by
    rw [(turnedAway_refused wait l r).no_entries]
    rfl

/-- Nor has a request that is no lookup. -/
theorem anonymous_handle_of_not_isLookup (s : Service) (m : Moment) (b : Bucket)
    {r : Http.Request} (hr : isLookup r = false) : Anonymous (s.handle m b r).1 := by
  unfold handle
  split
  · refine ⟨?_, rfl⟩
    rw [valuesOf_send (by decide)]
    rfl
  · refine ⟨?_, rfl⟩
    rw [valuesOf_send (by decide)]
    unfold health
    split
    · rfl
    · rfl
  · next l hl =>
    rw [isLookup_of_ofPath? hl] at hr
    cases hr

/-! ## Runs -/

/-- **Answers and the log speak of the same requests.**  Among any requests, whenever they arrive,
each lookup that gets a token is answered under one identifier, whatever it asks for and whatever
comes of it, and its span shows that one; a lookup that gets none is turned away without any, and
what is no lookup has none either. -/
theorem run_identifies (s : Service) (b : Bucket) {visits : List (Moment × Http.Request)} {i : Nat}
    {m : Moment} {r : Http.Request} (hi : visits[i]? = some (m, r)) :
    ∃ reply, (s.run b visits)[i]? = some reply ∧
      (∀ l, Route.Leads r.target.path (.lookup l) →
        if ((s.after b (visits.take i)).take s.quota m.now).isSome then
          reply.answer.status ∈ [200, 400, 405] ∧ ∃ id, Identified m r id reply
        else reply.answer.status = 429 ∧ Anonymous reply) ∧
      ((∀ l, ¬ Route.Leads r.target.path (.lookup l)) → Anonymous reply) := by
  refine ⟨_, s.run_getElem? b hi, ?_, ?_⟩
  · intro l hl
    have hroute := Route.ofPath?_eq_some_iff.2 hl
    cases htake : (s.after b (visits.take i)).take s.quota m.now with
    | some rest =>
      rw [handle_of_take_eq_some hroute htake, Option.isSome_some, if_pos rfl]
      refine ⟨?_, _, s.identified_admitted m l r⟩
      simpa using (s.done_admitted m l r).status
    | none =>
      rw [handle_of_take_eq_none hroute htake, Option.isSome_none, if_neg Bool.false_ne_true]
      exact ⟨(turnedAway_refused _ l r).status, anonymous_refused _ l r⟩
  · intro hnone
    have hr : isLookup r = false := by
      by_contra hlookup
      rw [Bool.not_eq_false] at hlookup
      obtain ⟨l, hl⟩ := exists_lookup_of_isLookup hlookup
      exact hnone l (Route.ofPath?_eq_some_iff.1 hl)
    exact s.anonymous_handle_of_not_isLookup m _ hr

/-- A preflight that is sent with two identifiers, the first of which is not ASCII. -/
def twofold : Moment × Http.Request :=
  (⟨7, "fresh", "now"⟩, ⟨.options, ⟨[], "/api/v1/audit-labels".toList, none⟩,
    [.ofText "x-request-id" "é", .ofText "x-request-id" "b"], []⟩)

/-- The first of them is repeated, and is unknown to the log. -/
theorem run_identifies_twofold :
    ∃ s reply fields, (ofConfig ⟨"audit-labels", .development, "127.0.0.1", 1, ⟨10, 50⟩, []⟩).2 =
        .ok s ∧ (s.run .full [twofold])[0]? = some reply ∧
      valuesOf "x-request-id" reply.answer.headers = [Text.Utf8.encode "é".toList] ∧
      Log.spans reply.entries = [⟨.info, "http_request", fields⟩] ∧
      fields.lookup "request_id" = some (.text "unknown") := by
  obtain ⟨s, hs⟩ : ∃ s, (ofConfig ⟨"audit-labels", .development, "127.0.0.1", 1, ⟨10, 50⟩,
      []⟩).2 = .ok s := ⟨_, rfl⟩
  have hfirst : [twofold][0]? = some (twofold.1, twofold.2) := rfl
  obtain ⟨reply, hreply, hlookup, -⟩ := run_identifies s .full hfirst
  have htoken : ((s.after .full ([twofold].take 0)).take s.quota twofold.1.now).isSome = true :=
    Bucket.take_full_isSome s.quota 7
  have hcase := hlookup .batch .batch
  rw [if_pos htoken] at hcase
  obtain ⟨-, id, hid⟩ := hcase
  obtain rfl := hid.sent (Text.Utf8.encode "é".toList) [Text.Utf8.encode "b".toList] (by decide)
  obtain ⟨fields, text, hspan, htext, hshows⟩ := hid.span
  refine ⟨s, reply, fields, hs, hreply, hid.answer, hspan, ?_⟩
  cases hshows with
  | text hvisible _ => exact absurd (hvisible 0xC3 (by decide)) (by decide)
  | unknown _ _ => exact htext

end Service

end AuditLabels

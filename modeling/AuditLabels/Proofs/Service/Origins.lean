import AuditLabels.Proofs.Config.Reading
import AuditLabels.Proofs.Service.Lookup
import AuditLabels.Proofs.Service.Run
import AuditLabels.Proofs.Text.Pieces

/-!
# Allowed origins

Which answers browsers may show, and to whom.  An answer allows every origin only where none is
configured outside production; any other answer allows the origin of its request, if that is a
configured one, or none.  Lookups that are done allow what they may; nothing else allows anything.
-/

namespace AuditLabels

/-! ## Values of a header -/

namespace Http

/-- The values of the headers with a name. -/
def valuesOf (name : String) (headers : List Header) : List (List UInt8) :=
  (headers.filter fun h => h.name = name).map Header.value

variable {name : String}

theorem valuesOf_append (a b : List Header) :
    valuesOf name (a ++ b) = valuesOf name a ++ valuesOf name b := by
  rw [valuesOf, List.filter_append, List.map_append]
  rfl

/-- Headers of other names do not count. -/
theorem valuesOf_eq_nil {headers : List Header} (h : ∀ x ∈ headers, x.name ≠ name) :
    valuesOf name headers = [] := by
  have hfilter : headers.filter (fun x => x.name = name) = [] := by
    rw [List.filter_eq_nil_iff]
    intro x hx hname
    exact h x hx (of_decide_eq_true hname)
  rw [valuesOf, hfilter]
  rfl

theorem valuesOf_of_forall {headers : List Header} (h : ∀ x ∈ headers, x.name = name) :
    valuesOf name headers = headers.map Header.value := by
  have hfilter : headers.filter (fun x => x.name = name) = headers := by
    rw [List.filter_eq_self]
    intro x hx
    exact decide_eq_true (h x hx)
  rw [valuesOf, hfilter]

/-- The values with which an answer allows origins. -/
def Answer.allowed (a : Answer) : List (List UInt8) :=
  valuesOf "access-control-allow-origin" a.headers

end Http

/-! ## Policies -/

namespace CorsPolicy

/-- What a request is told about its origin under a policy. -/
def allowed (p : CorsPolicy) (r : Http.Request) : List (List UInt8) :=
  (p.allowOrigin r).map Http.Header.value

/-- The origin of a request is repeated if it is one of the policy's. -/
theorem allowed_only (origins : List (List UInt8)) (r : Http.Request) :
    (only origins).allowed r = (r.header? "origin").toList.filter fun v => v ∈ origins := by
  rw [allowed, allowOrigin]
  cases r.header? "origin" with
  | none => rfl
  | some v =>
    by_cases hv : v ∈ origins
    · simp [hv]
    · simp [hv]

theorem mem_allowed_only_iff {origins : List (List UInt8)} {r : Http.Request} {v : List UInt8} :
    v ∈ (only origins).allowed r ↔ r.header? "origin" = some v ∧ v ∈ origins := by
  rw [allowed_only, List.mem_filter, Option.mem_toList, decide_eq_true_iff]

theorem length_allowed_le (p : CorsPolicy) (r : Http.Request) : (p.allowed r).length ≤ 1 := by
  cases p with
  | anyone => exact Nat.le_refl 1
  | only origins =>
    rw [allowed_only]
    refine Nat.le_trans (List.length_filter_le _ _) ?_
    cases r.header? "origin" with
    | none => exact Nat.zero_le 1
    | some v => exact Nat.le_refl 1

/-- The origin can be said in a header: it has no controls but tabs. -/
def IsValue (origin : String) : Prop :=
  ∀ b ∈ Text.Utf8.encode origin.toList, b = 0x09 ∨ (0x20 ≤ b ∧ b ≠ 0x7F)

theorem isValue_iff {origin : String} :
    IsValue origin ↔ (Text.Utf8.encode origin.toList).all Http.isValueByte = true := by
  simp [IsValue, Http.isValueByte]

theorem originValue?_eq_some_iff {origin : String} {v : List UInt8} :
    originValue? origin = some v ↔ IsValue origin ∧ v = Text.Utf8.encode origin.toList := by
  unfold originValue?
  dsimp only
  rw [isValue_iff]
  split
  · next h => simp [h, eq_comm]
  · next h => simp [h]

theorem mem_filterMap_originValue?_iff {origins : List String} {v : List UInt8} :
    v ∈ origins.filterMap originValue? ↔
      ∃ o ∈ origins, IsValue o ∧ v = Text.Utf8.encode o.toList := by
  simp only [List.mem_filterMap, originValue?_eq_some_iff]

/-- The policy of a configuration: everyone may ask where no origin is configured outside
production, and the configured origins that can be said otherwise.  The wildcard is none of them. -/
theorem ofConfig?_eq_some {c : Config} {p : CorsPolicy} (h : (ofConfig? c).2 = some p) :
    (c.environment.isProduction = false ∧ c.origins = [] ∧ p = anyone) ∨
      ((c.environment.isProduction = true ∨ c.origins ≠ []) ∧
        p = only (c.origins.filterMap originValue?) ∧
        wildcard ∉ c.origins.filterMap originValue?) := by
  unfold ofConfig? at h
  by_cases horigins : c.origins = []
  · rw [horigins] at h ⊢
    cases hproduction : c.environment.isProduction with
    | true =>
      simp only [hproduction, List.isEmpty_nil, if_true, Option.some.injEq] at h
      exact .inr ⟨.inl rfl, h.symm, List.not_mem_nil⟩
    | false =>
      simp only [hproduction, List.isEmpty_nil, if_true, Bool.false_eq_true, if_false,
        Option.some.injEq] at h
      exact .inl ⟨rfl, rfl, h.symm⟩
  · rw [if_neg (by simpa using horigins)] at h
    dsimp only at h
    split at h
    · cases h
    · next hwildcard =>
      refine .inr ⟨.inr horigins, (Option.some.inj h).symm, ?_⟩
      simpa using hwildcard

end CorsPolicy

/-! ## Configured origins -/

namespace Config

/-- The origins of a configuration are the ones that its variables list, if they list any. -/
theorem origins_of_ofVariables {vars : Variables} {c : Config} (h : ofVariables vars = .ok c) :
    c.origins = ((vars.get? "CORS_ALLOWED_ORIGINS").map splitOrigins).getD [] :=
  (ofVariables_eq_ok_iff.1 h).origins

/-- **An origin is a piece between commas,** without the blanks around it, that is not empty. -/
theorem mem_splitOrigins_iff {raw o : String} :
    o ∈ splitOrigins raw ↔ ∃ piece, Text.IsPiece ',' raw.toList piece ∧ Text.trim piece ≠ [] ∧
      o = String.ofList (Text.trim piece) := by
  simp only [splitOrigins, List.mem_map, List.mem_filter, Bool.not_eq_true',
    List.isEmpty_eq_false_iff, ← Text.mem_split_iff]
  constructor
  · rintro ⟨_, ⟨⟨piece, hpiece, rfl⟩, hne⟩, rfl⟩
    exact ⟨piece, hpiece, hne, rfl⟩
  · rintro ⟨piece, hpiece, hne, rfl⟩
    exact ⟨_, ⟨⟨piece, hpiece, rfl⟩, hne⟩, rfl⟩

theorem mem_origins_iff {vars : Variables} {c : Config} (h : ofVariables vars = .ok c)
    {o : String} :
    o ∈ c.origins ↔ ∃ raw piece, vars.get? "CORS_ALLOWED_ORIGINS" = some raw ∧
      Text.IsPiece ',' raw.toList piece ∧ Text.trim piece ≠ [] ∧
      o = String.ofList (Text.trim piece) := by
  rw [origins_of_ofVariables h]
  cases vars.get? "CORS_ALLOWED_ORIGINS" with
  | none => simp
  | some raw => simp [mem_splitOrigins_iff]

end Config

/-! ## Answers -/

namespace Service

open Http (valuesOf valuesOf_append valuesOf_eq_nil valuesOf_of_forall)

/-- Sending changes no header but the length of the body. -/
theorem valuesOf_send {name : String} (hname : "content-length" ≠ name) (r : Http.Request)
    (a : Http.Answer) : valuesOf name (send r a).headers = valuesOf name a.headers := by
  have hlength : valuesOf name [.ofText "content-length" (Text.ofNat a.body.size)] = [] :=
    valuesOf_eq_nil (List.forall_mem_singleton.2 hname)
  rw [headers_send, Http.Answer.withLength, Http.Answer.withHeaders, valuesOf_append, hlength,
    List.append_nil]

theorem allowed_send (r : Http.Request) (a : Http.Answer) : (send r a).allowed = a.allowed :=
  valuesOf_send (by decide) r a

theorem allowed_withHeaders (a : Http.Answer) (headers : List Http.Header) :
    (a.withHeaders headers).allowed =
      a.allowed ++ valuesOf "access-control-allow-origin" headers := by
  rw [Http.Answer.allowed, Http.Answer.withHeaders, valuesOf_append]
  rfl

theorem valuesOf_allowOrigin (p : CorsPolicy) (r : Http.Request) :
    valuesOf "access-control-allow-origin" (p.allowOrigin r) = p.allowed r :=
  valuesOf_of_forall fun _ hh => CorsPolicy.name_of_mem_allowOrigin hh

/-- A lookup that got a token allows what the policy says. -/
theorem allowed_admitted (s : Service) (m : Moment) (l : Lookup) (r : Http.Request) :
    (s.admitted m l r).answer.allowed = s.cors.allowed r := by
  -- the other headers for browsers have other names
  have hheaders : valuesOf "access-control-allow-origin" (s.cors.headers r) = s.cors.allowed r :=
    valuesOf_allowOrigin s.cors r
  have hrespond : (s.respond l r).1.allowed = s.cors.allowed r := by
    unfold respond
    split
    · rw [allowed_withHeaders]
      exact valuesOf_allowOrigin s.cors r
    · split
      · show ((answerOf (l.perform r)).withHeaders (s.cors.headers r)).allowed = _
        rw [allowed_withHeaders, hheaders, answerOf_eq_json]
        rfl
      · rw [allowed_withHeaders, hheaders]
        rfl
  show (send r ((s.respond l r).1.withHeaders [⟨requestIdName, requestId m r⟩])).allowed = _
  rw [allowed_send, allowed_withHeaders, hrespond]
  exact List.append_nil _

/-- A lookup that got no token allows nothing. -/
theorem allowed_refused (wait : Nat) (l : Lookup) (r : Http.Request) :
    (refused wait l r).answer.allowed = [] := by
  refine valuesOf_eq_nil fun h hh hname => (turnedAway_refused wait l r).no_cors h hh ?_
  rw [hname]
  decide

/-- What is no lookup allows nothing. -/
theorem allowed_handle_of_not_isLookup (s : Service) (m : Moment) (b : Bucket) {r : Http.Request}
    (hr : isLookup r = false) : (s.handle m b r).1.answer.allowed = [] := by
  unfold handle
  split
  · rw [allowed_send]
    rfl
  · rw [allowed_send]
    unfold health
    split
    · rfl
    · rfl
  · next l hl =>
    rw [isLookup_of_ofPath? hl] at hr
    cases hr

/-- An answer allows what the policy says if it is the one to a lookup that got a token, and nothing
otherwise. -/
theorem allowed_handle_cases (s : Service) (m : Moment) (b : Bucket) (r : Http.Request) :
    (s.handle m b r).1.answer.allowed = [] ∨
      (isLookup r = true ∧ (s.handle m b r).1.answer.status ≠ 429 ∧
        (s.handle m b r).1.answer.allowed = s.cors.allowed r) := by
  cases hr : isLookup r with
  | false => exact .inl (s.allowed_handle_of_not_isLookup m b hr)
  | true =>
    obtain ⟨l, hl⟩ := exists_lookup_of_isLookup hr
    cases hb : b.take s.quota m.now with
    | none =>
      rw [handle_of_take_eq_none hl hb]
      exact .inl (allowed_refused _ l r)
    | some rest =>
      rw [handle_of_take_eq_some hl hb]
      refine .inr ⟨rfl, ?_, s.allowed_admitted m l r⟩
      have hstatus := (s.done_admitted m l r).status
      dsimp only
      omega

/-! ## The lock -/

/-- What is allowed under a configuration in an answer to a request, whatever the answer is. -/
structure Restricts (c : Config) (r : Http.Request) (allowed : List (List UInt8)) : Prop where
  at_most_one : allowed.length ≤ 1
  anyone : [0x2A] ∈ allowed → c.environment.isProduction = false ∧ c.origins = []
  configured : ∀ v ∈ allowed, v ≠ [0x2A] →
    r.header? "origin" = some v ∧ ∃ o ∈ c.origins, v = Text.Utf8.encode o.toList
  production : c.environment.isProduction = true → c.origins = [] → allowed = []
  unsayable : c.origins ≠ [] → (∀ o ∈ c.origins, ¬ CorsPolicy.IsValue o) → allowed = []

/-- What is allowed under a configuration in every answer to a lookup that got a token. -/
structure Grants (c : Config) (r : Http.Request) (allowed : List (List UInt8)) : Prop where
  anyone : c.environment.isProduction = false → c.origins = [] → allowed = [[0x2A]]
  configured : ∀ o ∈ c.origins, CorsPolicy.IsValue o →
    r.header? "origin" = some (Text.Utf8.encode o.toList) →
    allowed = [Text.Utf8.encode o.toList]

theorem restricts_nil (c : Config) (r : Http.Request) : Restricts c r [] where
  at_most_one := Nat.zero_le 1
  anyone h := by cases h
  configured v h := by cases h
  production _ _ := rfl
  unsayable _ _ := rfl

/-- The policy of a service is the one of its configuration. -/
theorem cors_of_ofConfig_eq_ok {c : Config} {s : Service} (h : (ofConfig c).2 = .ok s) :
    (CorsPolicy.ofConfig? c).2 = some s.cors := by
  unfold ofConfig at h
  split at h
  · cases h
  · dsimp only at h
    split at h
    · next cors hcors =>
      obtain rfl := Except.ok.inj h
      exact hcors
    · cases h

/-- **A policy allows nothing that is not configured.** -/
theorem restricts_allowed {c : Config} {s : Service} (h : (ofConfig c).2 = .ok s)
    (r : Http.Request) : Restricts c r (s.cors.allowed r) := by
  have hone := s.cors.length_allowed_le r
  rcases CorsPolicy.ofConfig?_eq_some (cors_of_ofConfig_eq_ok h) with
    ⟨hproduction, horigins, hcors⟩ | ⟨hclosed, hcors, hwildcard⟩
  · rw [hcors] at hone ⊢
    exact {
      at_most_one := hone
      anyone := fun _ => ⟨hproduction, horigins⟩
      configured := fun v hv hne => absurd (List.mem_singleton.1 hv) hne
      production := by
        intro hp
        rw [hproduction] at hp
        cases hp
      unsayable := fun hne => absurd horigins hne }
  · rw [hcors] at hone ⊢
    have horigin : ∀ v ∈ (CorsPolicy.only (c.origins.filterMap CorsPolicy.originValue?)).allowed r,
        r.header? "origin" = some v ∧
          ∃ o ∈ c.origins, CorsPolicy.IsValue o ∧ v = Text.Utf8.encode o.toList := by
      intro v hv
      rw [CorsPolicy.mem_allowed_only_iff, CorsPolicy.mem_filterMap_originValue?_iff] at hv
      exact hv
    exact {
      at_most_one := hone
      anyone := fun hv => absurd (CorsPolicy.mem_allowed_only_iff.1 hv).2 hwildcard
      configured := by
        intro v hv _
        obtain ⟨hheader, o, ho, -, he⟩ := horigin v hv
        exact ⟨hheader, o, ho, he⟩
      production := by
        intro _ hnone
        rw [List.eq_nil_iff_forall_not_mem]
        intro v hv
        obtain ⟨-, o, ho, -⟩ := horigin v hv
        rw [hnone] at ho
        cases ho
      unsayable := by
        intro _ hall
        rw [List.eq_nil_iff_forall_not_mem]
        intro v hv
        obtain ⟨-, o, ho, hvalue, -⟩ := horigin v hv
        exact hall o ho hvalue }

/-- **A policy allows all that is configured.** -/
theorem grants_allowed {c : Config} {s : Service} (h : (ofConfig c).2 = .ok s)
    (r : Http.Request) : Grants c r (s.cors.allowed r) := by
  rcases CorsPolicy.ofConfig?_eq_some (cors_of_ofConfig_eq_ok h) with
    ⟨hproduction, horigins, hcors⟩ | ⟨hclosed, hcors, hwildcard⟩
  · rw [hcors]
    exact {
      anyone := fun _ _ => rfl
      configured := by
        intro o ho
        rw [horigins] at ho
        cases ho }
  · rw [hcors]
    exact {
      anyone := by
        intro hp hnone
        rcases hclosed with hclosed | hclosed
        · rw [hclosed] at hp
          cases hp
        · exact absurd hnone hclosed
      configured := by
        intro o ho hvalue hheader
        have hmem : Text.Utf8.encode o.toList ∈ c.origins.filterMap CorsPolicy.originValue? :=
          CorsPolicy.mem_filterMap_originValue?_iff.2 ⟨o, ho, hvalue, rfl⟩
        rw [CorsPolicy.allowed_only, hheader, Option.toList_some, List.filter_cons,
          if_pos (decide_eq_true hmem)]
        rfl }

/-- **The lock on origins.**  Among the answers to any requests, whenever they arrive, each allows
every origin or the one of its request as its configuration says, or none; every answer to a lookup
that got a token allows all that its configuration says; and no other answer allows anything.  The
origins of a configuration are the pieces that its variable lists. -/
theorem run_locks_origins {c : Config} {s : Service} (hs : (ofConfig c).2 = .ok s)
    (visits : List (Moment × Http.Request)) :
    (s.run .full visits).length = visits.length ∧
    (∀ i m r, visits[i]? = some (m, r) → ∃ reply, (s.run .full visits)[i]? = some reply ∧
      Restricts c r reply.answer.allowed ∧
      (∀ l, Route.ofPath? r.target.path = some (.lookup l) →
        ((s.after .full (visits.take i)).take s.quota m.now).isSome = true →
        Grants c r reply.answer.allowed) ∧
      (reply.answer.status = 429 ∨ isLookup r = false → reply.answer.allowed = [])) ∧
    ∀ vars, Config.ofVariables vars = .ok c → ∀ o, o ∈ c.origins ↔
      ∃ raw piece, vars.get? "CORS_ALLOWED_ORIGINS" = some raw ∧
        Text.IsPiece ',' raw.toList piece ∧ Text.trim piece ≠ [] ∧
        o = String.ofList (Text.trim piece) := by
  refine ⟨s.length_run .full visits, ?_, fun vars hvars o => Config.mem_origins_iff hvars⟩
  intro i m r hi
  have hcases := s.allowed_handle_cases m (s.after .full (visits.take i)) r
  refine ⟨_, s.run_getElem? .full hi, ?_, ?_, ?_⟩
  · rcases hcases with hnil | ⟨-, -, hcors⟩
    · rw [hnil]
      exact restricts_nil c r
    · rw [hcors]
      exact restricts_allowed hs r
  · intro l hl hb
    obtain ⟨rest, htake⟩ := Option.isSome_iff_exists.1 hb
    rw [handle_of_take_eq_some hl htake, s.allowed_admitted]
    exact grants_allowed hs r
  · intro hout
    rcases hcases with hnil | ⟨hr, hstatus, -⟩
    · exact hnil
    · rcases hout with h | h
      · exact absurd h hstatus
      · rw [hr] at h
        cases h

/-- A request from an origin. -/
def visitFrom (origin : String) (method : Http.Method) (path : String) : Moment × Http.Request :=
  (⟨7, "fresh", "now"⟩, ⟨method, ⟨[], path.toList, none⟩, [.ofText "origin" origin], []⟩)

/-- Blanks around an origin are not part of it, and even the answer to a wrong method allows it. -/
theorem run_locks_origins_listed :
    ∃ c s reply, Config.ofVariables ⟨[("API_PORT", "1"), ("CORS_ALLOWED_ORIGINS", ", http://a ")]⟩ =
        .ok c ∧ (ofConfig c).2 = .ok s ∧
      (s.run .full [visitFrom "http://a" .get "/health",
        visitFrom "http://a" .get "/api/v1/audit-labels"])[1]? = some reply ∧
      reply.answer.allowed = [Text.Utf8.encode "http://a".toList] := by
  obtain ⟨s, hs⟩ : ∃ s, (ofConfig ⟨"audit-labels", .development, "127.0.0.1", 1, ⟨10, 50⟩,
      ["http://a"]⟩).2 = .ok s := ⟨_, rfl⟩
  have hvars : Config.ofVariables ⟨[("API_PORT", "1"), ("CORS_ALLOWED_ORIGINS", ", http://a ")]⟩ =
      .ok ⟨"audit-labels", .development, "127.0.0.1", 1, ⟨10, 50⟩, ["http://a"]⟩ := by
    cbv
  obtain ⟨-, hlock, -⟩ := run_locks_origins hs [visitFrom "http://a" .get "/health",
    visitFrom "http://a" .get "/api/v1/audit-labels"]
  obtain ⟨reply, hreply, -, hgrants, -⟩ := hlock 1 _ _ rfl
  refine ⟨_, s, reply, hvars, hs, hreply, ?_⟩
  have hvalue : CorsPolicy.IsValue "http://a" := CorsPolicy.isValue_iff.2 (by decide)
  refine (hgrants .batch (by decide) ?_).configured "http://a" (by decide) hvalue rfl
  exact Bucket.take_full_isSome s.quota 7

end Service

end AuditLabels

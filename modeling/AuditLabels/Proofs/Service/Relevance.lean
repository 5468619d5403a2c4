import AuditLabels.Proofs.Service.Run
import Mathlib.Data.List.Forall2

/-!
# What matters of a request

Which parts of a request can make a difference to its answer.  Only its method, its path, its origin
and its identifier do, and of a `POST` also its content type and its body; everything else is for
the log.  The bucket is shared by all requests, and of a request only its path matters to it.
-/

namespace AuditLabels

/-! ## Parts that matter -/

/-- The requests are the same in what matters.  Of several headers of a name the first counts. -/
structure Http.Request.Alike (r r' : Http.Request) : Prop where
  method : r.method = r'.method
  path : r.target.path = r'.target.path
  origin : r.header? "origin" = r'.header? "origin"
  id : r.header? "x-request-id" = r'.header? "x-request-id"
  content : r.method = .post →
    r.header? "content-type" = r'.header? "content-type" ∧ r.body = r'.body

namespace CorsPolicy

variable {r r' : Http.Request}

theorem allowOrigin_congr (p : CorsPolicy) (h : r.header? "origin" = r'.header? "origin") :
    p.allowOrigin r = p.allowOrigin r' := by
  cases p with
  | anyone => rfl
  | only origins => rw [allowOrigin, allowOrigin, h]

/-- Of a request only its origin shows in the headers for browsers. -/
theorem headers_congr (p : CorsPolicy) (h : r.header? "origin" = r'.header? "origin") :
    p.headers r = p.headers r' ∧ p.preflightHeaders r = p.preflightHeaders r' := by
  have hallow : p.allowOrigin r = p.allowOrigin r' := p.allowOrigin_congr h
  rw [headers, headers, preflightHeaders, preflightHeaders, hallow]
  exact ⟨rfl, rfl⟩

end CorsPolicy

/-- The content type and the body of a request matter only where a batch is handed in. -/
theorem Lookup.perform_congr {l : Lookup} {r r' : Http.Request} (h : r.Alike r')
    (hserves : l.serves r.method = true) : l.perform r = l.perform r' := by
  cases l with
  | catalog space => rfl
  | label space code => rfl
  | batch =>
    have hpost : r.method = .post := by simpa [serves] using hserves
    obtain ⟨htype, hbody⟩ := h.content hpost
    have hjson : Http.MediaType.saysJson r = Http.MediaType.saysJson r' := by
      rw [Http.MediaType.saysJson, Http.MediaType.saysJson, htype]
    have hread : readBatch r = readBatch r' := by
      rw [readBatch, readBatch, hjson, hbody]
    show resolveBatch r = resolveBatch r'
    rw [resolveBatch, resolveBatch, hread]

namespace Service

variable {r r' : Http.Request}

/-! ## The same moment -/

theorem send_congr (h : r.method = r'.method) (a : Http.Answer) : send r a = send r' a := by
  rw [send, send, h]

theorem health_congr (h : r.method = r'.method) (m : Moment) : health m r = health m r' := by
  rw [health, health, h]

theorem refused_congr (h : r.method = r'.method) (wait : Nat) (l : Lookup) :
    refused wait l r = refused wait l r' := by
  rw [refused, refused, h, send_congr h]

theorem respond_congr (s : Service) (l : Lookup) (h : r.Alike r') :
    s.respond l r = s.respond l r' := by
  obtain ⟨hheaders, hpreflight⟩ := s.cors.headers_congr h.origin
  unfold respond
  rw [← h.method, hheaders, hpreflight]
  by_cases hserves : l.serves r.method = true
  · rw [if_pos hserves, if_pos hserves, Lookup.perform_congr h hserves]
  · rw [if_neg hserves, if_neg hserves]

theorem answer_admitted_congr (s : Service) (m : Moment) (l : Lookup) (h : r.Alike r') :
    (s.admitted m l r).answer = (s.admitted m l r').answer := by
  have hid : requestId m r = requestId m r' := by
    have hheader : r.header? requestIdName = r'.header? requestIdName := h.id
    rw [requestId, requestId, hheader]
  show send r ((s.respond l r).1.withHeaders [⟨requestIdName, requestId m r⟩]) =
    send r' ((s.respond l r').1.withHeaders [⟨requestIdName, requestId m r'⟩])
  rw [s.respond_congr l h, hid, send_congr h.method]

/-- **Requests that are alike are answered alike,** byte for byte, at the same moment. -/
theorem answer_handle_congr (s : Service) (m : Moment) (b : Bucket) (h : r.Alike r') :
    (s.handle m b r).1.answer = (s.handle m b r').1.answer := by
  unfold handle
  rw [← h.path]
  cases Route.ofPath? r.target.path with
  | none => exact send_congr h.method _
  | some route =>
    cases route with
    | health =>
      show send r (health m r) = send r' (health m r')
      rw [health_congr h.method m, send_congr h.method]
    | lookup l =>
      dsimp only
      cases b.take s.quota m.now with
      | none =>
        dsimp only
        rw [refused_congr h.method]
      | some rest => exact s.answer_admitted_congr m l h

/-! ## Different moments -/

/-- A body without the time that it tells. -/
def withoutTime : Http.Body → Http.Body
  | .json (.object members) => .json (.object (members.filter fun member => member.1 ≠ "timestamp"))
  | body => body

/-- An answer without what is made up for it: an identifier that its request was not sent with, and
in a sign of life the time, and the length of the body that tells it. -/
def withoutMade (r : Http.Request) (a : Http.Answer) : Http.Answer :=
  if Route.ofPath? r.target.path = some .health ∧ a.status = 200 then
    ⟨a.status, a.headers.filter fun h => h.name ≠ "content-length", withoutTime a.body⟩
  else maskFreshId r a

theorem withoutMade_congr (h : r.Alike r') (a : Http.Answer) :
    withoutMade r a = withoutMade r' a := by
  have hheader : r.header? requestIdName = r'.header? requestIdName := h.id
  rw [withoutMade, withoutMade, maskFreshId, maskFreshId, h.path, hheader]

/-- A sign of life without what is made up for it. -/
theorem withoutMade_health (m : Moment) (hroute : Route.ofPath? r.target.path = some .health)
    (hmethod : r.method = .get ∨ r.method = .head) :
    withoutMade r (send r (health m r)) =
      ⟨200, [.ofText "content-type" "application/json"], if r.method = .head then .empty
        else .json (.object [("status", .text "healthy"), ("version", .text version)])⟩ := by
  have hjson : health m r = .json 200 (healthJson m) := if_pos hmethod
  have hstatus : (send r (health m r)).status = 200 := by
    rw [status_send, hjson]
    rfl
  -- the length is left out whatever it is, so the body that it is the length of need not be read
  have hheaders (length : String) :
      [.ofText "content-type" "application/json", .ofText "content-length" length].filter
          (fun h : Http.Header => h.name ≠ "content-length") =
        [.ofText "content-type" "application/json"] := rfl
  rw [withoutMade, if_pos ⟨hroute, hstatus⟩, hstatus, headers_send, body_send, hjson]
  refine congrArg₂ (Http.Answer.mk 200) (hheaders _) ?_
  by_cases hhead : r.method = .head
  · rw [if_pos hhead, if_pos hhead]
    rfl
  · rw [if_neg hhead, if_neg hhead]
    rfl

/-- When a request arrives shows in what is made up for its answer only, as long as it finds the
bucket at the same time. -/
theorem withoutMade_handle (s : Service) {m m' : Moment} (hm : m.now = m'.now) (b : Bucket)
    (r : Http.Request) :
    withoutMade r (s.handle m b r).1.answer = withoutMade r (s.handle m' b r).1.answer := by
  unfold handle
  rw [hm]
  cases hroute : Route.ofPath? r.target.path with
  | none => rfl
  | some route =>
    cases route with
    | health =>
      show withoutMade r (send r (health m r)) = withoutMade r (send r (health m' r))
      by_cases hmethod : r.method = .get ∨ r.method = .head
      · rw [withoutMade_health m hroute hmethod, withoutMade_health m' hroute hmethod]
      · rw [health, health, if_neg hmethod, if_neg hmethod]
    | lookup l =>
      dsimp only
      cases b.take s.quota m'.now with
      | none => rfl
      | some rest =>
        have hlookup : Route.ofPath? r.target.path ≠ some .health := by
          rw [hroute]
          exact nofun
        show withoutMade r (s.admitted m l r).answer = withoutMade r (s.admitted m' l r).answer
        rw [withoutMade, withoutMade, if_neg fun h => hlookup h.1, if_neg fun h => hlookup h.1]
        exact s.maskFreshId_admitted m m' l r

/-! ## The bucket -/

/-- **Everyone shares the bucket.**  Whether a request is turned away, and what it leaves in the
bucket, depends on whether it is a lookup only. -/
theorem handle_shares (s : Service) {m m' : Moment} (hm : m.now = m'.now) (b : Bucket)
    (h : isLookup r = isLookup r') :
    (s.handle m b r).2 = (s.handle m' b r').2 ∧
      ((s.handle m b r).1.answer.status = 429 ↔ (s.handle m' b r').1.answer.status = 429) := by
  cases hr : isLookup r with
  -- neither of them looks at the bucket
  | false =>
    obtain ⟨hstatus, hbucket⟩ := s.handle_of_not_isLookup m b hr
    obtain ⟨hstatus', hbucket'⟩ := s.handle_of_not_isLookup m' b (h.symm.trans hr)
    exact ⟨hbucket.trans hbucket'.symm, iff_of_false hstatus hstatus'⟩
  -- both take a token or none, although they may be different lookups
  | true =>
    obtain ⟨l, hl⟩ := exists_lookup_of_isLookup hr
    obtain ⟨l', hl'⟩ := exists_lookup_of_isLookup (h.symm.trans hr)
    cases htake : b.take s.quota m.now with
    | none =>
      have htake' : b.take s.quota m'.now = none := by rw [← hm, htake]
      rw [handle_of_take_eq_none hl htake, handle_of_take_eq_none hl' htake']
      exact ⟨rfl, iff_of_true (turnedAway_refused _ l r).status (turnedAway_refused _ l' r').status⟩
    | some rest =>
      have htake' : b.take s.quota m'.now = some rest := by rw [← hm, htake]
      rw [handle_of_take_eq_some hl htake, handle_of_take_eq_some hl' htake']
      have hdone := (s.done_admitted m l r).status
      have hdone' := (s.done_admitted m' l' r').status
      dsimp only
      refine ⟨rfl, iff_of_false ?_ ?_⟩
      · omega
      · omega

theorem isLookup_congr (h : r.Alike r') : isLookup r = isLookup r' := by
  rw [isLookup, isLookup, h.path]

/-! ## Two runs -/

/-- What clients are told in a run, without what is made up for each answer. -/
def told (s : Service) (b : Bucket) (visits : List (Moment × Http.Request)) : List Http.Answer :=
  List.zipWith (fun visit reply => withoutMade visit.2 reply.answer) visits (s.run b visits)

/-- The two requests arrive at the same time and are alike. -/
def SameVisit (v v' : Moment × Http.Request) : Prop := v.1.now = v'.1.now ∧ v.2.Alike v'.2

/-- The two requests arrive at the same time, and both of them or none is a lookup. -/
def SameKind (v v' : Moment × Http.Request) : Prop :=
  v.1.now = v'.1.now ∧ isLookup v.2 = isLookup v'.2

theorem told_congr (s : Service) {visits others : List (Moment × Http.Request)}
    (h : List.Forall₂ SameVisit visits others) (b : Bucket) :
    s.told b visits = s.told b others := by
  -- the bucket is general, since each request finds the one that the request before it leaves
  induction h generalizing b with
  | nil => rfl
  | @cons v v' visits others hv _ ih =>
    obtain ⟨hm, halike⟩ := hv
    have hhead : withoutMade v.2 (s.handle v.1 b v.2).1.answer =
        withoutMade v'.2 (s.handle v'.1 b v'.2).1.answer := by
      rw [s.withoutMade_handle hm b v.2, s.answer_handle_congr v'.1 b halike,
        withoutMade_congr halike]
    have hbucket : (s.handle v.1 b v.2).2 = (s.handle v'.1 b v'.2).2 :=
      (s.handle_shares hm b (isLookup_congr halike)).1
    have htail := ih (s.handle v.1 b v.2).2
    show withoutMade v.2 (s.handle v.1 b v.2).1.answer :: s.told (s.handle v.1 b v.2).2 visits =
      withoutMade v'.2 (s.handle v'.1 b v'.2).1.answer :: s.told (s.handle v'.1 b v'.2).2 others
    rw [hhead, htail, hbucket]

theorem run_shares (s : Service) {visits others : List (Moment × Http.Request)}
    (h : List.Forall₂ SameKind visits others) (b : Bucket) :
    s.after b visits = s.after b others ∧
      List.Forall₂ (fun reply reply' => reply.answer.status = 429 ↔ reply'.answer.status = 429)
        (s.run b visits) (s.run b others) := by
  induction h generalizing b with
  | nil => exact ⟨rfl, .nil⟩
  | @cons v v' visits others hv _ ih =>
    obtain ⟨hbucket, hstatus⟩ := s.handle_shares hv.1 b hv.2
    obtain ⟨hafter, hrun⟩ := ih (s.handle v.1 b v.2).2
    rw [hbucket] at hafter hrun
    refine ⟨?_, ?_⟩
    · show s.after (s.handle v.1 b v.2).2 visits = s.after (s.handle v'.1 b v'.2).2 others
      rw [hbucket, hafter]
    · refine .cons hstatus ?_
      show List.Forall₂ _ (s.run (s.handle v.1 b v.2).2 visits) _
      rw [hbucket]
      exact hrun

/-- **Nothing else of a request matters.**  In whatever state the bucket is, requests that are alike
get the same answer at the same moment, and the same but for what is made up for it at different
ones, and leave the same bucket; so do any sequences of them.  The bucket is the same for everyone:
whatever requests hold, only how many of them are lookups before it decides whether one is turned
away. -/
theorem run_ignores_rest (s : Service) (b : Bucket) :
    (∀ m r r', Http.Request.Alike r r' → (s.handle m b r).1.answer = (s.handle m b r').1.answer) ∧
    (∀ visits others, List.Forall₂ SameVisit visits others →
      s.told b visits = s.told b others ∧ s.after b visits = s.after b others) ∧
    ∀ visits others, List.Forall₂ SameKind visits others →
      s.after b visits = s.after b others ∧
        List.Forall₂ (fun reply reply' => reply.answer.status = 429 ↔ reply'.answer.status = 429)
          (s.run b visits) (s.run b others) := by
  refine ⟨fun m r r' h => s.answer_handle_congr m b h, ?_, fun _ _ h => s.run_shares h b⟩
  intro visits others h
  have hkind : List.Forall₂ SameKind visits others :=
    h.imp fun _ _ hv => ⟨hv.1, isLookup_congr hv.2⟩
  exact ⟨s.told_congr h b, (s.run_shares hkind b).1⟩

/-- A visitor who comes back as someone else: with a query, a cookie, an address of another network
and a body. -/
def disguise : Moment × Http.Request :=
  (⟨7, "other", "later"⟩, ⟨.get, ⟨[], "/api/v1/audit-labels/action/1".toList, some "a=1".toList⟩,
    [.ofText "cookie" "id=1", .ofText "x-forwarded-for" "10.0.0.1",
      .ofText "content-type" "text/plain"], Text.Utf8.encode "{}".toList⟩)

/-- The same visitor without the disguise. -/
def plain : Moment × Http.Request := visit .get "/api/v1/audit-labels/action/1"

/-- The disguise does not show in an answer, and with a burst of one it does not get another. -/
theorem run_ignores_rest_disguise :
    ∃ s reply, (ofConfig ⟨"audit-labels", .development, "127.0.0.1", 0, ⟨1, 1⟩, []⟩).2 = .ok s ∧
      (s.handle plain.1 .full disguise.2).1.answer = (s.handle plain.1 .full plain.2).1.answer ∧
      s.told .full [plain, disguise] = s.told .full [plain, plain] ∧
      (s.run .full [plain, disguise])[1]? = some reply ∧ reply.answer.status = 429 := by
  obtain ⟨s, hs⟩ : ∃ s, (ofConfig ⟨"audit-labels", .development, "127.0.0.1", 0, ⟨1, 1⟩,
      []⟩).2 = .ok s := ⟨_, rfl⟩
  have hplain : plain.2.Alike plain.2 := ⟨rfl, rfl, rfl, rfl, nofun⟩
  have hdisguise : disguise.2.Alike plain.2 := ⟨rfl, rfl, by decide, by decide, nofun⟩
  obtain ⟨hanswer, htold, hshares⟩ := run_ignores_rest s .full
  have hsame : List.Forall₂ SameVisit [plain, disguise] [plain, plain] :=
    .cons ⟨rfl, hplain⟩ (.cons ⟨rfl, hdisguise⟩ .nil)
  have hkind : List.Forall₂ SameKind [plain, disguise] [plain, plain] :=
    .cons ⟨rfl, rfl⟩ (.cons ⟨rfl, rfl⟩ .nil)
  -- the one token of the burst is gone when the visitor comes back, disguised or not
  have hburst : s.quota.burst = 1 :=
    Quota.burst_of_ofRate?_eq_some (ofRate?_of_ofConfig_eq_ok hs)
  have hroute : Route.ofPath? plain.2.target.path =
      some (.lookup (.label "action".toList "1".toList)) := by decide
  have htimes : ∀ v ∈ [plain], v.1.now = 7 := List.forall_mem_singleton.2 rfl
  have hspent : ¬ lookups [plain] < s.quota.burst := by
    rw [hburst]
    decide
  have hrefused : (s.handle plain.1 (s.after .full [plain]) plain.2).1.answer.status = 429 := by
    rw [handle_after htimes rfl hroute, if_neg hspent]
    exact (turnedAway_refused _ _ _).status
  have hruns := (hshares _ _ hkind).2
  cases hruns with
  | cons _ hsecond =>
    cases hsecond with
    | cons hiff _ =>
      exact ⟨s, _, hs, hanswer _ _ _ hdisguise, (htold _ _ hsame).1, rfl, hiff.2 hrefused⟩

end Service

end AuditLabels

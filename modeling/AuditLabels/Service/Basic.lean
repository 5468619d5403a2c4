import AuditLabels.Service.Cors
import AuditLabels.Service.Query

/-!
# The service

From a request to its answer.  The health check and paths that lead nowhere are answered at once.  A
lookup takes a token of the rate limit first, whatever its method and content; if it gets one, the
request is given an identifier, which the answer carries and the log records, and the answer tells
browsers whether they may show it.
-/

namespace AuditLabels

/-! ## Setting up -/

/-- Why the service does not start. -/
inductive StartError where
  | badAddress (text : String)
  | badRate (rate : Rate)
  /-- The wildcard is among the configured origins. -/
  | wildcardOrigin
  | bindFailed (address : String) (reason : String)
  deriving DecidableEq, Repr

/-- What stays the same from request to request. -/
structure Service where
  quota : Quota
  cors : CorsPolicy

namespace Service

/-- The service of a configuration, with what is logged on the way. -/
def ofConfig (c : Config) : List Log.Event × Except StartError Service :=
  match Quota.ofRate? c.rate with
  | none => ([], .error (.badRate c.rate))
  | some quota =>
    let (events, cors?) := CorsPolicy.ofConfig? c
    (events, match cors? with
      | some cors => .ok ⟨quota, cors⟩
      | none => .error .wildcardOrigin)

/-! ## Answers -/

/-- What a request finds: the time in nanoseconds, an identifier that no request had before, and the
time as it is told to clients. -/
structure Moment where
  now : Nat
  freshId : String
  timestamp : String

/-- An answer with what is logged about it. -/
structure Reply where
  answer : Http.Answer
  entries : List Log.Entry

/-- The methods that a path is served by. -/
def allow (methods : String) : Http.Header := .ofText "allow" methods

/-- The answer to a method that a path is not served by. -/
def notAllowed (methods : String) : Http.Answer :=
  (Http.Answer.bare 405).withHeaders [allow methods]

/-- An answer as it is sent: with the length of its body, and to `HEAD` without the body. -/
def send (r : Http.Request) (a : Http.Answer) : Http.Answer :=
  if r.method = .head then a.withLength.withoutBody else a.withLength

/-! ## The health check -/

/-- The version of the service. -/
def version : String := "0.1.0"

/-- The sign of life. -/
def healthJson (m : Moment) : Json :=
  .object
    [("status", .text "healthy"), ("version", .text version), ("timestamp", .text m.timestamp)]

/-- The answer of the health check. -/
def health (m : Moment) (r : Http.Request) : Http.Answer :=
  if r.method = .get ∨ r.method = .head then .json 200 (healthJson m) else notAllowed "GET,HEAD"

/-! ## Lookups -/

/-- The name of the header that identifies a request. -/
def requestIdName : String := "x-request-id"

/-- The identifier of a request: the one it was sent with, or a fresh one. -/
def requestId (m : Moment) (r : Http.Request) : List UInt8 :=
  (r.header? requestIdName).getD (Text.Utf8.encode m.freshId.toList)

/-- An identifier as the log shows it. -/
def shownId (id : List UInt8) : String :=
  match Http.visibleText? id with
  | some cs => String.ofList cs
  | none => "unknown"

/-- The span around the work on a request. -/
def requestSpan (m : Moment) (r : Http.Request) : Log.Entry :=
  .span ⟨.info, "http_request",
    [("method", .text r.method.name), ("uri", .text r.target.text),
     ("request_id", .text (shownId (requestId m r)))]⟩

/-- The answer to the outcome of a lookup. -/
def answerOf (o : Outcome) : Http.Answer :=
  match o.result with
  | .ok v => .json 200 v
  | .error f => f.answer

/-- What is logged about the outcome of a lookup. -/
def eventsOf (o : Outcome) : List Log.Event :=
  o.events ++ match o.result with
    | .ok _ => []
    | .error f => f.events

/-- A lookup that got a token, before it is sent: a preflight, a method that does not serve it, or
the lookup itself. -/
def respond (s : Service) (l : Lookup) (r : Http.Request) : Http.Answer × List Log.Event :=
  if r.method = .options then
    ((Http.Answer.bare 200).withHeaders (allow l.allowed :: s.cors.preflightHeaders r), [])
  else if l.serves r.method then
    let o := l.perform r
    ((answerOf o).withHeaders (s.cors.headers r), eventsOf o)
  else ((notAllowed l.allowed).withHeaders (s.cors.headers r), [])

/-- The reply to a lookup that got a token. -/
def admitted (s : Service) (m : Moment) (l : Lookup) (r : Http.Request) : Reply :=
  let (a, events) := s.respond l r
  ⟨send r (a.withHeaders [⟨requestIdName, requestId m r⟩]), requestSpan m r :: events.map .event⟩

/-- The reply to a lookup that got no token: when to ask again, in seconds. -/
def refused (wait : Nat) (l : Lookup) (r : Http.Request) : Reply :=
  let f := Failure.ofRefusal .spent
  let after := Http.Header.ofText "x-ratelimit-after" (Text.ofNat (wait / nanosPerSecond))
  let methods := if l.serves r.method then [] else [allow l.allowed]
  ⟨send r (f.answer.withHeaders (after :: methods)), f.events.map .event⟩

/-! ## Requests -/

/-- The reply to a request, and the bucket it leaves. -/
def handle (s : Service) (m : Moment) (b : Bucket) (r : Http.Request) : Reply × Bucket :=
  match Route.ofPath? r.target.path with
  | none => (⟨send r (.bare 404), []⟩, b)
  | some .health => (⟨send r (health m r), []⟩, b)
  | some (.lookup l) => match b.take s.quota m.now with
    | some rest => (s.admitted m l r, rest)
    | none => (refused (b.wait s.quota m.now) l r, b)

/-- The replies to requests, one after another. -/
def run (s : Service) (b : Bucket) : List (Moment × Http.Request) → List Reply
  | [] => []
  | (m, r) :: rest =>
    let (reply, b) := s.handle m b r
    reply :: s.run b rest

end Service

/-! ## Errors of starting -/

namespace StartError

/-- What is wrong with the configuration; nothing for the wildcard, which ends the program. -/
def reason? : StartError → Option String
  | badAddress text => some ("Invalid API address " ++ text ++ ": invalid socket address syntax")
  | badRate rate =>
    some ("Invalid rate limit: " ++ Text.ofNat rate.perSecond.toNat ++ " req/s, burst " ++
      Text.ofNat rate.burst.toNat)
  | wildcardOrigin => none
  | bindFailed address reason => some ("Failed to bind to " ++ address ++ ": " ++ reason)

/-- The failure that an error is told as. -/
def failure? (e : StartError) : Option Failure := e.reason?.map .configuration

end StartError

end AuditLabels

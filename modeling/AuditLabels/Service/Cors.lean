import AuditLabels.Config.Basic
import AuditLabels.Http.Message
import AuditLabels.Log.Entry

/-!
# Cross-origin requests

Which origins browsers may ask from.  Origins that are configured are the only ones; where none are,
production serves none and every other environment serves all.
-/

namespace AuditLabels

/-- Which origins may ask. -/
inductive CorsPolicy where
  | anyone
  /-- Exactly these origins. -/
  | only (origins : List (List UInt8))
  deriving DecidableEq, Repr

namespace CorsPolicy

/-! ## From the configuration -/

/-- The value of a header that says an origin, if it can be one. -/
def originValue? (origin : String) : Option (List UInt8) :=
  let value := Text.Utf8.encode origin.toList
  if value.all Http.isValueByte then some value else none

/-- The origin that would stand for all of them. -/
def wildcard : List UInt8 := [0x2A]

/-- The part of the program that logs about origins. -/
def logTarget : String := "audit_api::middleware"

/-- The warning about an origin that no header can say. -/
def invalidOrigin (origin : String) : Log.Event :=
  ⟨.warn, logTarget, "Invalid CORS origin", [("origin", .text origin)]⟩

/-- The policy of a configuration, with what is logged about it.  There is none if the wildcard is
configured as an origin. -/
def ofConfig? (c : Config) : List Log.Event × Option CorsPolicy :=
  if c.origins.isEmpty then
    if c.environment.isProduction then
      ([⟨.warn, logTarget, "CORS: No allowed origins configured in production mode. " ++
          "Requests from browsers will be blocked.", []⟩], some (only []))
    else
      ([⟨.warn, logTarget, "CORS: Allowing any origin (development mode). " ++
          "Configure CORS_ALLOWED_ORIGINS for production.", []⟩], some anyone)
  else
    let values := c.origins.filterMap originValue?
    let invalid := c.origins.filter fun origin => (originValue? origin).isNone
    (invalid.map invalidOrigin ++
      [⟨.info, logTarget, "CORS: Allowing configured origins",
        [("count", .number values.length)]⟩],
     if values.contains wildcard then none else some (only values))

/-! ## Headers -/

/-- The name of the header that allows an origin. -/
def allowOriginName : String := "access-control-allow-origin"

/-- The origin that a request may come from, if there is one. -/
def allowOrigin (p : CorsPolicy) (r : Http.Request) : List Http.Header :=
  match p with
  | anyone => [⟨allowOriginName, wildcard⟩]
  | only origins => match r.header? "origin" with
    | some origin => if origins.contains origin then [⟨allowOriginName, origin⟩] else []
    | none => []

/-- The headers of a request that an answer depends on. -/
def vary : Http.Header :=
  .ofText "vary" "origin, access-control-request-method, access-control-request-headers"

/-- The headers of every answer but the one to a preflight. -/
def headers (p : CorsPolicy) (r : Http.Request) : List Http.Header :=
  vary :: .ofText "access-control-expose-headers"
    "x-request-id,x-ratelimit-limit,x-ratelimit-remaining,x-ratelimit-reset" :: p.allowOrigin r

/-- The headers of the answer to a preflight: which methods and headers may be used. -/
def preflightHeaders (p : CorsPolicy) (r : Http.Request) : List Http.Header :=
  vary :: .ofText "access-control-allow-methods" "GET,POST,OPTIONS" ::
    .ofText "access-control-allow-headers" "content-type,accept,x-request-id" :: p.allowOrigin r

end CorsPolicy

end AuditLabels

import AuditLabels.Config.Environment
import AuditLabels.Config.Variables
import AuditLabels.Text.Blank
import AuditLabels.Text.Numeral

/-!
# Configuration

What the service is set up with.  It is read from variables; the port has to be set, everything else
has a default.  The first variable with a bad value, in the order in which they are read, decides
the error.
-/

namespace AuditLabels

/-! ## The configuration -/

/-- How fast requests are let in: so many per second, and so many at once. -/
structure Rate where
  perSecond : UInt32
  burst : UInt32
  deriving DecidableEq, Repr

/-- What the service is set up with. -/
structure Config where
  name : String
  environment : Environment
  host : String
  port : UInt16
  rate : Rate
  /-- The origins that browsers may ask from. -/
  origins : List String
  deriving DecidableEq, Repr

/-- The address to listen on, as text. -/
def Config.address (c : Config) : String := c.host ++ ":" ++ Text.ofNat c.port.toNat

/-! ## Errors -/

/-- Why variables make no configuration. -/
inductive ConfigError where
  | missing (name : String)
  | invalid (name : String) (value : String)
  deriving DecidableEq, Repr

/-- The message about a variable quotes its value untouched. -/
def ConfigError.message : ConfigError → String
  | missing name => "Missing required environment variable: " ++ name
  | invalid name value => "Invalid value for " ++ name ++ ": " ++ value

namespace Config

/-! ## Names and defaults -/

/-- The variable with the name of the service. -/
def nameVariable : String := "APP_NAME"

/-- The variable with the environment. -/
def environmentVariable : String := "APP_ENV"

/-- The variable with the host to listen on. -/
def hostVariable : String := "API_HOST"

/-- The variable with the port to listen on, the only one that has to be set. -/
def portVariable : String := "API_PORT"

/-- The variable with the number of requests in a second. -/
def perSecondVariable : String := "RATE_LIMIT_REQUESTS_PER_SECOND"

/-- The variable with the number of requests at once. -/
def burstVariable : String := "RATE_LIMIT_BURST"

/-- The variable with the origins that browsers may ask from. -/
def originsVariable : String := "CORS_ALLOWED_ORIGINS"

/-- The name of a service that is not given one. -/
def defaultName : String := "audit-labels"

/-- The host of a service that is not given one: only the machine itself can reach it. -/
def defaultHost : String := "127.0.0.1"

/-- The number of requests in a second where none is set. -/
def defaultPerSecond : UInt32 := 10

/-- The number of requests at once where none is set. -/
def defaultBurst : UInt32 := 50

/-! ## Reading -/

/-- The value of a variable as `read` sees it. -/
def readVariable {α : Type} (read : String → Option α) (vars : Variables) (name : String) :
    Except ConfigError (Option α) :=
  match vars.get? name with
  | none => .ok none
  | some raw => match read raw with
    | some x => .ok (some x)
    | none => .error (.invalid name raw)

/-- A number with blanks around it. -/
def padded {α : Type} (read : List Char → Option α) (raw : String) : Option α :=
  read (Text.trim raw.toList)

/-- The pieces of a text between commas, without the blanks around them and without empty ones. -/
def splitOrigins (raw : String) : List String :=
  (((Text.split ',' raw.toList).map Text.trim).filter fun cs => !cs.isEmpty).map String.ofList

/-- The configuration that variables say. -/
def ofVariables (vars : Variables) : Except ConfigError Config := do
  let environment ← readVariable Environment.parse? vars environmentVariable
  let port ← readVariable (padded Text.uint16?) vars portVariable
  let port ← match port with
    | some p => .ok p
    | none => .error (.missing portVariable)
  let perSecond ← readVariable (padded Text.uint32?) vars perSecondVariable
  let burst ← readVariable (padded Text.uint32?) vars burstVariable
  return {
    name := (vars.get? nameVariable).getD defaultName
    environment := environment.getD .development
    host := (vars.get? hostVariable).getD defaultHost
    port
    rate := ⟨perSecond.getD defaultPerSecond, burst.getD defaultBurst⟩
    origins := ((vars.get? originsVariable).map splitOrigins).getD [] }

end Config

end AuditLabels

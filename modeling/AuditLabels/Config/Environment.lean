import AuditLabels.Text.Lowercase

/-!
# Environments

Where the service runs.  The environment is named in any case of letters, but without blanks around
the name.
-/

namespace AuditLabels

/-- Where the service runs. -/
inductive Environment where
  | development | staging | production
  deriving DecidableEq, Repr

namespace Environment

/-- The name by which an environment is chosen. -/
def name : Environment → String
  | development => "development"
  | staging => "staging"
  | production => "production"

/-- The name of an environment as logs show it. -/
def title : Environment → String
  | development => "Development"
  | staging => "Staging"
  | production => "Production"

/-- The environment that a text names. -/
def parse? (s : String) : Option Environment :=
  let word := String.ofList (Text.lower s.toList)
  if word = "production" then some production
  else if word = "staging" then some staging
  else if word = "development" then some development
  else none

/-- Whether clients from outside are served. -/
def isProduction (e : Environment) : Bool := e = production

end Environment

end AuditLabels

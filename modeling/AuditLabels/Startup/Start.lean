import AuditLabels.Net.Endpoint
import AuditLabels.Service.Basic

/-!
# Starting the service

The address is read first, then the service is set up, and only then the address is bound; the first
of these steps that fails decides the error.
-/

namespace AuditLabels

/-- What happens when an endpoint is bound: nothing, or the reason why it cannot be. -/
abbrev Binding : Type := Net.Endpoint → Option String

/-- A service that listens. -/
structure Running where
  service : Service
  endpoint : Net.Endpoint

namespace Running

/-- The note that the service listens. -/
def listening (e : Net.Endpoint) : Log.Event :=
  ⟨.info, "audit_api::server", "Server listening", [("addr", .text e.text)]⟩

/-- Start the service of a configuration; with what is logged on the way. -/
def start (binding : Binding) (c : Config) : List Log.Event × Except StartError Running :=
  match Net.Endpoint.parse? c.address with
  | none => ([], .error (.badAddress c.address))
  | some endpoint => match Service.ofConfig c with
    | (events, .error e) => (events, .error e)
    | (events, .ok service) => match binding endpoint with
      | some reason => (events, .error (.bindFailed endpoint.text reason))
      | none => (events ++ [listening endpoint], .ok ⟨service, endpoint⟩)

/-- An address that cannot be read is found out before anything is logged. -/
theorem start_of_parse?_eq_none {c : Config} (h : Net.Endpoint.parse? c.address = none)
    (binding : Binding) : start binding c = ([], .error (.badAddress c.address)) := by
  simp [start, h]

end Running

end AuditLabels

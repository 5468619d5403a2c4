import AuditLabels.Proofs.Net.Host
import AuditLabels.Proofs.Service.Setup
import AuditLabels.Startup.Start

/-!
# Where a service listens, and what is told if it does not

The address of a configuration is put together from its host and its port, and read again.  It is
read exactly if the host by itself is one, and then as that host and that port; so the first step of
starting depends on the host alone.  The rate is looked at next, then the origins, and only then an
endpoint is bound.
-/

namespace AuditLabels

/-! ## The address of a configuration -/

/-- The colon in front of the digits of a port is the last one. -/
theorem colon_notMem_of_digits? {cs : List Char} {n : Nat} (h : Text.digits? cs = some n) :
    ':' ∉ cs := by
  intro hmem
  have hcolon := (Text.digits?_eq_some_iff.1 h).2.1 ':' hmem
  cases hcolon

/-- A text has one last colon. -/
theorem eq_of_last_colon {x y u v : List Char} (hu : ':' ∉ u) (hv : ':' ∉ v)
    (h : x ++ ':' :: u = y ++ ':' :: v) : x = y ∧ u = v := by
  rcases List.append_eq_append_iff.1 h with ⟨w, rfl, hw⟩ | ⟨w, rfl, hw⟩
  · cases w with
    | nil => exact ⟨(List.append_nil x).symm, (List.cons.inj hw).2⟩
    | cons c w =>
      rw [(List.cons.inj hw).2] at hu
      exact absurd (List.mem_append_right w List.mem_cons_self) hu
  · cases w with
    | nil => exact ⟨List.append_nil y, (List.cons.inj hw).2.symm⟩
    | cons c w =>
      rw [(List.cons.inj hw).2] at hv
      exact absurd (List.mem_append_right w List.mem_cons_self) hv

/-- **The host decides whether an address can be read,** and no host changes the port. -/
theorem Config.parse?_address_eq_some_iff {c : Config} {e : Net.Endpoint} :
    Net.Endpoint.parse? c.address = some e ↔
      Net.IsHost c.host.toList e.ip e.scope ∧ e.port = c.port := by
  have hdigits := Text.digits?_toDigits c.port.toNat
  have htext : c.address.toList = c.host.toList ++ ':' :: Nat.toDigits 10 c.port.toNat := by
    simp [Config.address, Text.ofNat, String.toList_append]
  rw [Net.Endpoint.parse?_eq_some_iff, htext]
  constructor
  · rintro ⟨host, port, heq, hhost, hport⟩
    obtain ⟨rfl, rfl⟩ :=
      eq_of_last_colon (colon_notMem_of_digits? hdigits) (colon_notMem_of_digits? hport) heq
    rw [hdigits] at hport
    exact ⟨hhost, (UInt16.toNat_inj.1 (Option.some.inj hport)).symm⟩
  · rintro ⟨hhost, hport⟩
    exact ⟨_, _, rfl, hhost, hport ▸ hdigits⟩

/-! ## The steps of starting -/

namespace Running

/-- Starting tries to bind an endpoint if it comes to something else where only the binding of this
endpoint goes differently. -/
def Tries (c : Config) (e : Net.Endpoint) : Prop :=
  ∃ binding binding' : Binding, (∀ e', e' ≠ e → binding e' = binding' e') ∧
    start binding c ≠ start binding' c

/-- Starting ends in an error: nothing is logged before, and nothing is bound. -/
structure TurnedAway (c : Config) (error : StartError) : Prop where
  start_eq : ∀ binding, start binding c = ([], .error error)
  not_tries : ∀ e, ¬ Tries c e

/-- What starting comes to behind the address: the first step that fails decides. -/
inductive Comes (c : Config) (e : Net.Endpoint) (binding : Binding) :
    List Log.Event × Except StartError Running → Prop
  | badRate : ¬ c.rate.Kept → Comes c e binding ([], .error (.badRate c.rate))
  | wildcard {events : List Log.Event} : c.rate.Kept → "*" ∈ c.origins →
      Comes c e binding (events, .error .wildcardOrigin)
  | bindFailed {events : List Log.Event} {reason : String} : c.rate.Kept → "*" ∉ c.origins →
      binding e = some reason → Comes c e binding (events, .error (.bindFailed e.text reason))
  | listens {events : List Log.Event} {service : Service} : c.rate.Kept → "*" ∉ c.origins →
      binding e = none → Comes c e binding (events ++ [listening e], .ok ⟨service, e⟩)

/-- Behind the address, nothing is told about it any more. -/
theorem Comes.ne_badAddress {c : Config} {e : Net.Endpoint} {binding : Binding}
    {result : List Log.Event × Except StartError Running} (h : Comes c e binding result)
    (text : String) : result.2 ≠ .error (.badAddress text) := by
  cases h <;> nofun

/-- Starting gets past the address, with this endpoint and no other. -/
structure Reaches (c : Config) (e : Net.Endpoint) : Prop where
  comes : ∀ binding, Comes c e binding (start binding c)
  badRate : ¬ c.rate.Kept → TurnedAway c (.badRate c.rate)
  tries_iff : ∀ e', Tries c e' ↔ c.rate.Kept ∧ "*" ∉ c.origins ∧ e' = e

/-- What does not depend on the binding does not try it. -/
theorem turnedAway {c : Config} {error : StartError}
    (h : ∀ binding, start binding c = ([], .error error)) : TurnedAway c error := by
  refine ⟨h, ?_⟩
  rintro e ⟨binding, binding', -, hne⟩
  exact hne ((h binding).trans (h binding').symm)

theorem turnedAway_of_not_isHost {c : Config}
    (h : ∀ ip scope, ¬ Net.IsHost c.host.toList ip scope) :
    TurnedAway c (.badAddress c.address) := by
  refine turnedAway (start_of_parse?_eq_none ?_)
  cases hread : Net.Endpoint.parse? c.address with
  | none => rfl
  | some e => exact absurd (Config.parse?_address_eq_some_iff.1 hread).1 (h e.ip e.scope)

section Read

variable {c : Config} {e : Net.Endpoint} (h : Net.Endpoint.parse? c.address = some e)

include h

theorem start_of_not_kept (hkept : ¬ c.rate.Kept) (binding : Binding) :
    start binding c = ([], .error (.badRate c.rate)) := by
  rw [start, h, Service.ofConfig_of_not_kept hkept]

theorem start_of_wildcard (hkept : c.rate.Kept) (hwildcard : "*" ∈ c.origins) :
    ∃ events, ∀ binding, start binding c = (events, .error .wildcardOrigin) := by
  obtain ⟨quota, hsetup⟩ := Service.ofConfig_of_kept hkept
  rw [(CorsPolicy.ofConfig?_eq_none_iff c).2 hwildcard] at hsetup
  refine ⟨(CorsPolicy.ofConfig? c).1, fun binding => ?_⟩
  rw [start, h, hsetup]
  rfl

theorem start_of_kept (hkept : c.rate.Kept) (hwildcard : "*" ∉ c.origins) :
    ∃ events service, ∀ binding, start binding c = match binding e with
      | some reason => (events, .error (.bindFailed e.text reason))
      | none => (events ++ [listening e], .ok ⟨service, e⟩) := by
  obtain ⟨quota, hsetup⟩ := Service.ofConfig_of_kept hkept
  cases hcors : (CorsPolicy.ofConfig? c).2 with
  | none => exact absurd ((CorsPolicy.ofConfig?_eq_none_iff c).1 hcors) hwildcard
  | some cors =>
    rw [hcors] at hsetup
    refine ⟨(CorsPolicy.ofConfig? c).1, ⟨quota, cors⟩, fun binding => ?_⟩
    rw [start, h, hsetup]
    rfl

/-- The first step that fails decides. -/
theorem comes_start (binding : Binding) : Comes c e binding (start binding c) := by
  by_cases hkept : c.rate.Kept
  · by_cases hwildcard : "*" ∈ c.origins
    · obtain ⟨events, hstart⟩ := start_of_wildcard h hkept hwildcard
      rw [hstart]
      exact .wildcard hkept hwildcard
    · obtain ⟨events, service, hstart⟩ := start_of_kept h hkept hwildcard
      rw [hstart]
      cases hbinding : binding e with
      | some reason => exact .bindFailed hkept hwildcard hbinding
      | none => exact .listens hkept hwildcard hbinding
  · rw [start_of_not_kept h hkept]
    exact .badRate hkept

/-- An endpoint is tried to be bound behind all the other steps. -/
theorem tries_iff_of_parse? (e' : Net.Endpoint) :
    Tries c e' ↔ c.rate.Kept ∧ "*" ∉ c.origins ∧ e' = e := by
  constructor
  · rintro ⟨binding, binding', hothers, hne⟩
    by_cases hkept : c.rate.Kept
    · by_cases hwildcard : "*" ∈ c.origins
      · obtain ⟨events, hstart⟩ := start_of_wildcard h hkept hwildcard
        exact absurd ((hstart binding).trans (hstart binding').symm) hne
      · obtain ⟨events, service, hstart⟩ := start_of_kept h hkept hwildcard
        refine ⟨hkept, hwildcard, ?_⟩
        by_contra hother
        rw [hstart, hstart, hothers e (Ne.symm hother)] at hne
        exact hne rfl
    · have hstart := start_of_not_kept h hkept
      exact absurd ((hstart binding).trans (hstart binding').symm) hne
  · rintro ⟨hkept, hwildcard, rfl⟩
    obtain ⟨events, service, hstart⟩ := start_of_kept h hkept hwildcard
    refine ⟨fun _ => none, fun e => if e = e' then some "" else none, ?_, ?_⟩
    · exact fun e he => (if_neg he).symm
    · rw [hstart, hstart, if_pos rfl]
      exact fun heq => nomatch congrArg Prod.snd heq

theorem reaches_of_parse? : Reaches c e where
  comes := comes_start h
  badRate hkept := turnedAway (start_of_not_kept h hkept)
  tries_iff := tries_iff_of_parse? h

end Read

/-- **The address, the rate, the binding: starting fails at the first of them.**  A host that is an
address of version 4, or one of version 6 in brackets, gets past the address, and the endpoint has
this address and the port of the configuration.  No other host does, whatever else is configured. -/
theorem start_in_order (c : Config) :
    (TurnedAway c (.badAddress c.address) ↔ ∀ ip scope, ¬ Net.IsHost c.host.toList ip scope) ∧
    (Net.Lookalike c.host.toList → TurnedAway c (.badAddress c.address)) ∧
    (StartError.badAddress c.address).failure? = some (.configuration ("Invalid API address " ++
      c.host ++ ":" ++ Text.ofNat c.port.toNat ++ ": invalid socket address syntax")) ∧
    ∀ ip scope, Net.IsHost c.host.toList ip scope → Reaches c ⟨ip, scope, c.port⟩ := by
  have hreaches : ∀ ip scope, Net.IsHost c.host.toList ip scope →
      Reaches c ⟨ip, scope, c.port⟩ := fun ip scope hhost =>
    reaches_of_parse? (Config.parse?_address_eq_some_iff.2 ⟨hhost, rfl⟩)
  refine ⟨⟨?_, turnedAway_of_not_isHost⟩, ?_, ?_, hreaches⟩
  · intro haway ip scope hhost
    have hcomes := (hreaches ip scope hhost).comes fun _ => none
    exact hcomes.ne_badAddress c.address (congrArg Prod.snd (haway.start_eq _))
  · exact fun hlike => turnedAway_of_not_isHost hlike.not_isHost
  · simp [StartError.failure?, StartError.reason?, Config.address, String.append_assoc]

/-- The configuration of a host and a rate, and otherwise of defaults. -/
def onHost (host : String) (rate : Rate) : Config :=
  ⟨"audit-labels", .development, host, 8080, rate, []⟩

/-- A host with a scope gets as far as the rate, and a rate of nothing is not looked at behind a
host with a port. -/
theorem start_in_order_scoped :
    Reaches (onHost "[::1%7]" ⟨0, 50⟩) ⟨.v6 [0, 0, 0, 0, 0, 0, 0, 1], 7, 8080⟩ ∧
      TurnedAway (onHost "[::1%7]" ⟨0, 50⟩) (.badRate ⟨0, 50⟩) ∧
      TurnedAway (onHost "127.0.0.1:80" ⟨0, 50⟩) (.badAddress "127.0.0.1:80:8080") := by
  have hread : Net.Endpoint.parse? (onHost "[::1%7]" ⟨0, 50⟩).address =
      some ⟨.v6 [0, 0, 0, 0, 0, 0, 0, 1], 7, 8080⟩ := by
    decide +kernel
  have hhost := (Config.parse?_address_eq_some_iff.1 hread).1
  have hscoped := (start_in_order (onHost "[::1%7]" ⟨0, 50⟩)).2.2.2 _ _ hhost
  have hport : Net.Lookalike "127.0.0.1:80".toList := by
    have htext : "127.0.0.1:80".toList = Net.quad 127 0 0 1 ++ ':' :: ['8', '0'] := by cbv
    rw [htext]
    exact .with_port (.v4 127 0 0 1)
  have haddress : (onHost "127.0.0.1:80" ⟨0, 50⟩).address = "127.0.0.1:80:8080" := by cbv
  refine ⟨hscoped, hscoped.badRate fun h => absurd h.some_in_second (by decide), ?_⟩
  rw [← haddress]
  exact (start_in_order (onHost "127.0.0.1:80" ⟨0, 50⟩)).2.1 hport

end Running

end AuditLabels

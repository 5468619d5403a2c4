import AuditLabels.Config.Basic
import AuditLabels.Proofs.Json.Accepts
import AuditLabels.Proofs.Text.Lowercase
import AuditLabels.Proofs.Text.Numeral
import AuditLabels.Proofs.Text.Pieces

/-!
# Variables that make a configuration

Which variables are read as a configuration, as which one, and what is told about the others.  Four
variables are judged, one after another; the first one that is not as it should be decides the
error, and the name, the host and the origins are never found fault with.
-/

namespace AuditLabels

/-! ## Values of variables -/

namespace Environment

/-- The text is the name of the environment, in any case of ASCII letters. -/
def IsName (raw : String) (e : Environment) : Prop := raw.toList.map Char.toLower = e.name.toList

/-- The names are ASCII, and no letter from elsewhere has one of theirs for its lower case. -/
theorem plain_name (e : Environment) : ∀ d ∈ e.name.toList, d.toNat < 0x80 ∧ d ≠ 'k' := by
  have hall : (e.name.toList.all fun d => d.toNat < 0x80 && d != 'k') = true := by
    cases e <;> decide
  intro d hd
  have hd := List.all_eq_true.1 hall d hd
  simpa using hd

theorem parse?_eq_some_iff {raw : String} {e : Environment} :
    parse? raw = some e ↔ IsName raw e := by
  have hname : IsName raw e ↔ String.ofList (Text.lower raw.toList) = e.name := by
    rw [IsName, ← Text.lower_eq_iff e.plain_name, ← String.toList_inj, String.toList_ofList]
  rw [hname]
  unfold parse?
  dsimp only
  constructor
  · intro h
    split at h
    · next hword =>
      obtain rfl := Option.some.inj h
      exact hword
    split at h
    · next hword =>
      obtain rfl := Option.some.inj h
      exact hword
    split at h
    · next hword =>
      obtain rfl := Option.some.inj h
      exact hword
    · cases h
  · intro h
    rw [h]
    cases e <;> decide

end Environment

namespace Config

/-- The text is a numeral, with or without blanks around it, and says the number. -/
def IsNumber (raw : String) (n : Nat) : Prop :=
  ∃ cs, Text.IsPadded raw.toList cs ∧ Text.IsUnsigned cs n

theorem isNumber_iff {raw : String} {n : Nat} :
    IsNumber raw n ↔ Text.IsUnsigned (Text.trim raw.toList) n := by
  constructor
  · rintro ⟨cs, hpadded, hn⟩
    rw [Text.trim_of_isPadded hpadded, Text.trim_of_forall_not hn.not_isBlank]
    exact hn
  · intro h
    exact ⟨_, Text.isPadded_trim raw.toList, h⟩

theorem padded_uint16?_eq_some_iff {raw : String} {x : UInt16} :
    padded Text.uint16? raw = some x ↔ IsNumber raw x.toNat := by
  rw [padded, Text.uint16?_eq_some_iff, isNumber_iff]

theorem padded_uint32?_eq_some_iff {raw : String} {x : UInt32} :
    padded Text.uint32? raw = some x ↔ IsNumber raw x.toNat := by
  rw [padded, Text.uint32?_eq_some_iff, isNumber_iff]

/-- A number of 16 bits is one up to 65535. -/
theorem exists_uint16_iff {p : Nat → Prop} : (∃ x : UInt16, p x.toNat) ↔ ∃ n ≤ 65535, p n := by
  constructor
  · rintro ⟨x, hx⟩
    have hlt := x.toNat_lt
    exact ⟨x.toNat, by omega, hx⟩
  · rintro ⟨n, hn, hp⟩
    refine ⟨UInt16.ofNat n, ?_⟩
    rw [UInt16.toNat_ofNat_of_lt' (by show n < 65536; omega)]
    exact hp

/-- A number of 32 bits is one up to 4294967295. -/
theorem exists_uint32_iff {p : Nat → Prop} :
    (∃ x : UInt32, p x.toNat) ↔ ∃ n ≤ 4294967295, p n := by
  constructor
  · rintro ⟨x, hx⟩
    have hlt := x.toNat_lt
    exact ⟨x.toNat, by omega, hx⟩
  · rintro ⟨n, hn, hp⟩
    refine ⟨UInt32.ofNat n, ?_⟩
    rw [UInt32.toNat_ofNat_of_lt' (by show n < 4294967296; omega)]
    exact hp

/-! ## One variable -/

section Reading

variable {α : Type} {read : String → Option α} {vars : Variables} {name : String}

/-- What is taken of a variable: what its text says, or the default if it is not set. -/
def Takes (means : String → α → Prop) (raw? : Option String) (default x : α) : Prop :=
  match raw? with
  | none => x = default
  | some raw => means raw x

theorem readVariable_eq_none_iff :
    readVariable read vars name = .ok none ↔ vars.get? name = none := by
  unfold readVariable
  cases vars.get? name with
  | none => simp
  | some raw =>
    cases hread : read raw with
    | none => simp [hread]
    | some x => simp [hread]

theorem readVariable_eq_some_iff {x : α} :
    readVariable read vars name = .ok (some x) ↔
      ∃ raw, vars.get? name = some raw ∧ read raw = some x := by
  unfold readVariable
  cases vars.get? name with
  | none => simp
  | some raw =>
    cases hread : read raw with
    | none => simp [hread]
    | some y => simp [hread]

/-- A variable is accepted if its text, should it be set, says something. -/
theorem exists_readVariable_eq_ok_iff :
    (∃ v, readVariable read vars name = .ok v) ↔
      ∀ raw, vars.get? name = some raw → ∃ x, read raw = some x := by
  constructor
  · rintro ⟨v, hv⟩ raw hraw
    cases v with
    | none =>
      rw [readVariable_eq_none_iff.1 hv] at hraw
      cases hraw
    | some x =>
      obtain ⟨raw', hraw', hx⟩ := readVariable_eq_some_iff.1 hv
      rw [hraw] at hraw'
      obtain rfl := Option.some.inj hraw'
      exact ⟨x, hx⟩
  · intro h
    cases hraw : vars.get? name with
    | none => exact ⟨none, readVariable_eq_none_iff.2 hraw⟩
    | some raw =>
      obtain ⟨x, hx⟩ := h raw hraw
      exact ⟨some x, readVariable_eq_some_iff.2 ⟨raw, hraw, hx⟩⟩

/-- **A variable that is found fault with** is set, and its text is told as it is. -/
theorem readVariable_eq_error_iff {e : ConfigError} :
    readVariable read vars name = .error e ↔
      ∃ raw, vars.get? name = some raw ∧ (¬ ∃ v, readVariable read vars name = .ok v) ∧
        e = .invalid name raw := by
  unfold readVariable
  cases vars.get? name with
  | none => simp
  | some raw =>
    cases hread : read raw with
    | none => simp [hread, eq_comm]
    | some x => simp [hread]

/-- What is read of a variable, or else the default, is what is taken of it. -/
theorem exists_readVariable_getD_iff {default x : α} :
    (∃ v, readVariable read vars name = .ok v ∧ v.getD default = x) ↔
      Takes (fun raw y => read raw = some y) (vars.get? name) default x := by
  unfold Takes readVariable
  cases vars.get? name with
  | none => simp [eq_comm]
  | some raw =>
    cases hread : read raw with
    | none => simp [hread]
    | some y => simp [hread]

end Reading

/-! ## Conditions -/

/-- The environment is not set, or to a name in any case of ASCII letters. -/
def EnvironmentValid (vars : Variables) : Prop :=
  ∀ raw, vars.get? "APP_ENV" = some raw → ∃ e, Environment.IsName raw e

/-- The port is set, to a number up to 65535. -/
def PortValid (vars : Variables) : Prop :=
  ∃ raw, vars.get? "API_PORT" = some raw ∧ ∃ n ≤ 65535, IsNumber raw n

/-- The variable is not set, or to a number up to 4294967295. -/
def NumberValid (vars : Variables) (name : String) : Prop :=
  ∀ raw, vars.get? name = some raw → ∃ n ≤ 4294967295, IsNumber raw n

/-- What variables have to fulfil to make a configuration. -/
structure Valid (vars : Variables) : Prop where
  environment : EnvironmentValid vars
  port : PortValid vars
  perSecond : NumberValid vars "RATE_LIMIT_REQUESTS_PER_SECOND"
  burst : NumberValid vars "RATE_LIMIT_BURST"

/-- What is told about the first condition that variables do not fulfil. -/
inductive FirstFault (vars : Variables) : ConfigError → Prop where
  | environment {raw : String} (hset : vars.get? "APP_ENV" = some raw)
      (hfault : ¬ EnvironmentValid vars) : FirstFault vars (.invalid "APP_ENV" raw)
  | missing (henvironment : EnvironmentValid vars) (hunset : vars.get? "API_PORT" = none) :
      FirstFault vars (.missing "API_PORT")
  | port {raw : String} (henvironment : EnvironmentValid vars)
      (hset : vars.get? "API_PORT" = some raw) (hfault : ¬ PortValid vars) :
      FirstFault vars (.invalid "API_PORT" raw)
  | perSecond {raw : String} (henvironment : EnvironmentValid vars) (hport : PortValid vars)
      (hset : vars.get? "RATE_LIMIT_REQUESTS_PER_SECOND" = some raw)
      (hfault : ¬ NumberValid vars "RATE_LIMIT_REQUESTS_PER_SECOND") :
      FirstFault vars (.invalid "RATE_LIMIT_REQUESTS_PER_SECOND" raw)
  | burst {raw : String} (henvironment : EnvironmentValid vars) (hport : PortValid vars)
      (hperSecond : NumberValid vars "RATE_LIMIT_REQUESTS_PER_SECOND")
      (hset : vars.get? "RATE_LIMIT_BURST" = some raw)
      (hfault : ¬ NumberValid vars "RATE_LIMIT_BURST") :
      FirstFault vars (.invalid "RATE_LIMIT_BURST" raw)

/-- What a configuration has from variables, and what it has by default. -/
structure Says (vars : Variables) (c : Config) : Prop where
  name : c.name = (vars.get? "APP_NAME").getD "audit-labels"
  environment : Takes Environment.IsName (vars.get? "APP_ENV") .development c.environment
  host : c.host = (vars.get? "API_HOST").getD "127.0.0.1"
  port : ∃ raw, vars.get? "API_PORT" = some raw ∧ IsNumber raw c.port.toNat
  perSecond : Takes IsNumber (vars.get? "RATE_LIMIT_REQUESTS_PER_SECOND") 10
    c.rate.perSecond.toNat
  burst : Takes IsNumber (vars.get? "RATE_LIMIT_BURST") 50 c.rate.burst.toNat
  origins : c.origins = ((vars.get? "CORS_ALLOWED_ORIGINS").map splitOrigins).getD []

/-! ## Steps of reading -/

section Steps

variable {vars : Variables}

theorem exists_readEnvironment_iff :
    (∃ v, readVariable Environment.parse? vars environmentVariable = .ok v) ↔
      EnvironmentValid vars := by
  rw [exists_readVariable_eq_ok_iff]
  simp only [Environment.parse?_eq_some_iff]
  rfl

theorem exists_readPort_iff :
    (∃ x, readVariable (padded Text.uint16?) vars portVariable = .ok (some x)) ↔
      PortValid vars := by
  simp only [readVariable_eq_some_iff, padded_uint16?_eq_some_iff]
  constructor
  · rintro ⟨x, raw, hraw, hx⟩
    exact ⟨raw, hraw, exists_uint16_iff.1 ⟨x, hx⟩⟩
  · rintro ⟨raw, hraw, hn⟩
    obtain ⟨x, hx⟩ := exists_uint16_iff.2 hn
    exact ⟨x, raw, hraw, hx⟩

/-- A port that is set is read if it is valid. -/
theorem exists_readPort_iff_of_set {raw : String} (hset : vars.get? portVariable = some raw) :
    (∃ v, readVariable (padded Text.uint16?) vars portVariable = .ok v) ↔ PortValid vars := by
  rw [← exists_readPort_iff]
  constructor
  · rintro ⟨v, hv⟩
    cases v with
    | none =>
      rw [readVariable_eq_none_iff.1 hv] at hset
      cases hset
    | some x => exact ⟨x, hv⟩
  · rintro ⟨x, hx⟩
    exact ⟨some x, hx⟩

theorem exists_readNumber_iff {name : String} :
    (∃ v, readVariable (padded Text.uint32?) vars name = .ok v) ↔ NumberValid vars name := by
  rw [exists_readVariable_eq_ok_iff]
  simp only [padded_uint32?_eq_some_iff, exists_uint32_iff]
  rfl

/-- What is taken as a number of 32 bits is what is taken as a number. -/
theorem takes_uint32_iff {raw? : Option String} {d x : UInt32} :
    Takes (fun raw y => padded Text.uint32? raw = some y) raw? d x ↔
      Takes IsNumber raw? d.toNat x.toNat := by
  cases raw? with
  | none => exact UInt32.toNat_inj.symm
  | some raw => exact padded_uint32?_eq_some_iff

theorem takes_environment_iff {raw? : Option String} {d e : Environment} :
    Takes (fun raw y => Environment.parse? raw = some y) raw? d e ↔
      Takes Environment.IsName raw? d e := by
  cases raw? with
  | none => rfl
  | some raw => exact Environment.parse?_eq_some_iff

end Steps

/-! ## All variables -/

/-- Variables make the configuration that has from them what they say. -/
theorem ofVariables_eq_ok_iff {vars : Variables} {c : Config} :
    ofVariables vars = .ok c ↔ Says vars c := by
  constructor
  · intro h
    obtain ⟨environment?, henvironment, h⟩ := Json.bind_eq_ok.1 h
    obtain ⟨port?, hport, h⟩ := Json.bind_eq_ok.1 h
    cases port? with
    | none => cases h
    | some port =>
      obtain ⟨_, hsome, h⟩ := Json.bind_eq_ok.1 h
      obtain ⟨perSecond?, hperSecond, h⟩ := Json.bind_eq_ok.1 h
      obtain ⟨burst?, hburst, h⟩ := Json.bind_eq_ok.1 h
      obtain rfl := Except.ok.inj h
      obtain rfl := Except.ok.inj hsome
      obtain ⟨raw, hraw, hx⟩ := readVariable_eq_some_iff.1 hport
      exact {
        name := rfl
        environment := takes_environment_iff.1
          (exists_readVariable_getD_iff.1 ⟨_, henvironment, rfl⟩)
        host := rfl
        port := ⟨raw, hraw, padded_uint16?_eq_some_iff.1 hx⟩
        perSecond := takes_uint32_iff.1 (exists_readVariable_getD_iff.1 ⟨_, hperSecond, rfl⟩)
        burst := takes_uint32_iff.1 (exists_readVariable_getD_iff.1 ⟨_, hburst, rfl⟩)
        origins := rfl }
  · intro h
    obtain ⟨environment?, henvironment, hdevelopment⟩ :=
      exists_readVariable_getD_iff.2 (takes_environment_iff.2 h.environment)
    obtain ⟨raw, hraw, hport⟩ := h.port
    obtain ⟨perSecond?, hperSecond, hten⟩ := exists_readVariable_getD_iff.2
      (takes_uint32_iff (d := defaultPerSecond).2 h.perSecond)
    obtain ⟨burst?, hburst, hfifty⟩ := exists_readVariable_getD_iff.2
      (takes_uint32_iff (d := defaultBurst).2 h.burst)
    have hsome : readVariable (padded Text.uint16?) vars portVariable = .ok (some c.port) :=
      readVariable_eq_some_iff.2 ⟨raw, hraw, padded_uint16?_eq_some_iff.2 hport⟩
    refine Json.bind_eq_ok.2 ⟨environment?, henvironment, ?_⟩
    refine Json.bind_eq_ok.2 ⟨some c.port, hsome, ?_⟩
    refine Json.bind_eq_ok.2 ⟨c.port, rfl, ?_⟩
    refine Json.bind_eq_ok.2 ⟨perSecond?, hperSecond, ?_⟩
    refine Json.bind_eq_ok.2 ⟨burst?, hburst, ?_⟩
    have hname : (vars.get? nameVariable).getD defaultName = c.name := h.name.symm
    have hhost : (vars.get? hostVariable).getD defaultHost = c.host := h.host.symm
    have horigins : ((vars.get? originsVariable).map splitOrigins).getD [] = c.origins :=
      h.origins.symm
    rw [hdevelopment, hten, hfifty, hname, hhost, horigins]
    rfl

/-- **The first fault is told.** -/
theorem ofVariables_eq_error_iff {vars : Variables} {e : ConfigError} :
    ofVariables vars = .error e ↔ FirstFault vars e := by
  constructor
  · intro h
    -- a stage either has the fault, or its variable is valid and a later stage has it
    rcases Json.bind_eq_error.1 h with h | ⟨environment?, hread, h⟩
    · obtain ⟨raw, hset, hnot, rfl⟩ := readVariable_eq_error_iff.1 h
      exact .environment hset (mt exists_readEnvironment_iff.2 hnot)
    have henvironment := exists_readEnvironment_iff.1 ⟨_, hread⟩
    rcases Json.bind_eq_error.1 h with h | ⟨port?, hread, h⟩
    · obtain ⟨raw, hset, hnot, rfl⟩ := readVariable_eq_error_iff.1 h
      exact .port henvironment hset (mt (exists_readPort_iff_of_set hset).2 hnot)
    cases port? with
    | none =>
      obtain rfl := Except.error.inj h
      exact .missing henvironment (readVariable_eq_none_iff.1 hread)
    | some port =>
      have hport := exists_readPort_iff.1 ⟨_, hread⟩
      obtain ⟨_, -, h⟩ := (Json.bind_eq_error.1 h).resolve_left nofun
      rcases Json.bind_eq_error.1 h with h | ⟨perSecond?, hread, h⟩
      · obtain ⟨raw, hset, hnot, rfl⟩ := readVariable_eq_error_iff.1 h
        exact .perSecond henvironment hport hset (mt exists_readNumber_iff.2 hnot)
      have hperSecond := exists_readNumber_iff.1 ⟨_, hread⟩
      rcases Json.bind_eq_error.1 h with h | ⟨burst?, -, h⟩
      · obtain ⟨raw, hset, hnot, rfl⟩ := readVariable_eq_error_iff.1 h
        exact .burst henvironment hport hperSecond hset (mt exists_readNumber_iff.2 hnot)
      · cases h
  · intro h
    cases h with
    | environment hset hfault =>
      have hread := readVariable_eq_error_iff.2
        ⟨_, hset, mt exists_readEnvironment_iff.1 hfault, rfl⟩
      exact Json.bind_eq_error.2 (.inl hread)
    | missing henvironment hunset =>
      obtain ⟨environment?, hread⟩ := exists_readEnvironment_iff.2 henvironment
      refine Json.bind_eq_error.2 (.inr ⟨environment?, hread, ?_⟩)
      exact Json.bind_eq_error.2 (.inr ⟨none, readVariable_eq_none_iff.2 hunset, rfl⟩)
    | port henvironment hset hfault =>
      obtain ⟨environment?, hread⟩ := exists_readEnvironment_iff.2 henvironment
      have hport := readVariable_eq_error_iff.2
        ⟨_, hset, mt (exists_readPort_iff_of_set hset).1 hfault, rfl⟩
      refine Json.bind_eq_error.2 (.inr ⟨environment?, hread, ?_⟩)
      exact Json.bind_eq_error.2 (.inl hport)
    | perSecond henvironment hport hset hfault =>
      obtain ⟨environment?, hread⟩ := exists_readEnvironment_iff.2 henvironment
      obtain ⟨port, hport⟩ := exists_readPort_iff.2 hport
      have hperSecond := readVariable_eq_error_iff.2
        ⟨_, hset, mt exists_readNumber_iff.1 hfault, rfl⟩
      refine Json.bind_eq_error.2 (.inr ⟨environment?, hread, ?_⟩)
      refine Json.bind_eq_error.2 (.inr ⟨some port, hport, ?_⟩)
      refine Json.bind_eq_error.2 (.inr ⟨port, rfl, ?_⟩)
      exact Json.bind_eq_error.2 (.inl hperSecond)
    | burst henvironment hport hperSecond hset hfault =>
      obtain ⟨environment?, hread⟩ := exists_readEnvironment_iff.2 henvironment
      obtain ⟨port, hport⟩ := exists_readPort_iff.2 hport
      obtain ⟨perSecond?, hperSecond⟩ := exists_readNumber_iff.2 hperSecond
      have hburst := readVariable_eq_error_iff.2
        ⟨_, hset, mt exists_readNumber_iff.1 hfault, rfl⟩
      refine Json.bind_eq_error.2 (.inr ⟨environment?, hread, ?_⟩)
      refine Json.bind_eq_error.2 (.inr ⟨some port, hport, ?_⟩)
      refine Json.bind_eq_error.2 (.inr ⟨port, rfl, ?_⟩)
      refine Json.bind_eq_error.2 (.inr ⟨perSecond?, hperSecond, ?_⟩)
      exact Json.bind_eq_error.2 (.inl hburst)

/-! ## What is judged -/

/-- A condition on the text of a variable that does not hold is one on a variable that is set. -/
theorem exists_get?_of_not {vars : Variables} {name : String} {p : String → Prop}
    (h : ¬ ∀ raw, vars.get? name = some raw → p raw) : ∃ raw, vars.get? name = some raw := by
  cases hset : vars.get? name with
  | none =>
    refine absurd (fun raw hraw => ?_) h
    rw [hset] at hraw
    cases hraw
  | some raw => exact ⟨raw, rfl⟩

/-- Variables fulfil all conditions exactly if there is no first fault. -/
theorem valid_iff_forall_not (vars : Variables) : Valid vars ↔ ∀ e, ¬ FirstFault vars e := by
  constructor
  · intro h e hfault
    cases hfault with
    | environment _ hfault => exact hfault h.environment
    | missing _ hunset =>
      obtain ⟨raw, hset, -⟩ := h.port
      rw [hunset] at hset
      cases hset
    | port _ _ hfault => exact hfault h.port
    | perSecond _ _ _ hfault => exact hfault h.perSecond
    | burst _ _ _ _ hfault => exact hfault h.burst
  · intro h
    -- each condition holds because the ones before it do and there would be a fault otherwise
    have henvironment : EnvironmentValid vars := by
      by_contra hfault
      obtain ⟨raw, hset⟩ := exists_get?_of_not hfault
      exact h _ (.environment hset hfault)
    have hport : PortValid vars := by
      cases hset : vars.get? "API_PORT" with
      | none => exact absurd (.missing henvironment hset) (h _)
      | some raw =>
        by_contra hfault
        exact h _ (.port henvironment hset hfault)
    have hperSecond : NumberValid vars "RATE_LIMIT_REQUESTS_PER_SECOND" := by
      by_contra hfault
      obtain ⟨raw, hset⟩ := exists_get?_of_not hfault
      exact h _ (.perSecond henvironment hport hset hfault)
    have hburst : NumberValid vars "RATE_LIMIT_BURST" := by
      by_contra hfault
      obtain ⟨raw, hset⟩ := exists_get?_of_not hfault
      exact h _ (.burst henvironment hport hperSecond hset hfault)
    exact ⟨henvironment, hport, hperSecond, hburst⟩

/-- The variables that are judged. -/
def judged : List String :=
  ["APP_ENV", "API_PORT", "RATE_LIMIT_REQUESTS_PER_SECOND", "RATE_LIMIT_BURST"]

/-- What is told hangs on the judged variables only. -/
theorem FirstFault.of_agree {vars other : Variables} {e : ConfigError} (hfault : FirstFault vars e)
    (h : ∀ name ∈ judged, other.get? name = vars.get? name) : FirstFault other e := by
  have hget (name : String) (hname : name ∈ judged) : vars.get? name = other.get? name :=
    (h name hname).symm
  have henvironment : EnvironmentValid vars ↔ EnvironmentValid other := by
    rw [EnvironmentValid, EnvironmentValid, hget _ (by decide)]
  have hport : PortValid vars ↔ PortValid other := by
    rw [PortValid, PortValid, hget _ (by decide)]
  have hnumber (name : String) (hname : name ∈ judged) :
      NumberValid vars name ↔ NumberValid other name := by
    rw [NumberValid, NumberValid, hget name hname]
  cases hfault with
  | environment hset hfault =>
    rw [hget _ (by decide)] at hset
    exact .environment hset (mt henvironment.2 hfault)
  | missing he hunset =>
    rw [hget _ (by decide)] at hunset
    exact .missing (henvironment.1 he) hunset
  | port he hset hfault =>
    rw [hget _ (by decide)] at hset
    exact .port (henvironment.1 he) hset (mt hport.2 hfault)
  | perSecond he hp hset hfault =>
    rw [hget _ (by decide)] at hset
    exact .perSecond (henvironment.1 he) (hport.1 hp) hset (mt (hnumber _ (by decide)).2 hfault)
  | burst he hp hs hset hfault =>
    rw [hget _ (by decide)] at hset
    exact .burst (henvironment.1 he) (hport.1 hp) ((hnumber _ (by decide)).1 hs) hset
      (mt (hnumber _ (by decide)).2 hfault)

/-- **Exactly the valid variables make a configuration,** the one that they say, and of all others
the first fault is told.  Variables that are not judged never make a difference to that. -/
theorem ofVariables_judges (vars : Variables) :
    ((∃ c, ofVariables vars = .ok c) ↔ Valid vars) ∧
      (∀ c, ofVariables vars = .ok c ↔ Says vars c) ∧
      (∀ e, ofVariables vars = .error e ↔ FirstFault vars e) ∧
      ∀ other : Variables, (∀ name ∈ judged, other.get? name = vars.get? name) →
        ∀ e, ofVariables other = .error e ↔ ofVariables vars = .error e := by
  refine ⟨?_, fun c => ofVariables_eq_ok_iff, fun e => ofVariables_eq_error_iff, ?_⟩
  · rw [valid_iff_forall_not]
    constructor
    · rintro ⟨c, hc⟩ e hfault
      rw [← ofVariables_eq_error_iff, hc] at hfault
      cases hfault
    · intro h
      cases hread : ofVariables vars with
      | ok c => exact ⟨c, rfl⟩
      | error e => exact absurd (ofVariables_eq_error_iff.1 hread) (h e)
  · intro other h e
    rw [ofVariables_eq_error_iff, ofVariables_eq_error_iff]
    constructor
    · intro hfault
      exact hfault.of_agree fun name hname => (h name hname).symm
    · intro hfault
      exact hfault.of_agree h

/-- A word for a port is told before one for a burst, with and without origins. -/
theorem ofVariables_judges_words :
    ∃ vars other : Variables, vars.get? "CORS_ALLOWED_ORIGINS" = none ∧
      other.get? "CORS_ALLOWED_ORIGINS" = some "*" ∧
      (∀ name ∈ judged, other.get? name = vars.get? name) ∧
      ofVariables vars = .error (.invalid "API_PORT" " eighty") ∧
      ofVariables other = .error (.invalid "API_PORT" " eighty") := by
  let words : List (String × String) :=
    [("RATE_LIMIT_BURST", "many"), ("API_PORT", " eighty"), ("APP_ENV", "Staging")]
  have hsame : ∀ name ∈ judged, Variables.get? ⟨("CORS_ALLOWED_ORIGINS", "*") :: words⟩ name =
      Variables.get? ⟨words⟩ name := by decide
  obtain ⟨-, -, herror, hother⟩ := ofVariables_judges ⟨words⟩
  have hport : ¬ PortValid ⟨words⟩ := by
    intro hvalid
    obtain ⟨x, hx⟩ := exists_readPort_iff.2 hvalid
    cases hx
  have henvironment : EnvironmentValid ⟨words⟩ := by
    intro raw hraw
    obtain rfl : "Staging" = raw := Option.some.inj hraw
    exact ⟨.staging, rfl⟩
  have hwords := (herror _).2 (.port henvironment rfl hport)
  exact ⟨⟨words⟩, _, rfl, rfl, hsame, hwords, (hother _ hsame _).2 hwords⟩

end Config

end AuditLabels

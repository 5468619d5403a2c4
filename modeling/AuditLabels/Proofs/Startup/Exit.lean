import AuditLabels.Proofs.Config.Precedence
import AuditLabels.Proofs.Log.Filter
import AuditLabels.Proofs.Log.Line
import AuditLabels.Startup.Launch

/-!
# What a launch that fails tells, and where

A launch fails in one of two ways.  A bad configuration is told on the error stream, and the log
stays empty, whatever it is filtered by.  Every later error is the last line of the log, unless the
filter keeps errors out of it, and the error stream stays empty.  A line of the log is what is
written about one event; a name or a host with a line break in it spreads it over several lines of
a screen.
-/

namespace AuditLabels

/-! ## Starting that fails -/

/-- What is logged about origins comes from one part of the program. -/
theorem CorsPolicy.target_of_mem_ofConfig? {c : Config} {e : Log.Event}
    (he : e ∈ (ofConfig? c).1) : e.target = logTarget := by
  unfold ofConfig? at he
  split at he
  · split at he
    · rw [List.mem_singleton.1 he]
    · rw [List.mem_singleton.1 he]
  · rcases List.mem_append.1 he with he | he
    · obtain ⟨o, -, rfl⟩ := List.mem_map.1 he
      rfl
    · rw [List.mem_singleton.1 he]

theorem Service.target_of_mem_ofConfig {c : Config} {e : Log.Event} (he : e ∈ (ofConfig c).1) :
    e.target = CorsPolicy.logTarget := by
  unfold ofConfig at he
  split at he
  · cases he
  · exact CorsPolicy.target_of_mem_ofConfig? he

namespace Running

variable {binding : Binding} {c : Config}

/-- Starting ends in an error that can be told. -/
def Fails (binding : Binding) (c : Config) (f : Failure) : Prop :=
  ∃ events error, start binding c = (events, .error error) ∧ error.failure? = some f

/-- Up to an error nothing is logged but what is about origins. -/
theorem target_of_mem_start {events : List Log.Event} {error : StartError}
    (h : start binding c = (events, .error error)) {e : Log.Event} (he : e ∈ events) :
    e.target = CorsPolicy.logTarget := by
  have hsetup : ∀ {result}, Service.ofConfig c = (events, result) →
      e.target = CorsPolicy.logTarget := by
    intro result hresult
    refine Service.target_of_mem_ofConfig (c := c) ?_
    rw [hresult]
    exact he
  unfold start at h
  split at h
  · obtain ⟨rfl, -⟩ := Prod.mk.inj h
    cases he
  · split at h
    · next hresult =>
      obtain ⟨rfl, -⟩ := Prod.mk.inj h
      exact hsetup hresult
    · next hresult =>
      split at h
      · obtain ⟨rfl, -⟩ := Prod.mk.inj h
        exact hsetup hresult
      · cases (Prod.mk.inj h).2

end Running

namespace Launch

variable {binding : Binding} {process : Variables} {file? : Option String} {c : Config}
  {f : Failure}

/-! ## The filter -/

/-- The value of a variable, if it has one: the one that the process sets, or else the one that the
file assigns to it first. -/
inductive Sets (process : Variables) (name : String) : Option String → Option String → Prop
  | alone : Sets process name none (process.get? name)
  | beside {text : String} {assigned : List (String × String)} {vars : Variables}
      {rest : List Char} : Dotenv.Reads process (Dotenv.dropMark text.toList) assigned vars rest →
      Dotenv.Stops vars rest →
      Sets process name (some text) ((process.get? name).or (assigned.lookup name))

theorem Sets.get?_settings {name : String} {value? : Option String}
    (h : Sets process name file? value?) : (settings process file?).get? name = value? := by
  cases h with
  | alone => rfl
  | @beside text assigned vars rest hreads hstops =>
    have hload := settings_of_reads hreads
    rw [String.ofList_toList, hstops.loadLines_eq] at hload
    rw [hload, hreads.get?_eq]

theorem exists_sets (process : Variables) (name : String) (file? : Option String) :
    ∃ value?, Sets process name file? value? := by
  cases file? with
  | none => exact ⟨_, .alone⟩
  | some text =>
    obtain ⟨assigned, vars, rest, hreads, hstops⟩ :=
      Dotenv.exists_reads process (Dotenv.dropMark text.toList)
    exact ⟨_, .beside hreads hstops⟩

/-- The filter that a text says to a launch in an environment. -/
def filterOf (text? : Option String) (environment : Environment) : Log.Filter :=
  .ofText? text? (Log.Preset.ofEnvironment environment).level

/-- The log that a launch in an environment sets up. -/
def loggerOf (text? : Option String) (environment : Environment) : Log.Logger :=
  ⟨(Log.Preset.ofEnvironment environment).layer, filterOf text? environment⟩

/-- Errors of the main part of the program are enabled. -/
def TellsErrors (text? : Option String) (environment : Environment) : Prop :=
  (filterOf text? environment).Enables .error "audit_api" ["message", "error"]

theorem tellsErrors_iff (text? : Option String) (environment : Environment) (message : String) :
    TellsErrors text? environment ↔ (filterOf text? environment).admits (failed message) = true :=
  ((filterOf text? environment).admits_iff (failed message)).symm

/-- Every preset enables errors. -/
theorem tellsErrors_of_no_filter {text? : Option String}
    (h : text?.bind Log.Filter.parse? = none) (environment : Environment) :
    TellsErrors text? environment := by
  rw [TellsErrors, filterOf, Log.Filter.ofText?, h, Option.getD_none, Log.Filter.enables_upTo]
  cases environment <;> decide

/-- A filter that is written as a list of directives enables errors if the rule among them that
decides is about more than nothing. -/
theorem tellsErrors_iff_of_writes {pieces : List (List Char × Log.Rule)}
    (h : ∀ p ∈ pieces, Log.Directive.Writes p.1 p.2) (environment : Environment) :
    TellsErrors (some (String.ofList ([','].intercalate (pieces.map Prod.fst)))) environment ↔
      ∃ r, Log.Decides "audit_api" ["message", "error"] (pieces.map fun p => .rule p.2) r ∧
        r.threshold ≠ .off := by
  rw [TellsErrors, filterOf, Log.Filter.ofText?, Option.bind_some, Log.Filter.parse?_of_writes h,
    Option.getD_some, Log.Filter.enables_error_iff]

/-! ## The last line -/

/-- The line tells that the service failed.  It is the whole entry of one event, also where the text
of a field breaks it. -/
def IsFailure (line : Log.Line) : Prop := line.IsAbout "audit_api" "Server failed"

/-- What is logged by a launch that fails: the failure is told in the last line and in no other, or
in none if errors are not enabled. -/
structure Logs (text? : Option String) (c : Config) (f : Failure) (stdout : List Log.Line) :
    Prop where
  told : TellsErrors text? c.environment → ∃ front last, stdout = front ++ [last] ∧
    last = Log.Event.line (Log.Preset.ofEnvironment c.environment).layer
      ⟨.error, "audit_api", "Server failed", [("error", .text f.message)]⟩ ∧
    IsFailure last ∧
    ∀ line ∈ front, ¬ IsFailure line
  hushed : ¬ TellsErrors text? c.environment → ∀ line ∈ stdout, ¬ IsFailure line
  unfiltered : text?.bind Log.Filter.parse? = none → TellsErrors text? c.environment
  filtered : ∀ pieces : List (List Char × Log.Rule),
    (∀ p ∈ pieces, Log.Directive.Writes p.1 p.2) →
    text? = some (String.ofList ([','].intercalate (pieces.map Prod.fst))) →
    (TellsErrors text? c.environment ↔
      ∃ r, Log.Decides "audit_api" ["message", "error"] (pieces.map fun p => .rule p.2) r ∧
        r.threshold ≠ .off)

theorem isFailure_failed (l : Log.Layer) (message : String) :
    IsFailure ((failed message).line l) :=
  (failed message).isAbout_line l

theorem not_isFailure_loaded (l : Log.Layer) (c : Config) : ¬ IsFailure ((loaded c).line l) := by
  intro h
  have htarget : (loaded c).target = "audit_api" := rfl
  obtain ⟨-, rest, hrest⟩ := h.of_line (by decide) (by rw [htarget]; decide)
  have hchars : "Server failed".toList ++ rest = "Configuration loaded".toList ++ _ := hrest
  simp at hchars

theorem not_isFailure_of_target (l : Log.Layer) {e : Log.Event}
    (he : e.target = CorsPolicy.logTarget) : ¬ IsFailure (e.line l) := by
  intro h
  obtain ⟨htarget, -⟩ := h.of_line (by decide) (by rw [he]; decide)
  rw [he] at htarget
  exact absurd htarget (by decide)

theorem logs_of_events {text? : Option String} {events : List Log.Event}
    (hevents : ∀ e ∈ events, e.target = CorsPolicy.logTarget) :
    Logs text? c f ((loggerOf text? c.environment).lines
      (loaded c :: events ++ [failed f.message])) := by
  have hfront : ∀ line ∈ (loggerOf text? c.environment).lines (loaded c :: events),
      ¬ IsFailure line := by
    intro line hline
    obtain ⟨e, he, rfl⟩ := List.mem_map.1 hline
    rcases List.mem_cons.1 (List.mem_of_mem_filter he) with rfl | he
    · exact not_isFailure_loaded _ c
    · exact not_isFailure_of_target _ (hevents e he)
  refine ⟨?_, ?_, fun h => tellsErrors_of_no_filter h c.environment, ?_⟩
  · intro htells
    have hadmits := (tellsErrors_iff _ _ f.message).1 htells
    rw [Log.Logger.lines_append_of_admits (l := loggerOf text? c.environment) hadmits]
    exact ⟨_, _, rfl, rfl, isFailure_failed _ f.message, hfront⟩
  · intro hnot
    have hadmits := mt (tellsErrors_iff _ _ f.message).2 hnot
    rw [Log.Logger.lines_append_of_not_admits (l := loggerOf text? c.environment) hadmits]
    exact hfront
  · rintro pieces hwrites rfl
    exact tellsErrors_iff_of_writes hwrites c.environment

/-! ## The exit -/

theorem ofProcess_of_error {e : ConfigError} (h : configuration process file? = .error e) :
    ofProcess binding process file? =
      .exited ⟨1, "Failed to load configuration: " ++ e.message ++ "\n", []⟩ := by
  have hread : Config.ofVariables (settings process file?) = .error e := h
  simp only [ofProcess, hread, badConfiguration]

/-- The first log of a process can be set up, so there is no warning. -/
theorem ofProcess_of_ok (h : configuration process file? = .ok c) :
    ofProcess binding process file? = ofConfig binding ""
      (loggerOf ((settings process file?).get? "RUST_LOG") c.environment).lines c := by
  have hread : Config.ofVariables (settings process file?) = .ok c := h
  simp only [ofProcess, hread]
  rfl

theorem ofConfig_of_fails (h : Running.Fails binding c f) :
    ∃ events, (∀ e ∈ events, e.target = CorsPolicy.logTarget) ∧ ∀ warning written,
      ofConfig binding warning written c =
        .exited ⟨1, warning, written (loaded c :: events ++ [failed f.message])⟩ := by
  obtain ⟨events, error, hstart, hfailure⟩ := h
  refine ⟨events, fun e he => Running.target_of_mem_start hstart he, fun warning written => ?_⟩
  simp only [ofConfig, hstart, hfailure]

/-- Only the wildcard is an error that cannot be told. -/
theorem eq_wildcardOrigin_of_failure? {e : StartError} (h : e.failure? = none) :
    e = .wildcardOrigin := by
  cases e with
  | wildcardOrigin => rfl
  | badAddress | badRate | bindFailed => cases h

/-- A launch with a configuration serves, or ends because starting fails, or is broken off. -/
theorem ofConfig_cases (binding : Binding) (warning : String)
    (written : List Log.Event → List Log.Line) (c : Config) :
    (∃ running printed, ofConfig binding warning written c = .serving running printed) ∨
      (∃ f exit, Running.Fails binding c f ∧ ofConfig binding warning written c = .exited exit) ∨
      ofConfig binding warning written c = .aborted .wildcardOrigin := by
  unfold ofConfig
  split
  · exact .inl ⟨_, _, rfl⟩
  · next hstart =>
    split
    · next hfailure => exact .inr (.inl ⟨_, _, ⟨_, _, hstart, hfailure⟩, rfl⟩)
    · next hfailure =>
      rw [eq_wildcardOrigin_of_failure? hfailure]
      exact .inr (.inr rfl)

/-- **A launch that fails is told in one place.**  A bad configuration is told on the error stream
and nowhere else, with the variable that is missing or that has a bad value, whatever the filter is.
An error of starting is told in the last line of the log and nowhere else, unless the filter keeps
it out: then it is not told at all.  There are no other exits, and only the wildcard breaks a launch
off. -/
theorem exits_told_once (binding : Binding) (process : Variables) (file? : Option String) :
    (∃ text?, Sets process "RUST_LOG" file? text?) ∧
    (∀ name, configuration process file? = .error (.missing name) →
      ofProcess binding process file? = .exited ⟨1, "Failed to load configuration: " ++
        ("Missing required environment variable: " ++ name) ++ "\n", []⟩) ∧
    (∀ name raw, configuration process file? = .error (.invalid name raw) →
      ofProcess binding process file? = .exited ⟨1, "Failed to load configuration: " ++
        ("Invalid value for " ++ name ++ ": " ++ raw) ++ "\n", []⟩) ∧
    (∀ c f text?, configuration process file? = .ok c → Running.Fails binding c f →
      Sets process "RUST_LOG" file? text? →
      ∃ stdout, ofProcess binding process file? = .exited ⟨1, "", stdout⟩ ∧
        Logs text? c f stdout) ∧
    (∀ exit, ofProcess binding process file? = .exited exit →
      (∃ e, configuration process file? = .error e) ∨
        ∃ c f, configuration process file? = .ok c ∧ Running.Fails binding c f) ∧
    (∀ e, ofProcess binding process file? = .aborted e → e = .wildcardOrigin) := by
  refine ⟨exists_sets process _ file?, fun name => ofProcess_of_error,
    fun name raw => ofProcess_of_error, ?_, ?_, ?_⟩
  · intro c f text? hread hfails hsets
    obtain ⟨events, hevents, hexit⟩ := ofConfig_of_fails hfails
    refine ⟨_, ?_, logs_of_events hevents⟩
    rw [ofProcess_of_ok hread, hsets.get?_settings]
    exact hexit _ _
  · intro exit h
    cases hread : configuration process file? with
    | error e => exact .inl ⟨e, rfl⟩
    | ok c =>
      rw [ofProcess_of_ok hread] at h
      rcases ofConfig_cases binding "" _ c with ⟨_, _, heq⟩ | ⟨f, _, hfails, -⟩ | heq
      · cases heq.symm.trans h
      · exact .inr ⟨c, f, rfl, hfails⟩
      · cases heq.symm.trans h
  · intro e h
    cases hread : configuration process file? with
    | error e' =>
      rw [ofProcess_of_error hread] at h
      cases h
    | ok c =>
      rw [ofProcess_of_ok hread] at h
      rcases ofConfig_cases binding "" _ c with ⟨_, _, heq⟩ | ⟨_, _, -, heq⟩ | heq
      · cases heq.symm.trans h
      · cases heq.symm.trans h
      · exact (Launch.aborted.inj (heq.symm.trans h)).symm

/-- A file with a port that is none. -/
def portless : String := "API_PORT=eighty\nRUST_LOG=trace"

/-- A file with a host that is none, and with a filter that keeps everything out of the log. -/
def secretive : String := "API_HOST=nowhere\nRUST_LOG=off"

/-- A port that is missing and one that is a word are told on the error stream, although everything
is logged.  A filter of the process takes the place of the one in the file; its rule for the program
comes before the one for all targets, so the failure is told. -/
theorem exits_told_once_secretive :
    ofProcess (fun _ => none) ⟨[("RUST_LOG", "trace")]⟩ none = .exited ⟨1,
      "Failed to load configuration: Missing required environment variable: API_PORT\n", []⟩ ∧
    ofProcess (fun _ => none) ⟨[]⟩ (some portless) = .exited ⟨1,
      "Failed to load configuration: Invalid value for API_PORT: eighty\n", []⟩ ∧
    ∃ front, ofProcess (fun _ => none)
        ⟨[("API_PORT", "0"), ("RUST_LOG", "audit_api=error,off")]⟩ (some secretive) =
      .exited ⟨1, "", front ++ [.plain ("ERROR audit_api: Server failed error=" ++
        "Configuration error: Invalid API address nowhere:0: invalid socket address syntax")]⟩ := by
  refine ⟨?_, ?_, ?_⟩
  · have hread : configuration ⟨[("RUST_LOG", "trace")]⟩ none = .error (.missing "API_PORT") := by
      apply Config.ofVariables_eq_error_iff.2
      refine .missing ?_ (by decide)
      intro raw hraw
      cases hraw
    obtain ⟨-, hmissing, -⟩ := exits_told_once (fun _ => none) ⟨[("RUST_LOG", "trace")]⟩ none
    exact hmissing _ hread
  · have hport : Dotenv.firstLine? (Dotenv.dropMark portless.toList) =
        some ("API_PORT=eighty".toList, "RUST_LOG=trace".toList) := by decide
    have hfilter : Dotenv.firstLine? "RUST_LOG=trace".toList =
        some ("RUST_LOG=trace".toList, []) := by decide
    have hreads : Dotenv.Reads ⟨[]⟩ (Dotenv.dropMark portless.toList)
        [("API_PORT", "eighty"), ("RUST_LOG", "trace")]
        ⟨[("RUST_LOG", "trace"), ("API_PORT", "eighty")]⟩ [] :=
      .assignment hport (by decide) (.assignment hfilter (by decide) .here)
    have hread : configuration ⟨[]⟩ (some portless) = .error (.invalid "API_PORT" "eighty") := by
      rw [(keepsFirst_of_reads hreads).settled nofun]
      cbv
    obtain ⟨-, -, hinvalid, -⟩ := exits_told_once (fun _ => none) ⟨[]⟩ (some portless)
    exact hinvalid _ _ hread
  · have hhost : Dotenv.firstLine? (Dotenv.dropMark secretive.toList) =
        some ("API_HOST=nowhere".toList, "RUST_LOG=off".toList) := by decide
    have hfilter : Dotenv.firstLine? "RUST_LOG=off".toList =
        some ("RUST_LOG=off".toList, []) := by decide
    have hreads : Dotenv.Reads ⟨[("API_PORT", "0"), ("RUST_LOG", "audit_api=error,off")]⟩
        (Dotenv.dropMark secretive.toList) [("API_HOST", "nowhere"), ("RUST_LOG", "off")]
        ⟨[("API_HOST", "nowhere"), ("API_PORT", "0"), ("RUST_LOG", "audit_api=error,off")]⟩ [] :=
      .assignment hhost (by decide) (.assignment hfilter (by decide) .here)
    have hread : configuration ⟨[("API_PORT", "0"), ("RUST_LOG", "audit_api=error,off")]⟩
        (some secretive) = .ok ⟨"audit-labels", .development, "nowhere", 0, ⟨10, 50⟩, []⟩ := by
      rw [(keepsFirst_of_reads hreads).settled nofun]
      cbv
    have hfails : Running.Fails (fun _ => none)
        ⟨"audit-labels", .development, "nowhere", 0, ⟨10, 50⟩, []⟩
        (.configuration "Invalid API address nowhere:0: invalid socket address syntax") :=
      ⟨_, _, Running.start_of_parse?_eq_none (by decide) _, by decide⟩
    have htells : TellsErrors (some "audit_api=error,off") .development :=
      (tellsErrors_iff _ _ "").2 (by decide)
    obtain ⟨-, -, -, htold, -⟩ := exits_told_once (fun _ => none)
      ⟨[("API_PORT", "0"), ("RUST_LOG", "audit_api=error,off")]⟩ (some secretive)
    obtain ⟨stdout, hexit, hlogs⟩ := htold _ _ _ hread hfails (.beside hreads nofun)
    obtain ⟨front, last, rfl, rfl, -⟩ := hlogs.told htells
    exact ⟨front, hexit⟩

end Launch

end AuditLabels

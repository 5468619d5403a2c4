import AuditLabels.Config.Dotenv.Load
import AuditLabels.Log.Setup
import AuditLabels.Startup.Start

/-!
# Launching the program

From the variables of the process and an optional file of variables to a running service, or to an
exit.  A bad configuration is told on the error stream, since the log is not set up yet; every later
error is logged.
-/

namespace AuditLabels

/-- How the program ends. -/
structure Exit where
  code : Nat
  stderr : String
  stdout : List Log.Line

/-- What the program has printed. -/
structure Printed where
  stderr : String
  stdout : List Log.Line

/-- What a launch leads to. -/
inductive Launch where
  | serving (running : Running) (printed : Printed)
  | exited (exit : Exit)
  /-- The program is broken off by the error. -/
  | aborted (error : StartError)

namespace Launch

/-- The variable that says what is logged. -/
def filterVariable : String := "RUST_LOG"

/-- The part of the program that logs about the launch. -/
def logTarget : String := "audit_api"

/-- The variables of the process, and those of the file that the process does not set. -/
def settings (process : Variables) (file? : Option String) : Variables :=
  match file? with
  | some text => Dotenv.load process text
  | none => process

/-- The configuration of a process. -/
def configuration (process : Variables) (file? : Option String) : Except ConfigError Config :=
  Config.ofVariables (settings process file?)

/-- The note about the configuration. -/
def loaded (c : Config) : Log.Event :=
  ⟨.info, logTarget, "Configuration loaded",
    [("name", .text c.name), ("env", .text c.environment.title), ("port", .number c.port.toNat)]⟩

/-- The note about an error of starting. -/
def failed (message : String) : Log.Event :=
  ⟨.error, logTarget, "Server failed", [("error", .text message)]⟩

/-- The exit after a bad configuration. -/
def badConfiguration (e : ConfigError) : Exit :=
  ⟨1, "Failed to load configuration: " ++ e.message ++ "\n", []⟩

/-- The warning that the log is not set up, which stops nothing. -/
def noLog (e : Log.SetupError) : String :=
  "Warning: Failed to initialize tracing: " ++ e.message ++ "\n"

/-- What a launch with a configuration leads to, after a warning that may be empty; `written` picks
the lines of the log. -/
def ofConfig (binding : Binding) (warning : String) (written : List Log.Event → List Log.Line)
    (c : Config) : Launch :=
  match Running.start binding c with
  | (events, .ok running) => .serving running ⟨warning, written (loaded c :: events)⟩
  | (events, .error e) => match e.failure? with
    | some f => .exited ⟨1, warning, written (loaded c :: events ++ [failed f.message])⟩
    | none => .aborted e

/-- What a launch leads to.  A process that is launched has no log yet. -/
def ofProcess (binding : Binding) (process : Variables) (file? : Option String) : Launch :=
  let vars := settings process file?
  match Config.ofVariables vars with
  | .error e => .exited (badConfiguration e)
  | .ok c =>
    match Log.setUp none (vars.get? filterVariable) (.ofEnvironment c.environment) with
    | .ok logger => ofConfig binding "" logger.lines c
    | .error e => ofConfig binding (noLog e) (fun _ => []) c

end Launch

end AuditLabels

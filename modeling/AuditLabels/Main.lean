import AuditLabels.Startup.Launch

/-!
# The program

Reads the variables of the process and the file `.env` beside it, launches the service, and prints
what there is to print.
-/

namespace AuditLabels

/-- The variables that the program looks at. -/
def lookedAt : List String :=
  [Config.nameVariable, Config.environmentVariable, Config.hostVariable, Config.portVariable,
   Config.perSecondVariable, Config.burstVariable, Config.originsVariable, Launch.filterVariable]

/-- The words of a text whose characters may stand in a name. -/
def words (isName : Char → Bool) (text : String) : List String :=
  ((Text.split ' ' (text.toList.map fun c => if isName c then c else ' ')).map String.ofList).filter
    fun word => !word.isEmpty

/-- The variables that a file may assign to or use. -/
def mentioned (file : String) : List String :=
  words Dotenv.isNameChar file ++ words Text.isAlphanumeric file

/-- The variables of the process among the given ones. -/
def processVariables (names : List String) : IO Variables := do
  let mut vars := Variables.empty
  for name in names do
    if let some value ← IO.getEnv name then
      vars := vars.define name value
  return vars

/-- The text of a file, if it can be read. -/
def readText? (path : String) : IO (Option String) := do
  try
    return some (← IO.FS.readFile path)
  catch _ =>
    return none

/-- Print what a launch prints, and say how the program ends. -/
def report : Launch → IO UInt32
  | .serving _ printed => do
    IO.eprint printed.stderr
    for line in printed.stdout do
      IO.println line.text
    return 0
  | .exited exit => do
    IO.eprint exit.stderr
    for line in exit.stdout do
      IO.println line.text
    return UInt32.ofNat exit.code
  | .aborted _ => return 101

end AuditLabels

/-- Launch the service from the variables of the process. -/
def main : IO UInt32 := do
  let file? ← AuditLabels.readText? ".env"
  let process ← AuditLabels.processVariables
    (AuditLabels.lookedAt ++ AuditLabels.mentioned (file?.getD ""))
  AuditLabels.report (AuditLabels.Launch.ofProcess (fun _ => none) process file?)

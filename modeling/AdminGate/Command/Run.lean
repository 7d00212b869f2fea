import AdminGate.Command.CookieText
import AdminGate.Command.Invocation
import AdminGate.Log.Logging
import AdminGate.Scenario.Session

/-!
# Running the program

The program loads the identity of the signed-in admin and reports on it.  Everything that goes
wrong on the way, and every permission that is not granted, leads to an exit code other than zero.
-/

namespace AdminGate.Command

/-- A fault that the program does not handle. -/
inductive Fault where
  | logging (cause : LoggingError)
  | settings (cause : Http.SplitError)
  | session (cause : Scenario.SessionError)
  | load (cause : Scenario.StepError)
  | cookieWithoutValue

def Fault.message : Fault → String
  | logging cause => cause.message
  | settings cause => cause.message
  | session cause => cause.message
  | load cause => cause.message
  | cookieWithoutValue => "'list' object has no attribute 'split'"

inductive Exit where
  | code (value : Nat)
  | misused
  | faulted (fault : Fault)

/-- What a run of the program leaves behind. -/
structure RunResult where
  exit : Exit
  output : List String
  errors : String
  observations : List Observation

namespace RunResult

/-- A run that ends before anything is sent. -/
def early (exit : Exit) (output : List String) (errors : String) : RunResult :=
  ⟨exit, output, errors, []⟩

end RunResult

/-- A text, or a dash when it is empty. -/
def orDash (text : String) : String :=
  if text.isEmpty then "-" else text

def identityLines (identity : Identity) : List String := [
  "username: " ++ identity.username,
  "role: " ++ identity.role,
  "super_admin: " ++ (if identity.isSuperAdmin then "true" else "false"),
  "permissions: " ++ orDash (", ".intercalate (sortedNames identity.permissions))]

def checkCriteria (permissions : List String) (needsAll : Bool) : Criteria :=
  if needsAll then ⟨none, [], permissions⟩ else ⟨none, permissions, []⟩

/-- The report of a task about a loaded identity: exit code and lines. -/
def report (task : Task) (engine : PermissionEngine) : Nat × List String :=
  match task with
  | .whoami => (0, identityLines (engine.identity.getD .blank))
  | .pages => (0, engine.accessiblePages)
  | .check permissions needsAll =>
      if (checkCriteria permissions needsAll).evaluate engine == some true then (0, ["granted"])
      else (1, ["denied"])

def loadSession (settings : Settings) (cookie : String) (server : Server) : Scenario.Session where
  settings
  token := .null
  cookies := CookieText.parse cookie
  endpoint := none
  server
  steps := [.load]

/-- The settings of a run: those of the environment, with the base address of the command line. -/
def settingsFor (environment : Environment) (baseUrl : String) :
    Except SettingsError Settings := do
  let settings ← Settings.ofEnvironment? environment
  if baseUrl.isEmpty then return settings else settings.withBaseUrl? baseUrl

/-- The lines that observations make in the log. -/
def logLines (logging : Logging) (marks : LogMarks) (observations : List Observation) :
    List String :=
  observations.flatMap fun observation =>
    match observation with
    | .logged entry => logging.entryLines marks entry
    | _ => []

/-- Load the identity and report on it. -/
def execute (logging : Logging) (marks : LogMarks) (task : Task) (output : List String)
    (session : Scenario.Session) : RunResult :=
  match session.outcome? with
  | .error cause => .early (.faulted (.session cause)) output ""
  | .ok world =>
      let reports := Scenario.Aliases.showReports ⟨world.traffic.calls.length, []⟩ world.reports
      let observations := reports.flatMap (·.observations)
      let output := output ++ logLines logging marks observations
      match reports with
      | ⟨.failed cause, _, _, _, _⟩ :: _ => ⟨.faulted (.load cause), output, "", observations⟩
      | _ =>
          if world.loader.state.isLoaded then
            let (code, lines) := report task world.loader.engine
            ⟨.code code, output ++ lines, "", observations⟩
          else
            ⟨.code 1, output, "error: " ++ world.loader.state.error.getD "" ++ "\n",
              observations⟩

def run (marks : LogMarks) (environment : Environment) (server : Server)
    (arguments : List String) : RunResult :=
  match Invocation.ofArguments? arguments with
  | .error (.help _) => .early (.code 0) [] ""
  | .error (.misuse program message) =>
      .early .misused [] (program ++ ": error: " ++ message)
  | .ok invocation =>
      match Logging.initial.setUp? environment false with
      | .error cause => .early (.faulted (.logging cause)) [] ""
      | .ok (logging, entries) =>
          let output := entries.flatMap (logging.entryLines marks)
          match settingsFor environment invocation.baseUrl with
          | .error .notAbsolute =>
              .early (.code 1) output ("error: " ++ SettingsError.notAbsolute.message ++ "\n")
          | .error (.malformed cause) => .early (.faulted (.settings cause)) output ""
          | .ok settings =>
              match invocation.cookie with
              | none => .early (.faulted .cookieWithoutValue) output ""
              | some cookie =>
                  execute logging marks invocation.task output
                    (loadSession settings cookie server)

end AdminGate.Command


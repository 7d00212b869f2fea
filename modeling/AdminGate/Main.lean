import AdminGate.Command.Run
import AdminGate.Scenario.ServerReader

/-!
# The program

The command line: the environment holds the settings, and standard input the script of the server
that answers, an empty one when nothing comes.
-/

open AdminGate

/-- The variables that settings are read from. -/
def settingNames : List String := [
  "STOREFRONT_BASE_URL", "STOREFRONT_REQUEST_TIMEOUT_MS", "STOREFRONT_CSRF_ENDPOINT",
  "STOREFRONT_IDENTITY_ENDPOINT", "STOREFRONT_CSRF_COOKIE", "STOREFRONT_CSRF_HEADER",
  "STOREFRONT_LOCALE", "STOREFRONT_LOG_LEVEL", "STOREFRONT_LOG_JSON",
  "STOREFRONT_LOG_CAPTURE_ROOT"]

/-- The exit code that the surroundings see. -/
def exitCode : Command.Exit → UInt32
  | .code value => value.toUInt32
  | .misused => 2
  | .faulted _ => 1

def main (arguments : List String) : IO UInt32 := do
  let environment ← settingNames.filterMapM fun name => do
    return (← IO.getEnv name).map fun value => (name, value)
  let script ← (← IO.getStdin).readToEnd
  let server := Server.ofJson ((Json.ofString? script).getD .null)
  let result := Command.run ⟨"-", "-", 0, 0⟩ environment server arguments
  for line in result.output do
    IO.println line
  IO.eprint result.errors
  match result.exit with
  | .faulted fault => IO.eprintln fault.message
  | .misused => IO.eprintln ""
  | .code _ => pure ()
  return exitCode result.exit

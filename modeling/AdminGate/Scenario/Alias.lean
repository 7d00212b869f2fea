import AdminGate.Scenario.World

/-!
# Aliases for generated names

Calls that their callers do not name get generated names, which differ from run to run.  Where they
are shown, the first generated name that appears is `<id1>`, the next one `<id2>`, and so on.
-/

namespace AdminGate.Scenario

/-- How many names have been generated, and those that have appeared. -/
structure Aliases where
  issued : Nat
  seen : List String

namespace Aliases

/-- Whether a text is a generated name. -/
def isGenerated (aliases : Aliases) (text : String) : Bool :=
  (List.range aliases.issued).any fun number => World.generatedName number == text

def numbered (number : Nat) : String :=
  "<id" ++ toString number ++ ">"

def shown (aliases : Aliases) (text : String) : Aliases × String :=
  if !aliases.isGenerated text then (aliases, text)
  else
    match aliases.seen.idxOf? text with
    | some place => (aliases, numbered (place + 1))
    | none => ({ aliases with seen := aliases.seen ++ [text] }, numbered (aliases.seen.length + 1))

def showHeaders : Aliases → Http.Headers → Aliases × Http.Headers
  | aliases, [] => (aliases, [])
  | aliases, header :: rest =>
      let (aliases, value) := aliases.shown header.value
      let (aliases, others) := showHeaders aliases rest
      (aliases, { header with value } :: others)

def showObservation (aliases : Aliases) : Observation → Aliases × Observation
  | .sent number call request =>
      let (aliases, headers) := aliases.showHeaders request.headers
      (aliases, .sent number call { request with headers })
  | .logged entry =>
      match entry.context with
      | none => (aliases, .logged entry)
      | some context =>
          let (aliases, requestId) := aliases.shown context.requestId
          (aliases, .logged { entry with context := some { context with requestId } })
  | .closed number closing => (aliases, .closed number closing)

def showObservations : Aliases → List Observation → Aliases × List Observation
  | aliases, [] => (aliases, [])
  | aliases, first :: rest =>
      let (aliases, first) := aliases.showObservation first
      let (aliases, others) := showObservations aliases rest
      (aliases, first :: others)

def showReports : Aliases → List Report → List Report
  | _, [] => []
  | aliases, report :: rest =>
      let (aliases, observations) := aliases.showObservations report.observations
      { report with observations } :: showReports aliases rest

end Aliases

end AdminGate.Scenario

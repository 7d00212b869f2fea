import AdminGate.Scenario.Alias

/-!
# Sessions

A session is a client with a loader, a scripted server and the steps to go through.  It cannot begin
when the token it starts with is blank, when its time limit is beyond every double, or when its
base address is no address.
-/

namespace AdminGate.Scenario

structure Session where
  settings : Settings
  /-- The token to start with; null for none. -/
  token : Json
  cookies : Assoc String
  /-- Where the identity is asked for, if not where the settings say. -/
  endpoint : Option String
  server : Server
  steps : List Step

inductive SessionError where
  | blankToken
  | endlessTimeout
  | address (cause : Http.UrlError)
deriving DecidableEq, Repr

def SessionError.message : SessionError → String
  | blankToken => TokenFault.blank.message
  | endlessTimeout => "int too large to convert to float"
  | address cause => cause.message

namespace Session

/-- The year and the second at which sessions take place, by which cookies end. -/
def standardYear : Nat := 2026

@[inherit_doc standardYear]
def standardSecond : Int := 1780000000

/-- What is observed when the cell is made. -/
def initialObservations (cell : TokenCell) : List Observation :=
  cell.provenance?.toList.map fun provenance => .logged (Event.tokenStored provenance).alone

/-- The world at the beginning of a session. -/
def world? (session : Session) : Except SessionError World := do
  let cell ← (TokenCell.initial session.token).mapError fun _ => .blankToken
  if !(Double.ofInt session.settings.timeoutMs).isFinite then throw .endlessTimeout
  let client ← (Client.make? session.settings standardYear standardSecond).mapError .address
  let endpoint := (session.endpoint.filter fun endpoint => !endpoint.isEmpty).getD
    session.settings.identityEndpoint
  return {
    client
    endpoint
    traffic := (Traffic.initial cell (.ofPairs session.cookies)).observe
      (initialObservations cell)
    loader := .initial
    server := session.server
    engines := []
    tasks := [World.newTask session.steps Scopes.none]
    names := []
    owners := []
    ready := [.run 0]
    alarms := []
    reports := []
    reported := 0 }

/-- The world at the end of a session. -/
def outcome? (session : Session) : Except SessionError World :=
  session.world?.map fun world => world.run (World.turnsFor session.steps)

/-- What is reported of a session, with aliases for generated names. -/
def reports? (session : Session) : Except SessionError (List Report) :=
  session.outcome?.map fun world =>
    Aliases.showReports ⟨world.traffic.calls.length, []⟩ world.reports

end Session

end AdminGate.Scenario

import AdminGate.Proofs.Exchanges
import AdminGate.Proofs.Histories
import AdminGate.Proofs.ReadSteps

/-!
# The stages of a read

When the transport answers each request by itself and no answer sets cookies, the
stages of a read can be told from the read alone: it sends one and the same
request, once or twice, and that request ends in the same way each time.
`Reading` lists these stages, and `run_steady` shows that no run leaves them,
whatever the cell holds and whatever the other calls do.
-/

namespace AdminGate

/-- A transport that answers each request by itself. -/
abbrev Transport := Http.Request → Reply

namespace Call

def IsNamed (call : Call) : Prop :=
  Text.trimmed (", ".intercalate (call.headers.values requestIdKey)) ≠ ""

instance (call : Call) : Decidable call.IsNamed :=
  inferInstanceAs (Decidable (¬_))

/-- A request of a call without a name that was made up for the call. -/
def bare (call : Call) (request : Http.Request) : Http.Request :=
  if call.IsNamed then request
  else
    { request with
      headers := request.headers.filter fun header =>
        header.key != requestIdKey }

end Call

namespace Traffic

/-- The transport keeps to a rule for all transmissions, and no answer sets
cookies. -/
def Regular (client : Client) (transport : Transport) (traffic : Traffic) :
    Move → Prop
  | .answer index response =>
      response.values "set-cookie" = [] ∧
        ∀ entry ∈ traffic.calls[index]?, ∀ launch ∈ entry.stage.launched?,
          launch.1.transmits = true →
            (transport (entry.call.bare launch.2)).within client.window =
              some (.ok response)
  | .fail index cause =>
      ∀ entry ∈ traffic.calls[index]?, ∀ launch ∈ entry.stage.launched?,
        launch.1.transmits = true →
          (transport (entry.call.bare launch.2)).within client.window =
            some (.error cause)
  | .expire index =>
      ∀ entry ∈ traffic.calls[index]?, ∀ launch ∈ entry.stage.launched?,
        launch.1.transmits = true →
          (transport (entry.call.bare launch.2)).within client.window = none
  | .begin _ | .launch _ | .resume _ | .pass _ => True

instance (client : Client) (transport : Transport) (traffic : Traffic) :
    (move : Move) → Decidable (Regular client transport traffic move)
  | .answer index response => inferInstanceAs (Decidable
      (response.values "set-cookie" = [] ∧
        ∀ entry ∈ traffic.calls[index]?, ∀ launch ∈ entry.stage.launched?,
          launch.1.transmits = true →
            (transport (entry.call.bare launch.2)).within client.window =
              some (.ok response)))
  | .fail index cause => inferInstanceAs (Decidable
      (∀ entry ∈ traffic.calls[index]?, ∀ launch ∈ entry.stage.launched?,
        launch.1.transmits = true →
          (transport (entry.call.bare launch.2)).within client.window =
            some (.error cause)))
  | .expire index => inferInstanceAs (Decidable
      (∀ entry ∈ traffic.calls[index]?, ∀ launch ∈ entry.stage.launched?,
        launch.1.transmits = true →
          (transport (entry.call.bare launch.2)).within client.window = none))
  | .begin _ | .launch _ | .resume _ | .pass _ => .isTrue trivial

/-! ## What a read does by itself -/

section

variable (client : Client) (jar : Http.CookieJar) (transport : Transport)
  (call : Call)

/-- The request of a read, which is the same whenever it is sent. -/
def readRequest? : Except Http.Failure Http.Request :=
  Http.Request.compose? client.base jar
    ⟨call.descriptor.method, call.descriptor.url,
      call.headersWith client.settings none, call.descriptor.sentBody⟩

/-- The requests that reach the transport when a read is sent once. -/
def readSent : List Http.Request :=
  if client.settings.timeoutMs ≤ 0 then []
  else (readRequest? client jar call).toOption.toList

/-- How a request ends that the transport answers by itself. -/
def endingOf (request bare : Http.Request) : Ending :=
  match (transport bare).within client.window with
  | none => .expired
  | some (.ok response) => .ofResult
      (request.receive client.year client.second jar response).result
  | some (.error cause) => .failed (.transport cause)

/-- How the request of a read ends, whenever it is sent. -/
def readEnding : Ending :=
  if client.settings.timeoutMs ≤ 0 then .expired
  else
    match readRequest? client jar call with
    | .error failure => .failed failure
    | .ok request => endingOf client jar transport request (call.bare request)

/-- What has reached the transport before an attempt. -/
def readBefore : Attempt → List Http.Request
  | .first => []
  | .second _ => readSent client jar call

def ReadTurns (attempt : Attempt) : Prop :=
  attempt = .first ∨ ∃ jar' cell what,
    (call.resume client.settings jar' cell
      (.answer .first (call.headersWith client.settings none))
      (readEnding client jar transport call)).next = .wait what

/-- The stages of a read, and the requests that have reached the transport
then. -/
inductive Reading : List Http.Request → Stage → Prop where
  | asked {attempt : Attempt} {since : Nat}
      (turns : ReadTurns client jar transport call attempt) :
      Reading (readBefore client jar call attempt)
        (.asked (.answer attempt (call.headersWith client.settings none)) since)
  | inFlight {attempt : Attempt} {since number : Nat} {request : Http.Request}
      (turns : ReadTurns client jar transport call attempt)
      (positive : 0 < client.settings.timeoutMs)
      (composed : readRequest? client jar call = .ok request) :
      Reading (readBefore client jar call attempt ++ [request])
        (.inFlight (.answer attempt (call.headersWith client.settings none))
          since number request)
  | ended {attempt : Attempt}
      (turns : ReadTurns client jar transport call attempt) :
      Reading (readBefore client jar call attempt ++ readSent client jar call)
        (.ended (.answer attempt (call.headersWith client.settings none))
          (readEnding client jar transport call))
  | done {attempt : Attempt} {jar' : Http.CookieJar} {cell : TokenCell}
      {outcome : Outcome}
      (turns : ReadTurns client jar transport call attempt)
      (concludes : (call.resume client.settings jar' cell
        (.answer attempt (call.headersWith client.settings none))
        (readEnding client jar transport call)).next = .done outcome) :
      Reading (readBefore client jar call attempt ++ readSent client jar call)
        (.done outcome)

end

variable {client : Client} {jar : Http.CookieJar} {transport : Transport}
  {call : Call} {traffic next : Traffic} {move : Move} {index : Nat}
  {requests : List Http.Request} {stage after : Stage} {what : Wait}
  {ending : Ending}

theorem readSent_of_composed {request : Http.Request}
    (positive : 0 < client.settings.timeoutMs)
    (composed : readRequest? client jar call = .ok request) :
    readSent client jar call = [request] := by
  rw [readSent, if_neg (Int.not_le.mpr positive), composed]
  rfl

theorem readEnding_of_composed {request : Http.Request}
    (positive : 0 < client.settings.timeoutMs)
    (composed : readRequest? client jar call = .ok request) :
    readEnding client jar transport call =
      endingOf client jar transport request (call.bare request) := by
  rw [readEnding, if_neg (Int.not_le.mpr positive), composed]

theorem Reading.resumed (reads : call.descriptor.isRead = true)
    (reading : Reading client jar transport call requests
      (.ended what ending)) (cell : TokenCell) (now : Nat) :
    Reading client jar transport call requests
      (stageOf now (call.resume client.settings jar cell what ending).next) := by
  cases reading with
  | ended turns =>
      rename_i attempt
      have resumed := call.resume_resumed client.settings jar cell
        (.answer attempt (call.headersWith client.settings none))
        (readEnding client jar transport call)
      cases goesOn : (call.resume client.settings jar cell
          (.answer attempt (call.headersWith client.settings none))
          (readEnding client jar transport call)).next with
      | wait what =>
          rw [goesOn] at resumed
          obtain ⟨rfl, rejected, rfl⟩ := resumed.of_isRead reads
          have again : Reading client jar transport call
              (readBefore client jar call (.second rejected))
              (.asked (.answer (.second rejected)
                (call.headersWith client.settings none)) now) :=
            .asked (.inr ⟨_, _, _, goesOn⟩)
          exact again
      | done outcome => exact .done turns goesOn

/-- A step of a read leads from one of its stages to another. -/
theorem Reading.step (reads : call.descriptor.isRead = true)
    (reading : Reading client traffic.jar transport call requests stage)
    (regular : Regular client transport traffic move)
    (taken : step client traffic move = some next)
    (found : traffic.calls[index]? = some ⟨call, stage⟩)
    (reached : next.calls[index]? = some ⟨call, after⟩)
    {nextJar : Http.CookieJar} {cell : TokenCell}
    (step : StageStep client traffic call index move stage nextJar cell
      after) :
    Reading client traffic.jar transport call
      (requests ++ (after.launched?.map Prod.snd).toList) after := by
  cases step with
  | launched positive composed =>
      cases reading with
      | asked turns => exact .inFlight turns positive composed
  | unfit positive refused =>
      cases reading with
      | asked turns =>
          have refused : readRequest? client traffic.jar call = .error _ :=
            refused
          have ending := Reading.ended turns
          rw [readSent, readEnding, if_neg (Int.not_le.mpr positive),
            if_neg (Int.not_le.mpr positive), refused] at ending
          exact ending
  | windowless closed =>
      cases reading with
      | asked turns =>
          have ending := Reading.ended turns
          rw [readSent, readEnding, if_pos closed, if_pos closed] at ending
          exact ending
  | answered =>
      cases reading with
      | inFlight turns positive composed =>
          have ending := Reading.ended turns
          rw [readSent_of_composed positive composed,
            readEnding_of_composed positive composed, endingOf,
            regular.2 _ found _ rfl rfl] at ending
          simpa [Stage.launched?] using ending
  | failed =>
      cases reading with
      | inFlight turns positive composed =>
          have ending := Reading.ended turns
          rw [readSent_of_composed positive composed,
            readEnding_of_composed positive composed, endingOf,
            regular _ found _ rfl rfl] at ending
          simpa [Stage.launched?] using ending
  | expired late =>
      cases reading with
      | inFlight turns positive composed =>
          have ending := Reading.ended turns
          rw [readSent_of_composed positive composed,
            readEnding_of_composed positive composed, endingOf,
            regular _ found _ rfl rfl] at ending
          simpa [Stage.launched?] using ending
  | resumed resumed =>
      rename_i other
      have stands := stage_of_resume taken found
      simp only [stage?, reached, Option.map_some, Option.some.injEq] at stands
      have nothing : (stageOf traffic.now other).launched? = none := by
        cases other <;> rfl
      rw [nothing, Option.map_none, Option.toList_none, List.append_nil, stands]
      exact reading.resumed reads _ _

theorem step_jar (regular : Regular client transport traffic move)
    (taken : step client traffic move = some next) : next.jar = traffic.jar := by
  cases step_stepped taken with
  | begun attempted jar calls => exact jar
  | moved mover found step calls =>
      generalize next.jar = jar, next.cell = cell at step
      cases step with
      | answered => exact Http.Request.receive_jar regular.1
      | launched | unfit | failed | windowless | expired | resumed => rfl
  | passed cell jar calls => exact jar

/-- The jar stays as it was, and every read is at one of its stages. -/
structure Steady (client : Client) (transport : Transport) (start : Traffic)
    (moves : List Move) (traffic : Traffic) : Prop where
  jar : traffic.jar = start.jar
  reading : ∀ index call stage, traffic.calls[index]? = some ⟨call, stage⟩ →
    call.descriptor.isRead = true →
      Reading client start.jar transport call
        (((trail client start moves index).filterMap Stage.launched?).map
          Prod.snd) stage

theorem run_steady {cell : TokenCell} {moves : List Move}
    (ran : run? client (initial cell jar) moves = some traffic)
    (regular : Throughout client (Regular client transport) (initial cell jar)
      moves) :
    Steady client transport (initial cell jar) moves traffic := by
  refine run_induction (fun moves traffic =>
    Throughout client (Regular client transport) (initial cell jar) moves →
      Steady client transport (initial cell jar) moves traffic) ?_ ?_ ran regular
  · intro _
    exact ⟨rfl, fun index call stage found => by simp [initial] at found⟩
  · intro moves traffic move next ran earlier taken regular
    obtain ⟨regularBefore, regularNow⟩ := (throughout_concat_iff ran).mp regular
    obtain ⟨jarEq, reading⟩ := earlier regularBefore
    refine ⟨(step_jar regularNow taken).trans jarEq, ?_⟩
    intro index call stage found reads
    cases stage_origin taken found with
    | kept other before =>
        rw [trail_concat_other ran taken other]
        exact reading index call stage before reads
    | begun begins absent mover attempted =>
        rw [trail_concat_mover ran taken mover found,
          (run_charted ran).absent index absent]
        rw [(attempted.of_isRead reads).2]
        exact .asked (.inl rfl)
    | moved mover before step =>
        rw [trail_concat_mover ran taken mover found, filterMap_concat,
          List.map_append]
        have earlierReading := reading index call _ before reads
        rw [← jarEq] at earlierReading ⊢
        have later := earlierReading.step reads regularNow taken before found step
        cases launched : stage.launched? <;> simpa [launched] using later

end Traffic

end AdminGate

import AdminGate.Client.Call
import AdminGate.Http.Redirect
import AdminGate.Http.Status

/-!
# Traffic

All calls of one client, which share its token cell and its cookie jar.  `Traffic.step` performs one
uninterrupted step of one call, or lets time pass; any order of steps that it allows is a run.

The request that a call waits for is at first only asked for.  It reaches the transport when it is
launched, unless it cannot be put together; there it is answered or fails, or its time runs out.
Time passes only while every request is with the transport, and never beyond the moment at which the
time of one of them runs out.
-/

namespace AdminGate

structure Client where
  settings : Settings
  base : Http.Url
  /-- The current year and second, by which cookies end. -/
  year : Nat
  second : Int
deriving Repr

namespace Client

/-- A client for settings whose base address is an address. -/
def make? (settings : Settings) (year : Nat) (second : Int) : Except Http.UrlError Client := do
  let url ← Http.Url.parse? Http.hostNameForm? settings.baseUrl.toList
  let base ← url.withFinalSlash? Http.hostNameForm?
  return ⟨settings, base, year, second⟩

/-- The time that a request may take, in microseconds. -/
def window (client : Client) : Nat :=
  client.settings.timeoutMs.toNat * 1000

end Client

/-- How a request is seen to end by the transport. -/
inductive Closing where
  | answered (status : Int)
  | failed (cause : Http.TransportFailure)
  | cancelled
deriving DecidableEq, Repr

/-- What can be observed of the traffic. -/
inductive Observation where
  | sent (number call : Nat) (request : Http.Request)
  | closed (number : Nat) (closing : Closing)
  | logged (entry : LogEntry)

/-- Where the request that a call waits for stands, since when. -/
inductive Stage where
  | asked (what : Wait) (since : Nat)
  | inFlight (what : Wait) (since number : Nat) (request : Http.Request)
  | ended (what : Wait) (ending : Ending)
  | done (outcome : Outcome)

structure OpenCall where
  call : Call
  stage : Stage

/-- All calls of a client with what they share. -/
structure Traffic where
  cell : TokenCell
  jar : Http.CookieJar
  calls : List OpenCall
  now : Nat
  /-- The number of requests that have reached the transport. -/
  sent : Nat
  observations : List Observation

/-- The steps that can happen. -/
inductive Move where
  /-- A call begins; the text names it unless its caller does. -/
  | begin (call : Call)
  | launch (call : Nat)
  | answer (call : Nat) (response : Http.Response)
  | fail (call : Nat) (cause : Http.TransportFailure)
  | expire (call : Nat)
  | resume (call : Nat)
  | pass (microseconds : Nat)

/-- Whether a call lets time pass until a moment. -/
def OpenCall.isPatient (client : Client) (moment : Nat) (entry : OpenCall) : Bool :=
  match entry.stage with
  | .asked .. | .ended .. => false
  | .inFlight _ since _ _ => moment ≤ since + client.window
  | .done _ => true

namespace Traffic

/-- The traffic of a client that has not been used. -/
def initial (cell : TokenCell) (jar : Http.CookieJar) : Traffic :=
  ⟨cell, jar, [], 0, 0, []⟩

def observe (traffic : Traffic) (more : List Observation) : Traffic :=
  { traffic with observations := traffic.observations ++ more }

def place (traffic : Traffic) (index : Nat) (call : Call) (stage : Stage) : Traffic :=
  { traffic with calls := traffic.calls.set index ⟨call, stage⟩ }

/-- The stage that a step of a call leads to. -/
def stageOf (now : Nat) : Next → Stage
  | .wait what => .asked what now
  | .done outcome => .done outcome

/-- Let the effect of a step of a call be seen by the others. -/
def apply (traffic : Traffic) (step : CallStep) : Traffic :=
  { traffic with cell := step.cell }.observe (step.entries.map .logged)

def stage? (traffic : Traffic) (index : Nat) : Option Stage :=
  (traffic.calls[index]?).map (·.stage)

def begin (client : Client) (traffic : Traffic) (call : Call) : Traffic :=
  let step := call.attempt client.settings traffic.jar traffic.cell .first
  let traffic := traffic.apply step
  { traffic with calls := traffic.calls ++ [⟨call, stageOf traffic.now step.next⟩] }

/-- A request is put together and handed to the transport. -/
def launch (client : Client) (traffic : Traffic) (index : Nat) : Option Traffic :=
  match traffic.calls[index]? with
  | some ⟨call, .asked what since⟩ =>
      if client.settings.timeoutMs ≤ 0 then none
      else
        match Http.Request.compose? client.base traffic.jar
            (call.inquiry client.settings what) with
        | .error failure => some (traffic.place index call (.ended what (.failed failure)))
        | .ok request =>
            let number := traffic.sent
            some (({ traffic with sent := number + 1 }.place index call
              (.inFlight what since number request)).observe [.sent number index request])
  | _ => none

def answer (client : Client) (traffic : Traffic) (index : Nat) (response : Http.Response) :
    Option Traffic :=
  match traffic.calls[index]? with
  | some ⟨call, .inFlight what _ number request⟩ =>
      let closed := traffic.observe [.closed number (.answered response.status)]
      let received := request.receive client.year client.second traffic.jar response
      let reported : List LogEntry :=
        if received.isReported then
          [(Event.requestAnswered request.method (String.ofList request.url.text)
            response.status (Http.statusPhrase response.status)).alone]
        else []
      some (({ closed with jar := received.jar }.observe (reported.map .logged)).place index call
        (.ended what
          (match received.result with
            | .ok response => .answered response
            | .error failure => .failed failure)))
  | _ => none

def fail (traffic : Traffic) (index : Nat) (cause : Http.TransportFailure) : Option Traffic :=
  match traffic.calls[index]? with
  | some ⟨call, .inFlight what _ number _⟩ =>
      some ((traffic.observe [.closed number (.failed cause)]).place index call
        (.ended what (.failed (.transport cause))))
  | _ => none

/-- The time of a request has run out; one that is still with the transport is cancelled. -/
def expire (client : Client) (traffic : Traffic) (index : Nat) : Option Traffic :=
  match traffic.calls[index]? with
  | some ⟨call, .asked what _⟩ =>
      if client.settings.timeoutMs ≤ 0 then
        some (traffic.place index call (.ended what .expired))
      else none
  | some ⟨call, .inFlight what since number _⟩ =>
      if since + client.window ≤ traffic.now then
        some ((traffic.observe [.closed number .cancelled]).place index call
          (.ended what .expired))
      else none
  | _ => none

/-- A call whose request has ended goes on. -/
def resume (client : Client) (traffic : Traffic) (index : Nat) : Option Traffic :=
  match traffic.calls[index]? with
  | some ⟨call, .ended what ending⟩ =>
      let step := call.resume client.settings traffic.jar traffic.cell what ending
      some ((traffic.apply step).place index call (stageOf traffic.now step.next))
  | _ => none

def pass (client : Client) (traffic : Traffic) (microseconds : Nat) : Option Traffic :=
  if traffic.calls.all (OpenCall.isPatient client (traffic.now + microseconds)) then
    some { traffic with now := traffic.now + microseconds }
  else none

/-- One step; nothing when it cannot happen. -/
def step (client : Client) (traffic : Traffic) : Move → Option Traffic
  | .begin call => some (begin client traffic call)
  | .launch index => launch client traffic index
  | .answer index response => answer client traffic index response
  | .fail index cause => fail traffic index cause
  | .expire index => expire client traffic index
  | .resume index => resume client traffic index
  | .pass microseconds => pass client traffic microseconds

def run? (client : Client) : Traffic → List Move → Option Traffic
  | traffic, [] => some traffic
  | traffic, move :: rest => (step client traffic move).bind fun traffic => run? client traffic rest

end Traffic

end AdminGate

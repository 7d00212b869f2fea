import AdminGate.Client.Answer
import AdminGate.Client.Descriptor
import AdminGate.Http.Request

/-!
# Calls

A call sends one descriptor and comes back with a result.  A writing call carries an anti-forgery
token: the one held in the token cell, else the one of the cookie, else one that the token endpoint
issues.  When the server turns the token down, the call drops it and sends the descriptor once more,
with another token if there is one.

Between two requests a call runs without interruption, so it is a machine of few steps: `open?`
prepares it, `attempt` starts an attempt, `afterToken` and `afterAnswer` go on when the request it
waits for has ended.  Each step reads the token cell and the jar as they are at that moment and says
what the call waits for next, or what it returns.
-/

namespace AdminGate

/-- What stays the same during a call. -/
structure Call where
  descriptor : Descriptor
  headers : Http.Headers
  context : CallContext
deriving Repr

/-- The attempts of a call; the second one knows the token that was turned down. -/
inductive Attempt where
  | first
  | second (rejected : Option String)
deriving DecidableEq, Repr

/-- The token that an attempt must not carry. -/
def Attempt.rejected : Attempt → Option String
  | first => none
  | second rejected => rejected

/-- The request that a call waits for: one for a token, or its own one with these fields. -/
inductive Wait where
  | token (attempt : Attempt)
  | answer (attempt : Attempt) (headers : Http.Headers)
deriving DecidableEq, Repr

inductive Ending where
  | answered (response : Http.Response)
  | failed (failure : Http.Failure)
  | expired
deriving DecidableEq, Repr

/-- How a request ends for the one who reads the answer: a body whose values are nested too deeply
is a failure. -/
def Ending.read : Ending → Ending
  | answered response =>
      match Http.Response.bodyNesting? response.body with
      | some nesting => failed (.tooDeep nesting)
      | none => answered response
  | ending => ending

abbrev Outcome := Except Http.Failure ApiResult

inductive Next where
  | wait (what : Wait)
  | done (outcome : Outcome)

/-- The effect of one step of a call. -/
structure CallStep where
  cell : TokenCell
  entries : List LogEntry
  next : Next

namespace TokenCell

/-- Put a token that is known not to be blank into the cell, and report it. -/
def keep (token : String) (provenance : Provenance) : TokenCell × LogEntry :=
  (⟨some ⟨token, provenance⟩⟩, (Event.tokenStored provenance).alone)

/-- Drop a token if the cell holds it, and report that. -/
def drop (cell : TokenCell) (token : String) : TokenCell × List LogEntry :=
  if cell.token? = some token then (empty, [Event.tokenInvalidated.alone]) else (cell, [])

end TokenCell

namespace Call

def requestIdHeader : String := "X-Request-ID"

/-- Prepare a call; `freshId` names it unless the caller does. -/
def open? (descriptor : Descriptor) (freshId : String) : Except Http.Failure Call := do
  let headers ← (Http.Headers.ofCaller? (descriptor.headers.getD [])).mapError .notAscii
  let given ← (headers.get? requestIdHeader).mapError .notAscii
  let requestId := Text.trimmed (given.getD "")
  return {
    descriptor
    headers
    context := ⟨if requestId.isEmpty then freshId else requestId, descriptor.method,
      descriptor.url⟩ }

/-- The fields of a request with a token. -/
def headersWith (call : Call) (settings : Settings) (token : Option String) : Http.Headers :=
  let headers := call.headers.set requestIdHeader call.context.requestId
  match token with
  | some token => headers.set settings.tokenHeader token
  | none => headers

/-- Wait for the answer to a request with a token, or without any. -/
def transmit (call : Call) (settings : Settings) (attempt : Attempt) (token : Option String) :
    Next :=
  .wait (.answer attempt (call.headersWith settings token))

/-- What the token cookie of the jar offers. -/
def cookieToken (settings : Settings) (jar : Http.CookieJar) : Option String × List LogEntry :=
  match jar.find settings.tokenCookie with
  | .absent => (none, [])
  | .ambiguous => (none, [(Event.cookieAmbiguous settings.tokenCookie).alone])
  | .single value =>
      let token := Text.trimmed value
      (if token.isEmpty then none else some token, [])

/-- A token that can be used now: the one held or the one of the cookie, unless it is the one that
was turned down. -/
def readyToken? (settings : Settings) (jar : Http.CookieJar) (cell : TokenCell)
    (rejected : Option String) : TokenCell × List LogEntry × Option String :=
  match cell.token?.filter fun token => some token != rejected with
  | some token => (cell, [], some token)
  | none =>
      let (offered, entries) := cookieToken settings jar
      match offered.filter fun token => some token != rejected with
      | some token =>
          let (cell, entry) := TokenCell.keep token .cookie
          (cell, entries ++ [entry], some token)
      | none => (cell, entries, none)

/-- Start an attempt: a reading call sends its request, a writing one needs a token first. -/
def attempt (call : Call) (settings : Settings) (jar : Http.CookieJar) (cell : TokenCell)
    (attempt : Attempt) : CallStep :=
  if call.descriptor.isRead then ⟨cell, [], call.transmit settings attempt none⟩
  else
    match readyToken? settings jar cell attempt.rejected with
    | (cell, entries, some token) => ⟨cell, entries, call.transmit settings attempt (some token)⟩
    | (cell, entries, none) => ⟨cell, entries, .wait (.token attempt)⟩

/-- Return a failure that has no answer behind it. -/
def giveUp (settings : Settings) (notice : Notice) (kind : FailureKind) : Next :=
  .done (.ok (.failed (notice.message settings.locale) kind none []))

def withoutToken (call : Call) (settings : Settings) (cell : TokenCell) (attempt : Attempt)
    (event : Event) : CallStep :=
  ⟨cell, [event.alone, Event.tokenMissing.inCall call.context],
    call.transmit settings attempt none⟩

/-- Give up because no token came in time. -/
def tokenTooLate (call : Call) (settings : Settings) (cell : TokenCell) : CallStep :=
  ⟨cell, [(Event.tokenTimedOut settings.timeoutMs).inCall call.context],
    giveUp settings .timedOut .timeout⟩

/-- What asking for a token makes of a failure: a timeout of the transport is raised again, any
other failure of the exchange comes to having no token, and the rest is not handled. -/
def missToken (failure : Http.Failure) : Except Http.Failure Unit :=
  if failure.isAny [.transportTimeout] then .error failure
  else if failure.isAny [.exchange, .address] then .ok ()
  else .error failure

/-- Go on when the request for a token has ended.  Of what asking for it raises, the call handles
the timeouts, those of its own clock among them. -/
def afterToken (call : Call) (settings : Settings) (cell : TokenCell) (attempt : Attempt) :
    Ending → CallStep
  | .answered response =>
      match Answer.issuedToken? response with
      | some token =>
          let (cell, entry) := TokenCell.keep token .serverIssued
          ⟨cell, [entry], call.transmit settings attempt (some token)⟩
      | none =>
          call.withoutToken settings cell attempt
            (.tokenNotIssued settings.tokenEndpoint response.status)
  | .expired => call.tokenTooLate settings cell
  | .failed failure =>
      match missToken failure with
      | .ok () =>
          call.withoutToken settings cell attempt (.tokenFetchFailed settings.tokenEndpoint)
      | .error raised =>
          if raised.isAny [.clock, .transportTimeout] then call.tokenTooLate settings cell
          else ⟨cell, [], .done (.error raised)⟩

/-- Give up because no answer came in time. -/
def answerTooLate (call : Call) (settings : Settings) (cell : TokenCell) : CallStep :=
  ⟨cell, [(Event.requestTimedOut settings.timeoutMs).inCall call.context],
    giveUp settings .timedOut .timeout⟩

/-- Drop the token that an answer turns down and start the second attempt. -/
def retry (call : Call) (settings : Settings) (jar : Http.CookieJar) (cell : TokenCell)
    (headers : Http.Headers) : CallStep :=
  match headers.get? settings.tokenHeader with
  | .error run => ⟨cell, [], .done (.error (.notAscii run))⟩
  | .ok rejected =>
      let (cell, dropped) := cell.drop (rejected.getD "")
      let step := call.attempt settings jar cell (.second rejected)
      ⟨step.cell, dropped ++ Event.tokenRejected.inCall call.context :: step.entries, step.next⟩

def finish (call : Call) (settings : Settings) (cell : TokenCell) (response : Http.Response) :
    CallStep :=
  ⟨cell, (Answer.event? response).toList.map fun event => event.inCall call.context,
    .done (.ok (Answer.result response settings.locale))⟩

/-- Return that the token was turned down twice. -/
def rejectedAgain (call : Call) (settings : Settings) (cell : TokenCell)
    (response : Http.Response) (answer : Fields) : CallStep :=
  ⟨cell, [(Event.tokenRejectedAgain response.status).inCall call.context],
    .done (.ok (.failed (Answer.errorOr answer settings.locale) .tokenRejected
      (some response.status) (ApiResult.business answer)))⟩

/-- Go on when the request of the call itself has ended. -/
def afterAnswer (call : Call) (settings : Settings) (jar : Http.CookieJar) (cell : TokenCell)
    (attempt : Attempt) (headers : Http.Headers) : Ending → CallStep
  | .answered response =>
      match response.object? with
      | none => call.finish settings cell response
      | some answer =>
          if Answer.isRejection response.status answer then
            match attempt with
            | .first => call.retry settings jar cell headers
            | .second _ => call.rejectedAgain settings cell response answer
          else call.finish settings cell response
  | .expired => call.answerTooLate settings cell
  | .failed failure =>
      if failure.isAny [.clock, .transportTimeout] then call.answerTooLate settings cell
      else if failure.isAny [.exchange, .address] then
        ⟨cell, [Event.requestFailed.inCall call.context],
          giveUp settings .networkFailed .network⟩
      else ⟨cell, [], .done (.error failure)⟩

/-- Go on when the request that the call waits for has ended. -/
def resume (call : Call) (settings : Settings) (jar : Http.CookieJar) (cell : TokenCell)
    (waited : Wait) (ending : Ending) : CallStep :=
  match waited with
  | .token attempt => call.afterToken settings cell attempt ending.read
  | .answer attempt headers => call.afterAnswer settings jar cell attempt headers ending.read

/-- The request that a call waits for. -/
def inquiry (call : Call) (settings : Settings) : Wait → Http.Inquiry
  | .token _ => ⟨"GET", settings.tokenEndpoint, [], none⟩
  | .answer _ headers =>
      ⟨call.descriptor.method, call.descriptor.url, headers, call.descriptor.sentBody⟩

end Call

end AdminGate

import AdminGate.Json.Value
import AdminGate.Log.Level
import AdminGate.Text.Digit
import AdminGate.Token.Cell

/-!
# Events

What the client reports about its work.  An event has a level, the name of the part that reports
it, a wording and possibly the status of an answer; an entry puts it into the context of the call
that it belongs to.
-/

namespace AdminGate

inductive Event where
  | tokenStored (provenance : Provenance)
  | tokenInvalidated
  | cookieAmbiguous (cookie : String)
  | tokenFetchFailed (endpoint : String)
  | tokenNotIssued (endpoint : String) (status : Int)
  | tokenTimedOut (timeoutMs : Int)
  | tokenMissing
  | requestTimedOut (timeoutMs : Int)
  | requestFailed
  | tokenRejected
  | tokenRejectedAgain (status : Int)
  | answerNotObject (status : Int)
  | answerRefused (status : Int)
  | identityLoaded (username role : String) (permissions : Nat) (isSuperAdmin : Bool)
  | identityFailed (error : String)
  | loggingConfigured (levelName : String) (isJson capturesRoot : Bool)
  | requestAnswered (method url : String) (status : Int) (reason : String)
deriving DecidableEq, Repr

/-- The call that an event belongs to. -/
structure CallContext where
  requestId : String
  method : String
  url : String
deriving DecidableEq, Repr

/-- What whatever is logged about a call is stamped with. -/
structure LogStamp where
  requestId : Json
  method : Json
  url : Json
deriving Repr

namespace LogStamp

/-- The values of a stamp under their names. -/
def fields (stamp : LogStamp) : Fields := [
  ("request_id", stamp.requestId),
  ("method", stamp.method),
  ("url", stamp.url)]

/-- Values with a stamp in front.  A value that is given under a name of the stamp counts there. -/
def mark (stamp : LogStamp) (extra : Fields) : Fields :=
  stamp.fields.insertAll extra

/-- Values with a stamp in front if there is one. -/
def marked (stamp : Option LogStamp) (extra : Fields) : Fields :=
  match stamp with
  | some stamp => stamp.mark extra
  | none => extra

end LogStamp

def CallContext.stamp (context : CallContext) : LogStamp :=
  ⟨.text context.requestId, .text context.method, .text context.url⟩

/-- An event and the call that it belongs to, if it belongs to one. -/
structure LogEntry where
  event : Event
  context : Option CallContext
deriving DecidableEq, Repr

namespace Event

private def number (value : Int) : String :=
  String.ofList (Text.integerText value)

private def flag (value : Bool) : String :=
  if value then "true" else "false"

def level : Event → LogLevel
  | tokenStored _ | tokenInvalidated | loggingConfigured .. => .debug
  | tokenRejected | answerRefused _ | identityLoaded .. | requestAnswered .. => .info
  | _ => .warning

/-- The part of the client that reports an event. -/
def logger : Event → String
  | tokenStored _ | tokenInvalidated => "storefront_access.infrastructure.token_store"
  | identityLoaded .. | identityFailed _ => "storefront_access.services.identity_loader"
  | loggingConfigured .. => "storefront_access.infrastructure.logging"
  | requestAnswered .. => "httpx"
  | _ => "storefront_access.infrastructure.http_client"

def message : Event → String
  | tokenStored provenance => "Anti-forgery token stored. provenance=" ++ provenance.name
  | tokenInvalidated => "Anti-forgery token invalidated."
  | cookieAmbiguous cookie =>
      "Multiple anti-forgery cookies present; ignoring cookie source. cookie=" ++ cookie
  | tokenFetchFailed endpoint => "Failed to fetch anti-forgery token. endpoint=" ++ endpoint
  | tokenNotIssued endpoint status =>
      "Token endpoint did not issue a token. endpoint=" ++ endpoint ++ " status=" ++ number status
  | tokenTimedOut timeoutMs =>
      "Anti-forgery token request timed out. timeout_ms=" ++ number timeoutMs
  | tokenMissing => "Sending write request without anti-forgery token."
  | requestTimedOut timeoutMs => "Request timed out. timeout_ms=" ++ number timeoutMs
  | requestFailed => "Request failed at transport level."
  | tokenRejected => "Anti-forgery token rejected; refreshing and resending once."
  | tokenRejectedAgain _ => "Anti-forgery token rejected again after refresh; giving up."
  | answerNotObject _ => "Response body is not a JSON object."
  | answerRefused _ => "Request returned error status."
  | identityLoaded username role permissions isSuperAdmin =>
      "Admin identity loaded. username=" ++ username ++ " role=" ++ role ++ " permissions=" ++
        number permissions ++ " super_admin=" ++ flag isSuperAdmin
  | identityFailed error => "Failed to load admin identity. error=" ++ error
  | loggingConfigured levelName isJson capturesRoot =>
      "Client logging configured. level=" ++ levelName ++ " json=" ++ flag isJson ++
        " capture_root=" ++ flag capturesRoot
  | requestAnswered method url status reason =>
      "HTTP Request: " ++ method ++ " " ++ url ++ " \"HTTP/1.1 " ++ number status ++ " " ++
        reason ++ "\""

/-- The status that an event records on its own. -/
def status? : Event → Option Int
  | tokenRejectedAgain status | answerNotObject status | answerRefused status => some status
  | _ => none

/-- Whether the failure behind an event is recorded with it. -/
def hasException : Event → Bool
  | tokenFetchFailed _ | requestFailed => true
  | _ => false

def alone (event : Event) : LogEntry :=
  ⟨event, none⟩

/-- The event as part of a call. -/
def inCall (event : Event) (context : CallContext) : LogEntry :=
  ⟨event, some context⟩

end Event

namespace LogEntry

/-- The named values of an entry: the call that it belongs to, then the status. -/
def extra (entry : LogEntry) : Fields :=
  let own : Fields := match entry.event.status? with
    | some status => [("status", .int status)]
    | none => []
  LogStamp.marked (entry.context.map CallContext.stamp) own

end LogEntry

end AdminGate

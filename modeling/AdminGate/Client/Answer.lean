import AdminGate.Client.Result
import AdminGate.Http.Response
import AdminGate.Json.Display
import AdminGate.Log.Event
import AdminGate.Notice
import AdminGate.Settings.Basic

/-!
# Reading answers

What an answer says about the call: its error text, whether it turns the anti-forgery token down,
and the result that it amounts to.
-/

namespace AdminGate.Answer

/-- The error of an answer before it is cleaned: the error itself or its message, and the detail
when there is none. -/
def rawError (answer : Fields) : Json :=
  let error := (answer.get? "error").getD .null
  let error := match error with
    | .object fields => (Assoc.get? fields "message").getD .null
    | error => error
  match answer.get? "detail" with
  | some (.text detail) => if error.isTruthy then error else .text detail
  | _ => error

/-- The error text of an answer, blank when it has none. -/
def errorText (answer : Fields) : String :=
  match rawError answer with
  | .text error => Text.trimmed error
  | _ => ""

/-- The status that turns a token down, and the word that the error text then holds. -/
def rejectionStatus : Int := 403

@[inherit_doc rejectionStatus]
def rejectionMark : List Char := "csrf".toList

def holds (part : List Char) : List Char → Bool
  | [] => part.isEmpty
  | character :: rest => part.isPrefixOf (character :: rest) || holds part rest

/-- Whether an answer turns the token down. -/
def isRejection (status : Int) (answer : Fields) : Bool :=
  status == rejectionStatus && holds rejectionMark (Text.lower (errorText answer).toList)

/-- Whether an answer reports success itself; saying nothing counts as success. -/
def reportsSuccess (answer : Fields) : Bool :=
  ((answer.get? "success").map Json.isTruthy).getD true

/-- The error text of an answer, or the general one. -/
def errorOr (answer : Fields) (locale : String) : String :=
  let error := errorText answer
  if error.isEmpty then Notice.requestFailed.message locale else error

/-- The result that the object of an answer amounts to. -/
def resultOfObject (status : Int) (isSuccess : Bool) (locale : String) (answer : Fields) :
    ApiResult :=
  if isSuccess && reportsSuccess answer then .succeeded (ApiResult.business answer) status
  else .failed (errorOr answer locale) .server (some status) (ApiResult.business answer)

/-- The result that an answer amounts to when it is final. -/
def result (response : Http.Response) (locale : String) : ApiResult :=
  match response.object? with
  | none => .failed (Notice.invalidAnswer.message locale) .server (some response.status) []
  | some answer => resultOfObject response.status response.isSuccess locale answer

/-- What is reported about a final answer. -/
def event? (response : Http.Response) : Option Event :=
  if response.object?.isNone then some (.answerNotObject response.status)
  else if response.isSuccess then none
  else some (.answerRefused response.status)

/-- The token that the token endpoint issues: the cleaned token of an object that reports success
in so many words. -/
def issuedToken? (response : Http.Response) : Option String :=
  let answer := response.object?.getD []
  let token :=
    if ((answer.get? "success").getD .null).isTruthy then
      ((answer.get? "token").getD .null).cleaned
    else ""
  if token.isEmpty then none else some token

end AdminGate.Answer

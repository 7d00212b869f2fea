import AdminGate.Json.Reader
import AdminGate.Text.Case

/-!
# Answers

The answer to a request: a status, header fields and a body.  The body of interest is a JSON
object; an empty body counts as an empty object.
-/

namespace AdminGate.Http

structure Response where
  status : Int
  headers : List (String × String)
  body : List UInt8
deriving DecidableEq, Repr, Inhabited

namespace Response

def isSuccess (response : Response) : Bool :=
  200 ≤ response.status && response.status ≤ 299

/-- The values of a header field, whose name is given in small letters. -/
def values (response : Response) (key : String) : List String :=
  (response.headers.filter fun header => Text.basicLowercased header.1 == key).map Prod.snd

/-- The JSON object that a body holds. -/
def bodyObject? (body : List UInt8) : Option Fields :=
  if body.isEmpty then some [] else (Json.ofBytes? body).bind Json.fields?

/-- How the values in a body are nested, if they are nested too deeply. -/
def bodyNesting? (body : List UInt8) : Option Json.Nesting :=
  match Json.read body with
  | .error (.tooDeep nesting) => some nesting
  | _ => none

def object? (response : Response) : Option Fields :=
  bodyObject? response.body

end Response

end AdminGate.Http

import AdminGate.Scenario.Server

/-!
# Reading a server script

A script is an array of routes, each an object with a path and an array of replies.
-/

namespace AdminGate

namespace Json

/-- The items of an array, none for any other value. -/
def items : Json → List Json
  | array items => items
  | _ => []

/-- A value of an object, null when it is missing. -/
def field (value : Json) (name : String) : Json :=
  (value.get? name).getD null

/-- The integer of a value, zero for any other value. -/
def integer : Json → Int
  | int value => value
  | _ => 0

/-- The pairs of texts in an array of arrays. -/
def textPairs (value : Json) : List (String × String) :=
  value.items.filterMap fun pair =>
    match pair.items with
    | [.text name, .text value] => some (name, value)
    | _ => none

def microseconds : Json → Nat
  | int value => value.toNat * 1000
  | float (.finite false magnitude) => magnitude.units * 1000 / Magnitude.unit
  | _ => 0

end Json

namespace ReplyRule

/-- The bytes of a body: given in hexadecimal digits, as a text, or as a value. -/
def bodyOf (reply : Json) : List UInt8 :=
  match reply.get? "hex", reply.get? "text", reply.get? "json" with
  | some (.text digits), _, _ => (Text.hexBytes? digits.toList).getD []
  | _, some (.text body), _ => Text.utf8Bytes body.toList
  | _, _, some value => Text.utf8Bytes value.written
  | _, _, none => []

/-- A reply that does not depend on the request. -/
def replyOf (reply : Json) : Reply :=
  let delay := (reply.field "delay_ms").microseconds
  match (reply.field "raise").text?.bind Http.TransportFailure.ofName? with
  | some cause => .failure cause delay
  | none =>
      if (reply.field "hang").isTruthy then .silence
      else
        .answer {
          status := match reply.get? "status" with
            | some (.int status) => status
            | _ => 200
          headers := (reply.field "headers").textPairs
          body := bodyOf reply } delay

/-- A reply or a choice; the first argument bounds how deep choices are nested. -/
def ofJson : Nat → Json → ReplyRule
  | 0, value => .always (replyOf value)
  | bound + 1, value =>
      match (value.field "when").items with
      | [.text name, .text wanted] =>
          .byHeader name wanted (ofJson bound (value.field "then"))
            (ofJson bound (value.field "else"))
      | _ => .always (replyOf value)

end ReplyRule

def Server.ofJson (script : Json) : Server :=
  .ofRoutes (script.items.map fun route =>
    (((route.field "path").text?).getD "",
      (route.field "responses").items.map fun reply => .ofJson reply.depth reply))

end AdminGate

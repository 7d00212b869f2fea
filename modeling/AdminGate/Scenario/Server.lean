import AdminGate.Http.Request

/-!
# The scripted server

A server that answers from a script: for every route a list of replies, used in order, the last one
again and again.  A route is named by method and path or by the path alone.  A reply may depend on a
header field of the request, may come late, may be a failure of the transport, or may never come.
-/

namespace AdminGate

/-- What becomes of a request, and after how many microseconds. -/
inductive Reply where
  | answer (response : Http.Response) (delay : Nat)
  | failure (cause : Http.TransportFailure) (delay : Nat)
  | silence
deriving Repr

/-- A reply, or a choice by the value of a header field. -/
inductive ReplyRule where
  | always (reply : Reply)
  | byHeader (name value : String) (equal other : ReplyRule)
deriving Repr

/-- The script, and how many replies of each route have been used. -/
structure Server where
  routes : Assoc (List ReplyRule)
  used : Assoc Nat
deriving Repr

namespace Reply

def notFound : Reply :=
  .answer ⟨404, [], Text.utf8Bytes (Json.object [("detail", .text "Not Found")]).written⟩ 0

end Reply

namespace ReplyRule

/-- The reply to a request with the given header fields. -/
def choose (headers : Http.Headers) : ReplyRule → Reply
  | always reply => reply
  | byHeader name value equal other =>
      match headers.get? name with
      | .ok (some found) => if found == value then choose headers equal else choose headers other
      | _ => choose headers other

end ReplyRule

namespace Server

/-- A server that has not been asked yet. -/
def ofRoutes (routes : List (String × List ReplyRule)) : Server :=
  ⟨Assoc.ofPairs routes, []⟩

def route? (server : Server) (request : Http.Request) : Option (String × List ReplyRule) :=
  let path := String.ofList request.url.requestPath
  let full := request.method ++ " " ++ path
  match server.routes.get? full with
  | some rules => some (full, rules)
  | none => (server.routes.get? path).map fun rules => (path, rules)

def reply (server : Server) (request : Http.Request) : Server × Reply :=
  match server.route? request with
  | none => (server, .notFound)
  | some (route, rules) =>
      let used := (server.used.get? route).getD 0
      match rules[min used (rules.length - 1)]? with
      | none => (server, .notFound)
      | some rule =>
          ({ server with used := server.used.insert route (used + 1) },
            rule.choose request.headers)

end Server

end AdminGate

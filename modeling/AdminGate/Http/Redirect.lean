import AdminGate.Http.ContentCoding
import AdminGate.Http.Reference
import AdminGate.Http.Request

/-!
# Answers that send elsewhere

An answer with certain statuses names a place to ask instead.  The client does not go there, but it
does put the next request together; when that cannot be done, the answer is lost.
-/

namespace AdminGate.Http

namespace Response

/-- The statuses that send elsewhere. -/
def redirectStatuses : List Int := [301, 302, 303, 307, 308]

/-- The place that an answer sends to, if it sends elsewhere. -/
def location? (response : Response) : Option (List Char) :=
  match response.values "location" with
  | [] => none
  | values =>
      if redirectStatuses.contains response.status then some (", ".intercalate values).toList
      else none

end Response

namespace Url

/-- Whether two addresses belong to one origin, the host of the first one being looked at first. -/
def isSameOrigin? (url other : Url) : Except Failure Bool := do
  if url.scheme == other.scheme then
    let host ← url.hostText?
    let otherHost ← other.hostText?
    return host == otherHost && url.port == other.port
  else return false

end Url

namespace Request

/-- The address that a place stands for: one with a scheme but no host takes the host of the
request, and one without either is relative to the request. -/
def follow? (request : Request) (location : List Char) : Except Failure Url := do
  let place ← (Url.parse? hostNameForm? location).mapError fun _ => .redirect
  let hosted ←
    if place.scheme.isEmpty then pure place
    else if (← place.hostText?).isEmpty then
      (place.withHost? hostNameForm? (← request.url.hostText?)).mapError .address
    else pure place
  let whole ←
    if hosted.isAbsolute then pure hosted
    else
      let text ← (joinAddress request.url.text hosted.text).mapError .unsplittable
      (Url.parse? hostNameForm? text).mapError .address
  if !(request.url.fragment.getD []).isEmpty && (whole.fragment.getD []).isEmpty then
    (whole.withFragment? hostNameForm? request.url.fragment).mapError .address
  else return whole

/-- The header fields of a request to another place: its host is named, and cookies are left to
the jar. -/
def headersFor? (request : Request) (url : Url) : Except Failure Headers := do
  let headers : Headers := request.headers.filter fun header => header.key != "cookie"
  if ← url.isSameOrigin? request.url then return headers
  let _ ← request.url.hostText?
  let _ ← url.hostText?
  (Text.checkAscii url.netloc).mapError .notAscii
  return headers.set "Host" (String.ofList url.netloc)

/-- Refuse an answer that sends to a place for which no request can be put together. -/
def checkRedirect (request : Request) (jar : CookieJar) (response : Response) :
    Except Failure Unit := do
  match response.location? with
  | none => return
  | some location =>
      let url ← request.follow? location
      let headers ← request.headersFor? url
      let _ ← withCookies? jar url headers

structure Reception where
  jar : CookieJar
  /-- Whether the client reports the answer. -/
  isReported : Bool
  result : Except Failure Response

/-- What the client makes of an answer: its body is decoded, its cookies go into the jar, and the
place that it may send to is looked at.  The transport hands over whole answers, so a body that
cannot be decoded, or that never comes to its end, keeps the cookies of its answer from the jar. -/
def receive (request : Request) (currentYear : Nat) (now : Int) (jar : CookieJar)
    (response : Response) : Reception :=
  match response.decoded?, site? request.url request.headers with
  | none, _ => ⟨jar, false, .error .undecodable⟩
  | some _, .error failure => ⟨jar, false, .error failure⟩
  | some response, .ok site =>
      match jar.receive site currentYear now (response.values "set-cookie")
          (response.values "set-cookie2") with
      | (jar, false) => ⟨jar, false, .error .notLocated⟩
      | (jar, true) =>
          ⟨jar, true, (request.checkRedirect jar response).map fun _ => response⟩

end Request

end AdminGate.Http

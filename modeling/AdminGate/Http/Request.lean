import AdminGate.Http.CookieJar
import AdminGate.Http.Failure
import AdminGate.Http.Header
import AdminGate.Http.Response
import AdminGate.Json.Printer
import AdminGate.Text.Base64

/-!
# Requests

A request as it goes out: method, address, header fields and a JSON object as its body.
`Request.compose?` puts it together from what a caller gives, the cookies of the jar and the base
address; the first thing that does not fit is the failure of the exchange.
-/

namespace AdminGate.Http

structure Request where
  method : String
  url : Url
  headers : Headers
  body : Option Fields
deriving Repr

structure Inquiry where
  method : String
  target : String
  headers : Headers
  body : Option Fields
deriving Repr

/-- The host of an address, in the characters that a form in ASCII stands for. -/
def Url.hostText? (url : Url) : Except Failure (List Char) :=
  if codedMark.isPrefixOf url.host then (hostNameText? url.host).mapError .hostName
  else .ok url.host

namespace Request

/-- The fields that every request carries unless the caller replaces them. -/
def standardHeaders : Headers := [⟨"Accept", "application/json"⟩]

/-- The site of an address, which needs a scheme. -/
def site? (url : Url) (headers : Headers) : Except Failure Site :=
  if url.scheme.isEmpty then .error (.unknownScheme url.text)
  else
    (Site.ofUrl? url (", ".intercalate (headers.values "host"))).mapError .unsplittable

/-- Add the cookies that go to a site, unless the caller brought cookies.  Among fields that are
all ASCII the cookies have to be ASCII, too. -/
def withCookies? (jar : CookieJar) (url : Url) (headers : Headers) : Except Failure Headers := do
  if jar.cookies.isEmpty then return headers
  let site ← site? url headers
  match jar.headerFor? site with
  | none => return headers
  | some cookies =>
      if headers.has "cookie" then return headers
      if headers.isAscii then
        match Text.nonAscii? cookies.toList with
        | some run => throw (.notAscii run)
        | none => return headers.set "Cookie" cookies
      else return headers.set "Cookie" cookies

/-- Name the type of a body, unless the caller did.  A body must be finite. -/
def withBodyType? (body : Option Fields) (headers : Headers) : Except Failure Headers :=
  match body with
  | none => .ok headers
  | some fields =>
      if !(Json.object fields).isFinite then .error .notFinite
      else if headers.has "content-type" then .ok headers
      else .ok (headers.set "Content-Type" "application/json")

/-- Refuse a host that cannot be named in a field, unless the caller named one. -/
def checkHost (url : Url) (headers : Headers) : Except Failure Unit := do
  if headers.has "host" then return
  if (← url.hostText?).isEmpty then return
  (Text.checkAscii url.netloc).mapError .notAscii

/-- Give the name and the password of the address in their own field. -/
def withCredentials (url : Url) (headers : Headers) : Headers :=
  let (name, password) := url.credentials
  if name.isEmpty && password.isEmpty then headers
  else
    headers.set "Authorization"
      ("Basic " ++ String.ofList (Text.base64 (Text.utf8Bytes (name ++ ':' :: password))))

def resolve? (base : Url) (target : String) : Except Failure Url :=
  (base.resolve? hostNameForm? target.toList).mapError .address

def compose? (base : Url) (jar : CookieJar) (inquiry : Inquiry) : Except Failure Request := do
  let url ← resolve? base inquiry.target
  let headers ← (standardHeaders.merge inquiry.headers).mapError .notAscii
  let headers ← withCookies? jar url headers
  let headers ← withBodyType? inquiry.body headers
  checkHost url headers
  return {
    method := Text.uppercased inquiry.method
    url
    headers := withCredentials url headers
    body := inquiry.body }

end Request

end AdminGate.Http

import AdminGate.Http.HostName
import AdminGate.Http.Split
import AdminGate.Http.Url
import AdminGate.Json.Reader
import AdminGate.Text.Ascii

/-!
# Failures of an exchange

Why a request did not lead to an answer: the transport failed, the request could not be put
together, or the answer cannot be used.  A caller that handles failures names classes of errors;
a failure belongs to some of these classes or to none.
-/

namespace AdminGate.Http

/-- How a transport fails. -/
inductive TransportFailure where
  | connect
  | read
  | write
  | close
  | connectTimeout
  | readTimeout
  | writeTimeout
  | poolTimeout
  | remoteProtocol
  | localProtocol
  | proxy
  | unsupportedProtocol
  | decoding
  | tooManyRedirects
  | invalidUrl
  | cookieConflict
  | runtime
  | value
  | system
  | clock
deriving DecidableEq, Repr

/-- The classes of errors that handlers name. -/
inductive ErrorClass where
  /-- What goes wrong in an exchange. -/
  | exchange
  /-- The transport has waited too long.  Whatever is of this class is also of class `exchange`. -/
  | transportTimeout
  /-- A clock has run out, that of the caller included. -/
  | clock
  /-- An address cannot be used.  This is not of class `exchange`. -/
  | address
deriving DecidableEq, Repr

namespace TransportFailure

def table : List (String × TransportFailure) := [
  ("ConnectError", connect),
  ("ReadError", read),
  ("WriteError", write),
  ("CloseError", close),
  ("ConnectTimeout", connectTimeout),
  ("ReadTimeout", readTimeout),
  ("WriteTimeout", writeTimeout),
  ("PoolTimeout", poolTimeout),
  ("RemoteProtocolError", remoteProtocol),
  ("LocalProtocolError", localProtocol),
  ("ProxyError", proxy),
  ("UnsupportedProtocol", unsupportedProtocol),
  ("DecodingError", decoding),
  ("TooManyRedirects", tooManyRedirects),
  ("InvalidURL", invalidUrl),
  ("CookieConflict", cookieConflict),
  ("RuntimeError", runtime),
  ("ValueError", value),
  ("OSError", system),
  ("TimeoutError", clock)]

def ofName? (name : String) : Option TransportFailure :=
  table.lookup name

def name (failure : TransportFailure) : String :=
  ((table.find? fun entry => entry.2 == failure).map Prod.fst).getD ""

/-- The classes that a failure belongs to. -/
def classes : TransportFailure → List ErrorClass
  | connectTimeout | readTimeout | writeTimeout | poolTimeout => [.transportTimeout, .exchange]
  | connect | read | write | close | remoteProtocol | localProtocol | proxy
  | unsupportedProtocol | decoding | tooManyRedirects => [.exchange]
  | invalidUrl => [.address]
  | clock => [.clock]
  | cookieConflict | runtime | value | system => []

end TransportFailure

/-- Why a request has no answer. -/
inductive Failure where
  | transport (cause : TransportFailure)
  | address (cause : UrlError)
  | redirect
  | notAscii (run : Text.NonAscii)
  | unknownScheme (url : List Char)
  | unsplittable (cause : SplitError)
  | hostName (cause : HostNameFault)
  | notLocated
  | notFinite
  | undecodable
  | tooDeep (nesting : Json.Nesting)
deriving DecidableEq, Repr

namespace Failure

/-- The classes that a failure belongs to. -/
def classes : Failure → List ErrorClass
  | transport cause => cause.classes
  | address _ => [.address]
  | redirect | undecodable => [.exchange]
  | notAscii _ | unknownScheme _ | unsplittable _ | hostName _ | notLocated | notFinite
  | tooDeep _ => []

/-- Whether a handler that names some classes handles a failure. -/
def isAny (failure : Failure) (named : List ErrorClass) : Bool :=
  named.any failure.classes.contains

/-- The wording of a failure; that of a transport is its own. -/
def message : Failure → String
  | transport _ => "scripted"
  | address cause => cause.message
  | redirect => "Invalid URL in location header"
  | notAscii run => run.message
  | unknownScheme url => "unknown url type: " ++ String.ofList (Text.quote url)
  | unsplittable cause => cause.message
  | hostName cause => cause.message
  | notLocated => "'NoneType' object has no attribute 'find'"
  | notFinite => "Out of range float values are not JSON compliant"
  | undecodable => "Error while decoding the body"
  | tooDeep nesting => nesting.message

end Failure

end AdminGate.Http

import AdminGate.Http.IpAddress
import AdminGate.Number.Integer
import AdminGate.Text.Case
import AdminGate.Text.Percent
import AdminGate.Text.Quoted

/-!
# Request addresses

The address of a request in its normal form: scheme and host in lower case, no default port, no dot
segments, and every component percent-encoded where it has to be.  `Url.parse?` reads an address,
`Url.resolve?` puts a relative one behind the path of a base address.
-/

namespace AdminGate.Http

inductive UrlError where
  | tooLong
  | componentTooLong (component : String)
  | controlCharacter (character : Char) (position : Nat)
  | badPort (port : List Char)
  | badIpv4 (host : List Char)
  | badIpv6 (host : List Char)
  | badHostName (host : List Char)
  | pathWithoutSlash
  | pathWithTwoSlashes
  | pathWithColon
deriving DecidableEq, Repr

private def quotedText (input : List Char) : String :=
  String.ofList (Text.quote input)

def UrlError.message : UrlError → String
  | tooLong => "URL too long"
  | componentTooLong component => "URL component '" ++ component ++ "' too long"
  | controlCharacter character position =>
      "Invalid non-printable ASCII character in URL, " ++ quotedText [character] ++
        " at position " ++ toString position ++ "."
  | badPort port => "Invalid port: " ++ quotedText port
  | badIpv4 host => "Invalid IPv4 address: " ++ quotedText host
  | badIpv6 host => "Invalid IPv6 address: " ++ quotedText host
  | badHostName host => "Invalid IDNA hostname: " ++ quotedText host
  | pathWithoutSlash => "For absolute URLs, path must be empty or begin with '/'"
  | pathWithTwoSlashes => "Relative URLs cannot have a path starting with '//'"
  | pathWithColon => "Relative URLs cannot have a path starting with ':'"

structure Url where
  scheme : List Char
  userinfo : List Char
  host : List Char
  port : Option Int
  path : List Char
  query : Option (List Char)
  fragment : Option (List Char)
deriving DecidableEq, Repr

/-- The parts of an address before they are normalised. -/
structure RawUrl where
  scheme : List Char
  authority : List Char
  path : List Char
  query : Option (List Char)
  fragment : Option (List Char)

/-- The longest address and the longest component. -/
def longestUrl : Nat := 65536

/-- A visible character of ASCII outside a list of delimiters, or an unreserved one. -/
def isSafeUnless (delimiters : List Char) (character : Char) : Bool :=
  Text.isUnreserved character ||
    (33 ≤ character.toNat && character.toNat ≤ 126 && !delimiters.contains character)

/-- The characters that a fragment, a query, a path and a user part keep as they are. -/
def isFragmentSafe : Char → Bool := isSafeUnless ['"', '<', '>', Char.ofNat 96]

@[inherit_doc isFragmentSafe]
def isQuerySafe : Char → Bool := isSafeUnless ['"', '#', '<', '>']

@[inherit_doc isFragmentSafe]
def isPathSafe : Char → Bool :=
  isSafeUnless ['"', '#', '<', '>', '?', Char.ofNat 96, Char.ofNat 123, Char.ofNat 125]

@[inherit_doc isFragmentSafe]
def isUserinfoSafe : Char → Bool :=
  isSafeUnless ['"', '#', '<', '>', '?', Char.ofNat 96, Char.ofNat 123, Char.ofNat 125, '/', ';',
    '=', '@', '[', '\\', ']', '^', '|']

/-- The characters that a host name keeps as they are. -/
def isHostSafe (character : Char) : Bool :=
  Text.isUnreserved character ||
    ['!', '$', '&', '\'', '(', ')', '*', '+', ',', ';', '=', '"', Char.ofNat 96, Char.ofNat 123,
      Char.ofNat 125, '%', '|', '\\'].contains character

/-- The scheme, without its colon, and what follows it. -/
def takeScheme (input : List Char) : List Char × List Char :=
  let candidate := input.takeWhile fun character =>
    character.isAlpha || character.isDigit || character == '+' || character == '.' ||
      character == '-'
  match input.drop candidate.length, candidate with
  | ':' :: rest, [] => ([], rest)
  | ':' :: rest, first :: _ => if first.isAlpha then (candidate, rest) else ([], input)
  | _, _ => ([], input)

/-- The text up to one of the marks and what follows from there. -/
def takeUntil (marks : List Char) (input : List Char) : List Char × List Char :=
  let before := input.takeWhile fun character => !marks.contains character
  (before, input.drop before.length)

def takeAuthority : List Char → List Char × List Char
  | '/' :: '/' :: rest => takeUntil ['/', '?', '#'] rest
  | rest => ([], rest)

/-- What follows a mark at the start of a text, up to one of the other marks. -/
def takeMarked (mark : Char) (marks : List Char) :
    List Char → Option (List Char) × List Char
  | first :: rest =>
      if first == mark then
        let (part, rest) := takeUntil marks rest
        (some part, rest)
      else (none, first :: rest)
  | [] => (none, [])

def RawUrl.ofText (input : List Char) : RawUrl :=
  let (scheme, rest) := takeScheme input
  let (authority, rest) := takeAuthority rest
  let (path, rest) := takeUntil ['?', '#'] rest
  let (query, rest) := takeMarked '?' ['#'] rest
  let (fragment, _) := takeMarked '#' [] rest
  ⟨scheme, authority, path, query, fragment⟩

/-- The text before the last mark and what follows it; no text before when there is no mark. -/
def cutAtLast (mark : Char) (input : List Char) : List Char × List Char :=
  let after := (input.reverse.takeWhile (· != mark)).reverse
  ((input.take (input.length - after.length)).dropLast, after)

/-- The host part of an authority without user part: what stands in brackets, or the text up to
a colon; and the port text after the colon. -/
def takeHost (input : List Char) : List Char × List Char :=
  let bracketed := (input.reverse.dropWhile (· != ']')).reverse
  let host :=
    if input.head? == some '[' && !bracketed.isEmpty then bracketed
    else input.takeWhile (· != ':')
  let rest := input.drop host.length
  (host, if rest.head? == some ':' then rest.drop 1 else rest)

/-- Whether a host is written like an address of version 4: four runs of digits with dots between
them. -/
def looksLikeIpv4 (host : List Char) : Bool :=
  let parts := Text.splitAt '.' host
  parts.length = 4 && parts.all fun part => !part.isEmpty && part.all Char.isDigit

def normalHost? (encodeName : List Char → Option (List Char)) (host : List Char) :
    Except UrlError (List Char) :=
  if host.isEmpty then .ok []
  else if looksLikeIpv4 host then
    if isIpv4 host then .ok host else .error (.badIpv4 host)
  else if host.head? == some '[' && host.getLast? == some ']' then
    let plain := (host.drop 1).dropLast
    if isIpv6 plain then .ok plain else .error (.badIpv6 host)
  else if host.all fun character => character.toNat < 128 then
    .ok (Text.encodeKeeping isHostSafe (host.map Char.toLower))
  else
    match encodeName (Text.lower host) with
    | some name => .ok name
    | none => .error (.badHostName host)

/-- The port that a scheme uses on its own. -/
def defaultPort? (scheme : List Char) : Option Int :=
  [("ftp", 21), ("http", 80), ("https", 443), ("ws", 80), ("wss", 443)].lookup
    (String.ofList scheme)

/-- The port of a port text; none for a blank one and for the one that the scheme uses anyway. -/
def normalPort? (port scheme : List Char) : Except UrlError (Option Int) :=
  if port.isEmpty then .ok none
  else
    match integer? port with
    | some value => .ok (if defaultPort? scheme == some value then none else some value)
    | none => .error (.badPort port)

/-- Refuse a path that does not fit an address with or without authority. -/
def checkPath (path : List Char) (hasScheme hasAuthority : Bool) : Except UrlError Unit :=
  if hasAuthority then
    if path.isEmpty || path.head? == some '/' then .ok () else .error .pathWithoutSlash
  else if hasScheme then .ok ()
  else if "//".toList.isPrefixOf path then .error .pathWithTwoSlashes
  else if path.head? == some ':' then .error .pathWithColon
  else .ok ()

/-- Walk through the segments of a path, `.` standing still and `..` going back one. -/
def walkSegments (walked : List (List Char)) : List (List Char) → List (List Char)
  | [] => walked
  | segment :: rest =>
      if segment == ['.'] then walkSegments walked rest
      else if segment == ['.', '.'] then
        walkSegments (if walked == [[]] then walked else walked.dropLast) rest
      else walkSegments (walked ++ [segment]) rest

def withoutDots (path : List Char) : List Char :=
  let segments := Text.splitAt '/' path
  if segments.contains ['.'] || segments.contains ['.', '.'] then
    Text.joinWith '/' (walkSegments [] segments)
  else path

namespace Url

def normalise? (encodeName : List Char → Option (List Char)) (raw : RawUrl) :
    Except UrlError Url := do
  let (userinfo, rest) :=
    if raw.authority.contains '@' then cutAtLast '@' raw.authority else ([], raw.authority)
  let (hostText, portText) := takeHost rest
  let userinfo := Text.encodeKeeping isUserinfoSafe userinfo
  let host ← normalHost? encodeName hostText
  let port ← normalPort? portText raw.scheme
  let hasScheme := !raw.scheme.isEmpty
  let hasAuthority := !userinfo.isEmpty || !host.isEmpty || port.isSome
  checkPath raw.path hasScheme hasAuthority
  let path := if hasScheme || hasAuthority then withoutDots raw.path else raw.path
  return {
    scheme := raw.scheme.map Char.toLower
    userinfo, host, port
    path := Text.encodeKeeping isPathSafe path
    query := raw.query.map (Text.encodeKeeping isQuerySafe)
    fragment := raw.fragment.map (Text.encodeKeeping isFragmentSafe) }

/-- Whether a character of ASCII has no printed form. -/
def isControl (character : Char) : Bool :=
  character.toNat < 32 || character.toNat == 127

def parse? (encodeName : List Char → Option (List Char)) (input : List Char) :
    Except UrlError Url :=
  if longestUrl < input.length then .error .tooLong
  else
    match input.find? isControl with
    | some character =>
        .error (.controlCharacter character (input.takeWhile (· != character)).length)
    | none => normalise? encodeName (RawUrl.ofText input)

/-- The host, in brackets if it is an address of version 6, and the port. -/
def netloc (url : Url) : List Char :=
  (if url.host.contains ':' then '[' :: (url.host ++ [']']) else url.host) ++
    match url.port with
    | some port => ':' :: Text.integerText port
    | none => []

/-- The user part, the host and the port. -/
def authority (url : Url) : List Char :=
  (if url.userinfo.isEmpty then [] else url.userinfo ++ ['@']) ++ url.netloc

/-- The path, or a slash, and the query. -/
def target (url : Url) : List Char :=
  (if url.path.isEmpty then ['/'] else url.path) ++
    match url.query with
    | some query => '?' :: query
    | none => []

def text (url : Url) : List Char :=
  (if url.scheme.isEmpty then [] else url.scheme ++ [':']) ++
    (if url.authority.isEmpty then [] else '/' :: '/' :: url.authority) ++ url.path ++
    (match url.query with
      | some query => '?' :: query
      | none => []) ++
    (match url.fragment with
      | some fragment => '#' :: fragment
      | none => [])

def isAbsolute (url : Url) : Bool :=
  !url.scheme.isEmpty && !url.host.isEmpty

/-- Refuse a component that is too long. -/
def checkLength (component : String) (part : List Char) : Except UrlError Unit :=
  if longestUrl < part.length then .error (.componentTooLong component) else .ok ()

/-- The parts of an address in normal form. -/
def raw (url : Url) : RawUrl :=
  ⟨url.scheme, url.authority, url.path, url.query, url.fragment⟩

/-- The address with given parts, none of which may be too long. -/
def ofParts? (encodeName : List Char → Option (List Char)) (raw : RawUrl) :
    Except UrlError Url := do
  checkLength "authority" raw.authority
  checkLength "path" raw.path
  checkLength "query" (raw.query.getD [])
  checkLength "fragment" (raw.fragment.getD [])
  normalise? encodeName raw

/-- The address with another path and query. -/
def withTarget? (encodeName : List Char → Option (List Char)) (url : Url)
    (target : List Char) : Except UrlError Url :=
  let (path, rest) := takeUntil ['?'] target
  let query := if rest.isEmpty then none else some (rest.drop 1)
  ofParts? encodeName { url.raw with path, query }

def withHost? (encodeName : List Char → Option (List Char)) (url : Url) (host : List Char) :
    Except UrlError Url :=
  ofParts? encodeName { url.raw with authority := { url with host }.authority }

def withFragment? (encodeName : List Char → Option (List Char)) (url : Url)
    (fragment : Option (List Char)) : Except UrlError Url :=
  ofParts? encodeName { url.raw with fragment }

/-- The address with a slash at the end of its path and query. -/
def withFinalSlash? (encodeName : List Char → Option (List Char)) (url : Url) :
    Except UrlError Url :=
  if url.target.getLast? == some '/' then .ok url
  else url.withTarget? encodeName (url.target ++ ['/'])

/-- The address that a text means under a base address: itself when it is absolute, otherwise
its path and query behind those of the base. -/
def resolve? (encodeName : List Char → Option (List Char)) (base : Url) (input : List Char) :
    Except UrlError Url := do
  let url ← parse? encodeName input
  if url.isAbsolute then return url
  else base.withTarget? encodeName (base.target ++ url.target.dropWhile (· == '/'))

/-- The path without the query, a slash for an empty one. -/
def requestPath (url : Url) : List Char :=
  if url.path.isEmpty then ['/'] else url.path

/-- The name and the password of the user part. -/
def credentials (url : Url) : List Char × List Char :=
  let name := url.userinfo.takeWhile (· != ':')
  (Text.decodeLossy name, Text.decodeLossy ((url.userinfo.drop name.length).drop 1))

end Url

end AdminGate.Http

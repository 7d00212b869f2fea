import AdminGate.Http.Date
import AdminGate.Http.Split
import AdminGate.Http.Url
import AdminGate.Json.Value
import AdminGate.Number.Double

/-!
# Cookies

A cookie as a server sets it: its name and value, the sites and paths that it goes back to, and
whether it has ended already.  `CookieOrder.ofTexts` and `CookieOrder.ofWords` read the two kinds of
fields that set cookies, without judging them; `CookieOrder.settle` fills in what a field leaves
open; `Cookie.isDomainAccepted` and `Cookie.isPortAccepted` say which cookies a site may set,
`Cookie.isReturned` which ones go to a site.
-/

namespace AdminGate.Http

/-- The site that a request goes to, as cookies see it. -/
structure Site where
  host : List Char
  /-- The host, with the local domain behind a name without dots. -/
  domain : List Char
  /-- Whether the address names a network location, be it an empty one. -/
  isLocated : Bool
  port : Option (List Char)
  path : List Char
  isSecure : Bool
deriving DecidableEq, Repr

/-- A cookie that is kept, or offered to be kept; then it may lack a version. -/
structure Cookie where
  name : String
  value : Option String
  version : Option Int
  domain : List Char
  isDomainGiven : Bool
  path : List Char
  port : Option (List Char)
  isPortGiven : Bool
  isSecure : Bool
deriving DecidableEq, Repr

/-- The characters of a path that cookies leave unescaped. -/
def isCookiePathSafe (character : Char) : Bool :=
  Text.isUnreserved character || "%/;:@&=+$,!~*'()".toList.contains character

/-- A path with capital escapes in place of what must not stand in a path. -/
def cookiePath (path : List Char) : List Char :=
  Text.capitalEscapes (Text.encodeUnless isCookiePathSafe path)

namespace Site

/-- A host without the port after it. -/
def withoutPort (netloc : List Char) : List Char :=
  let digits := (netloc.reverse.takeWhile Char.isDigit).length
  match digits, netloc.reverse.drop digits with
  | _ + 1, ':' :: rest => rest.reverse
  | _, _ => netloc

/-- The port after the first colon; the standard port without a colon, none when what follows is
no number. -/
def portOf (netloc : List Char) : Option (List Char) :=
  if netloc.contains ':' then
    let port := (netloc.dropWhile (· != ':')).drop 1
    if (integer? port).isSome then some port else none
  else some "80".toList

/-- The site of an address; `hostField` stands in for an address without a host. -/
def ofUrl? (url : Url) (hostField : String) : Except SplitError Site := do
  let parts ← splitAddress url.text
  let netloc := if parts.netloc.isEmpty then hostField.toList else parts.netloc
  let host := Text.lower (withoutPort netloc)
  let path := cookiePath parts.path
  return {
    host
    domain := if host.contains '.' then host else host ++ ".local".toList
    isLocated := "//".toList.isPrefixOf (url.text.drop (url.scheme.length + 1))
    port := portOf (Text.decodeLossy parts.netloc)
    path := if path.head? == some '/' then path else '/' :: path
    isSecure := url.scheme == "https".toList || url.scheme == "wss".toList }

/-- The directory of the path; with its slash for a cookie of another version than the first. -/
def directory (site : Site) (version : Option Int) : List Char :=
  let upTo := (site.path.reverse.dropWhile (· != '/')).reverse
  let directory := if version = some 0 then upTo.dropLast else upTo
  if directory.isEmpty then ['/'] else directory

end Site

/-- When a cookie ends: a moment may be given in words. -/
inductive CookieEnd where
  | withSession
  | at (seconds : Int)
  | inWords
deriving DecidableEq, Repr

/-- Whether the end lies beyond every double. -/
def CookieEnd.isTooFar : CookieEnd → Bool
  | .at seconds => !(Double.ofInt seconds).isFinite
  | _ => false

/-- What a field that sets a cookie says. -/
structure CookieOrder where
  name : String
  value : Option String
  version : Option Int
  domain : Option (List Char)
  path : Option (List Char)
  /-- The port attribute, which may come without a value. -/
  port : Option (Option (List Char))
  isSecure : Bool
  ends : CookieEnd
deriving DecidableEq, Repr

/-- Why the cookies of an answer are not read to their end. -/
inductive CookieFault where
  | brokenDate
  | ageWithoutValue
  | endTooFar
  | endInWords
  | unknownPort
deriving DecidableEq, Repr

/-- One attribute: its name, and its value if there is one. -/
abbrev CookieAttribute := List Char × Option (List Char)

namespace CookieOrder

/-- The attributes that are known by their name in any case. -/
def knownNames : List String :=
  ["version", "expires", "max-age", "domain", "path", "port", "comment", "commenturl", "discard",
    "secure"]

/-- The name of an attribute, in small letters if it is known. -/
def attributeName (name : List Char) : String :=
  let small := Text.lowercased (String.ofList name)
  if knownNames.contains small then small else String.ofList name

/-- A value without a double quote at either end. -/
def withoutQuotes (value : List Char) : List Char :=
  let value := if value.head? == some '"' then value.drop 1 else value
  if value.getLast? == some '"' then value.dropLast else value

/-- One part of the field: a name, and a value if there is an equals sign. -/
def ofPart (part : List Char) : CookieAttribute :=
  let part := Text.trim part
  let name := part.takeWhile (· != '=')
  let rest := part.drop name.length
  (Text.trim name, if rest.isEmpty then none else some (Text.trim (rest.drop 1)))

/-- The name and value of the cookie and the attributes after them; nothing without a name. -/
def parts? (input : List Char) : Option (CookieAttribute × List CookieAttribute) :=
  match (Text.splitAt ';' input).map ofPart with
  | [] => none
  | first :: rest =>
      if first.1.isEmpty then none else some (first, rest.filter fun part => !part.1.isEmpty)

/-- What has been read of the attributes so far. -/
structure Draft where
  version : Option (List Char)
  domain : Option (List Char)
  path : Option (List Char)
  port : Option (Option (List Char))
  secure : Option Bool
  ends : Option CookieEnd

/-- How a field is written: in parts, whose values may stand in quotes, or in words, whose dates
are not understood. -/
inductive CookieForm where
  | parts (currentYear : Nat)
  | words

def CookieForm.version : CookieForm → List Char → List Char
  | parts _, value => withoutQuotes value
  | words, value => value

/-- The end that a date stands for, if it stands for any. -/
def CookieForm.end? : CookieForm → List Char → Except CookieFault (Option CookieEnd)
  | parts currentYear, value =>
      match DateReading.ofText currentYear (withoutQuotes value) with
      | .broken => .error .brokenDate
      | .unusable => .ok none
      | .moment seconds => .ok (some (.at seconds))
  | words, _ => .ok (some .inWords)

/-- The effect of one attribute: the first one of its name counts, but an age overrides a date.
The inner `none` stands for a field that is ignored as a whole. -/
def read (form : CookieForm) (now : Int) (draft : Draft) (part : CookieAttribute) :
    Except CookieFault (Option Draft) :=
  match attributeName part.1, part.2 with
  | "domain", value =>
      .ok (if draft.domain.isSome then some draft
        else value.map fun value => { draft with domain := some (Text.lower value) })
  | "path", value =>
      .ok (if draft.path.isSome then some draft
        else value.map fun value => { draft with path := some value })
  | "version", value =>
      .ok (if draft.version.isSome then some draft
        else value.map fun value => { draft with version := some (form.version value) })
  | "port", value =>
      .ok (some (if draft.port.isSome then draft else { draft with port := some value }))
  | "secure", value =>
      let secure := (value.map fun value => !value.isEmpty).getD true
      .ok (some (if draft.secure.isSome then draft else { draft with secure := some secure }))
  | "expires", some value =>
      (form.end? value).map fun ends =>
        some (if draft.ends.isSome then draft else { draft with ends })
  | "max-age", none => .error .ageWithoutValue
  | "max-age", some value =>
      .ok ((integer? value).map fun age =>
        { draft with ends := some (.at (now + age)) })
  | _, _ => .ok (some draft)

def readAll (form : CookieForm) (now : Int) :
    Draft → List CookieAttribute → Except CookieFault (Option Draft)
  | draft, [] => .ok (some draft)
  | draft, part :: rest =>
      match read form now draft part with
      | .error fault => .error fault
      | .ok none => .ok none
      | .ok (some draft) => readAll form now draft rest

/-- Refuse a date whose month does not exist. -/
def checkDate (currentYear : Nat) (part : CookieAttribute) : Except CookieFault Unit :=
  match attributeName part.1, part.2 with
  | "expires", some value =>
      if DateReading.ofText currentYear (withoutQuotes value) == .broken then .error .brokenDate
      else .ok ()
  | _, _ => .ok ()

/-- The version that is meant by what is said of it, if it is a number. -/
def CookieForm.number? (form : CookieForm) (version : Option (List Char)) : Option (Option Int) :=
  match form, version with
  | _, some version => (integer? version).map some
  | parts _, none => some (some 0)
  | words, none => some none

/-- What a field with the given attributes orders; nothing for a field that is ignored. -/
def ofAttributes (form : CookieForm) (now : Int) (first : CookieAttribute)
    (rest : List CookieAttribute) : Except CookieFault (Option CookieOrder) := do
  let start : Draft := ⟨none, none, none, none, none, none⟩
  let draft ← readAll form now start rest
  return draft.bind fun draft =>
    (form.number? draft.version).map fun version =>
      { name := String.ofList first.1
        value := first.2.map String.ofList
        version
        domain := draft.domain
        path := draft.path
        port := draft.port
        isSecure := draft.secure.getD false
        ends := draft.ends.getD .withSession }

/-- Read the fields of one answer that set cookies.  A date whose month does not exist makes all
of them void. -/
def ofTexts (currentYear : Nat) (now : Int) (inputs : List (List Char)) :
    Except CookieFault (List CookieOrder) := do
  let fields := inputs.filterMap parts?
  fields.forM fun (_, rest) => rest.forM (checkDate currentYear)
  let orders ← fields.mapM fun (first, rest) => ofAttributes (.parts currentYear) now first rest
  return orders.filterMap id

def isWordGap (character : Char) : Bool :=
  character == '=' || character == ';' || Text.isBlank character

/-- A quoted value behind an equals sign and its opening quote, and what follows it. -/
def quotedValue? : List Char → Option (List Char × List Char)
  | [] => none
  | '"' :: rest => some ([], rest)
  | ['\\'] => none
  | '\\' :: character :: rest =>
      if character == '\n' then none
      else (quotedValue? rest).map fun (value, rest) => (character :: value, rest)
  | character :: rest =>
      (quotedValue? rest).map fun (value, rest) => (character :: value, rest)

/-- The value behind a word, if an equals sign follows it, and what follows. -/
def wordValue (input : List Char) : Option (List Char) × List Char :=
  match input.dropWhile Text.isBlank with
  | '=' :: rest =>
      let behind := rest.dropWhile Text.isBlank
      let quoted := match behind with
        | '"' :: inside => quotedValue? inside
        | _ => none
      match quoted with
      | some (value, rest) => (some value, rest)
      | none =>
          let value := behind.takeWhile fun character =>
            !(character == ';' || character == ',' || Text.isBlank character)
          (some value, behind.drop value.length)
  | _ => (none, input)

/-- The cookies of a field in words, each with its attributes: words with or without a value,
commas between cookies.  The first argument bounds the work, `read` holds the words of the cookie
being read, last first. -/
def wordGroups : Nat → List CookieAttribute → List Char → List (List CookieAttribute)
  | 0, _, _ => []
  | bound + 1, read, input =>
      let closed := if read.isEmpty then [] else [read.reverse]
      match input.dropWhile Text.isBlank with
      | [] => closed
      | ',' :: rest => closed ++ wordGroups bound [] rest
      | first :: rest =>
          if isWordGap first then wordGroups bound read (rest.dropWhile isWordGap)
          else
            let word := (first :: rest).takeWhile fun character =>
              !(isWordGap character || character == ',')
            let (value, rest) := wordValue ((first :: rest).drop word.length)
            wordGroups bound ((word, value) :: read) rest

/-- Read the fields in words of one answer. -/
def ofWords (now : Int) (inputs : List (List Char)) :
    Except CookieFault (List CookieOrder) := do
  let groups := inputs.flatMap fun input => wordGroups (input.length + 1) [] input
  let orders ← groups.mapM fun group =>
    match group with
    | [] => .ok none
    | first :: rest => ofAttributes .words now first rest
  return orders.filterMap id

/-- The cookie that an order from a site stands for. -/
def settle (order : CookieOrder) (site : Site) : Cookie where
  name := order.name
  value := order.value
  version := order.version
  domain := match order.domain with
    | none => site.domain
    | some domain => if domain.head? == some '.' then domain else '.' :: domain
  isDomainGiven := order.domain.isSome
  path := match order.path with
    | some (first :: rest) => cookiePath (first :: rest)
    | _ => site.directory order.version
  port := match order.port with
    | none => none
    | some none => site.port
    | some (some ports) => some (ports.filter fun character => !Text.isBlank character)
  isPortGiven := (order.port.map Option.isSome).getD false
  isSecure := order.isSecure

def isOver (order : CookieOrder) (now : Int) : Bool :=
  match order.ends with
  | .at seconds => seconds ≤ now
  | _ => false

end CookieOrder

namespace Cookie

/-- Whether a text ends with another one. -/
def endsWith (text ending : List Char) : Bool :=
  ending.isSuffixOf text

/-- A domain with a dot in front, unless it is empty or has one. -/
def dotted (domain : List Char) : List Char :=
  if domain.isEmpty || domain.head? == some '.' then domain else '.' :: domain

/-- Whether the site may set a cookie for the domain that it names. -/
def isDomainAccepted (cookie : Cookie) (site : Site) : Bool :=
  let plain := if cookie.domain.head? == some '.' then cookie.domain.drop 1 else cookie.domain
  !cookie.isDomainGiven ||
    ((plain.contains '.' || endsWith site.domain ".local".toList) &&
      (cookie.version != some 0 || endsWith site.domain cookie.domain ||
        endsWith site.domain (plain ++ ".local".toList) || site.domain.head? == some '.' ||
        endsWith ('.' :: site.domain) cookie.domain))

/-- Whether the port of the site is one of the ports that the cookie names, all of which before
it are numbers. -/
def isPortAccepted (cookie : Cookie) (site : Site) : Bool :=
  !cookie.isPortGiven ||
    let ports := Text.splitAt ',' (cookie.port.getD [])
    let wanted := site.port.getD "80".toList
    let before := ports.takeWhile (· != wanted)
    before.length < ports.length && (before ++ [wanted]).all fun port => (integer? port).isSome

/-- Whether the version of a cookie lets it be kept. -/
def isVersionAccepted (cookie : Cookie) : Bool :=
  cookie.version.any (· ≤ 0)

/-- The cookie with the first version in place of the second one. -/
def withFirstVersion (cookie : Cookie) : Cookie :=
  if cookie.version = some 1 then { cookie with version := some 0 } else cookie

/-- Whether cookies of a domain are looked at for a site. -/
def isDomainReturned (domain : List Char) (site : Site) : Bool :=
  let wanted := dotted domain
  endsWith (if site.host.head? == some '.' then site.host else '.' :: site.host) wanted ||
    endsWith (if site.domain.head? == some '.' then site.domain else '.' :: site.domain) wanted

/-- Whether cookies of a path are looked at for a site. -/
def isPathReturned (path : List Char) (site : Site) : Bool :=
  site.path == path ||
    (path.isPrefixOf site.path &&
      (path.getLast? == some '/' || (site.path.drop path.length).head? == some '/'))

/-- Whether a cookie that fits domain and path goes to a site. -/
def isReturned (cookie : Cookie) (site : Site) : Bool :=
  (!cookie.isSecure || site.isSecure) &&
    (match cookie.port with
      | none => true
      | some [] => true
      | some ports => (Text.splitAt ',' ports).contains (site.port.getD "80".toList)) &&
    (cookie.version != some 0 || endsWith ('.' :: site.domain) (dotted cookie.domain))

def text (cookie : Cookie) : String :=
  match cookie.value with
  | none => cookie.name
  | some value => cookie.name ++ "=" ++ value

end Cookie

end AdminGate.Http

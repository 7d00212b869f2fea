import AdminGate.Http.Cookie

/-!
# The cookie jar

The cookies of a client by domain, path and name.  A place once made for a domain or a path keeps
its position, also while it is empty.  `CookieJar.find` looks a name up in all places and tells when
there is more than one cookie; `CookieJar.headerFor?` is what a request carries.
-/

namespace AdminGate.Http

/-- Cookies by domain, path and name. -/
abbrev CookieJar := Assoc (Assoc (Assoc Cookie))

inductive CookieFinding where
  | absent
  | single (value : String)
  | ambiguous
deriving DecidableEq, Repr

namespace CookieJar

def cookies (jar : CookieJar) : List Cookie :=
  jar.flatMap fun (_, paths) => paths.flatMap fun (_, names) => names.map Prod.snd

def put (jar : CookieJar) (cookie : Cookie) : CookieJar :=
  let domain := String.ofList cookie.domain
  let path := String.ofList cookie.path
  let paths := (jar.get? domain).getD []
  let names := (paths.get? path).getD []
  jar.insert domain (paths.insert path (names.insert cookie.name cookie))

/-- Take the cookie out of the place of a given one. -/
def remove (jar : CookieJar) (cookie : Cookie) : CookieJar :=
  let domain := String.ofList cookie.domain
  let path := String.ofList cookie.path
  match jar.get? domain with
  | none => jar
  | some paths =>
      match paths.get? path with
      | none => jar
      | some names => jar.insert domain (paths.insert path (names.erase cookie.name))

/-- A cookie that the client starts with goes to every site and path. -/
def given (name value : String) : Cookie where
  name
  value := some value
  version := some 0
  domain := []
  isDomainGiven := false
  path := ['/']
  port := none
  isPortGiven := false
  isSecure := false

/-- The jar that a client starts with. -/
def ofPairs (pairs : List (String × String)) : CookieJar :=
  pairs.foldl (fun jar (name, value) => jar.put (given name value)) []

/-- What the values of the cookies of one name amount to: a value with another cookie after it
cannot be told from that one's. -/
def choose : List (Option String) → CookieFinding
  | [] => .absent
  | [none] => .absent
  | [some value] => .single value
  | none :: rest => choose rest
  | some _ :: _ => .ambiguous

/-- Look a name up in all places. -/
def find (jar : CookieJar) (name : String) : CookieFinding :=
  choose ((jar.cookies.filter fun cookie => cookie.name == name).map (·.value))

/-- The cookies that go to a site, in order. -/
def cookiesFor (jar : CookieJar) (site : Site) : List Cookie :=
  jar.flatMap fun (domain, paths) =>
    if Cookie.isDomainReturned domain.toList site then
      paths.flatMap fun (path, names) =>
        if Cookie.isPathReturned path.toList site then
          (names.map Prod.snd).filter (·.isReturned site)
        else []
    else []

/-- The field that a request to a site carries, cookies of longer paths first. -/
def headerFor? (jar : CookieJar) (site : Site) : Option String :=
  let sent := (jar.cookiesFor site).mergeSort fun first second =>
    second.path.length ≤ first.path.length
  if sent.isEmpty then none else some ("; ".intercalate (sent.map Cookie.text))

/-- Follow the orders of an answer one by one: an ended cookie is taken out at once, the others
are collected.  An end in words or beyond every number stops the work, and so does the port of a
site that names no network location. -/
def followOrders (site : Site) (now : Int) :
    CookieJar → List CookieOrder → CookieJar × Except CookieFault (List Cookie)
  | jar, [] => (jar, .ok [])
  | jar, order :: rest =>
      let cookie := order.settle site
      if order.port = some none && !site.isLocated then (jar, .error .unknownPort)
      else if order.ends = .inWords then (jar, .error .endInWords)
      else if order.isOver now then followOrders site now (jar.remove cookie) rest
      else if order.ends.isTooFar then (jar, .error .endTooFar)
      else
        let (jar, collected) := followOrders site now jar rest
        (jar, collected.map (cookie :: ·))

/-- Follow the orders that fields give; those of fields that cannot be read to their end are
void. -/
def followAll (jar : CookieJar) (site : Site) (now : Int)
    (orders : Except CookieFault (List CookieOrder)) : CookieJar × List Cookie :=
  match orders with
  | .error _ => (jar, [])
  | .ok orders =>
      match followOrders site now jar orders with
      | (jar, .error _) => (jar, [])
      | (jar, .ok cookies) => (jar, cookies)

/-- Keep cookies as far as the site may set them.  The ports of a cookie cannot be compared with a
site that names no network location; then the jar is left as it is at that moment. -/
def keepAll (site : Site) : CookieJar → List Cookie → CookieJar × Bool
  | jar, [] => (jar, true)
  | jar, cookie :: rest =>
      if !cookie.isVersionAccepted || !cookie.isDomainAccepted site then keepAll site jar rest
      else if cookie.isPortGiven && !site.isLocated then (jar, false)
      else if cookie.isPortAccepted site then keepAll site (jar.put cookie) rest
      else keepAll site jar rest

/-- Keep the cookies of an answer from a site, and tell whether all could be judged.  Fields in
words count only beside plain ones, and come first. -/
def receive (jar : CookieJar) (site : Site) (currentYear : Nat) (now : Int)
    (fields wordFields : List String) : CookieJar × Bool :=
  if fields.isEmpty then (jar, true)
  else
    let (jar, first) := jar.followAll site now
      (CookieOrder.ofWords now (wordFields.map String.toList))
    let (jar, second) := jar.followAll site now
      (CookieOrder.ofTexts currentYear now (fields.map String.toList))
    keepAll site jar (first ++ second.map Cookie.withFirstVersion)

end CookieJar

end AdminGate.Http

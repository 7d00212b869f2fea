import AdminGate.Http.Split
import AdminGate.Lenient
import AdminGate.Notice
import AdminGate.Number.Double

/-!
# Settings

How the client reaches the admin interface, read from the environment.  Every setting is cleaned
on its own: a blank one falls back to its default, the time limit is moved within its bounds, a
path gets its leading slash.  Only a base address that is not an absolute web address is refused.
-/

namespace AdminGate

/-- The variables of the surroundings, as names and values. -/
abbrev Environment := List (String × String)

namespace Environment

/-- The value of a variable, null when it is not set. -/
def value (environment : Environment) (name : String) : Json :=
  match environment.lookup name with
  | some value => .text value
  | none => .null

/-- The trimmed value of a variable, `fallback` trimmed when it is not set. -/
def text (environment : Environment) (name : String) (fallback : String) : String :=
  Text.trimmed ((environment.lookup name).getD fallback)

def switch (environment : Environment) (name : String) (fallback : Bool) : Bool :=
  Lenient.switch (environment.value name) fallback

/-- A variable read as an integer within bounds. -/
def integer (environment : Environment) (name : String) (fallback : Int)
    (least greatest : Option Int) : Int :=
  Lenient.integer (environment.value name) fallback least greatest

end Environment

inductive SettingsError where
  | notAbsolute
  | malformed (cause : Http.SplitError)
deriving DecidableEq, Repr

/-- Where the admin interface is found and how it is spoken to. -/
structure Settings where
  baseUrl : String
  timeoutMs : Int
  tokenEndpoint : String
  identityEndpoint : String
  tokenCookie : String
  tokenHeader : String
  locale : String
deriving DecidableEq, Repr

def SettingsError.message : SettingsError → String
  | notAbsolute =>
      "Base URL (STOREFRONT_BASE_URL or --base-url) must be an absolute http(s) URL, " ++
        "for example http://localhost:8080."
  | malformed cause => cause.message

namespace Settings

/-- The settings of a client that is told nothing. -/
def standard : Settings where
  baseUrl := "http://localhost:8080"
  timeoutMs := 30000
  tokenEndpoint := "/api/csrf-token"
  identityEndpoint := "/api/admin/info"
  tokenCookie := "csrf_token"
  tokenHeader := "X-CSRF-Token"
  locale := "en"

instance : Inhabited Settings := ⟨standard⟩

/-- The least and the greatest time limit, in milliseconds. -/
def timeoutBounds : Int × Int := (1, 600000)

def timeoutSeconds (settings : Settings) : Double :=
  .ofRatio (settings.timeoutMs < 0) settings.timeoutMs.natAbs 1000

/-- A base address without white space around it and slashes after it; the standard one for a
blank text. -/
def baseUrl? (input : String) : Except SettingsError String :=
  let cleaned := ((Text.trim input.toList).reverse.dropWhile (· == '/')).reverse
  if cleaned.isEmpty then .ok standard.baseUrl
  else
    match Http.splitAddress cleaned with
    | .error cause => .error (.malformed cause)
    | .ok parts =>
        if (parts.scheme == "http".toList || parts.scheme == "https".toList) &&
            !parts.netloc.isEmpty then
          .ok (String.ofList cleaned)
        else .error .notAbsolute

/-- A path or an absolute address; a path gets a leading slash. -/
def endpoint (input fallback : String) : String :=
  let cleaned := Text.trim input.toList
  if cleaned.isEmpty then fallback
  else if "http://".toList.isPrefixOf cleaned || "https://".toList.isPrefixOf cleaned ||
      cleaned.head? == some '/' then
    String.ofList cleaned
  else String.ofList ('/' :: cleaned)

/-- A name, `fallback` for a blank one. -/
def name (input fallback : String) : String :=
  if input.isEmpty then fallback else input

def ofEnvironment? (environment : Environment) : Except SettingsError Settings := do
  let baseUrl ← baseUrl? (environment.text "STOREFRONT_BASE_URL" standard.baseUrl)
  return {
    baseUrl
    timeoutMs := environment.integer "STOREFRONT_REQUEST_TIMEOUT_MS" standard.timeoutMs
      (some timeoutBounds.1) (some timeoutBounds.2)
    tokenEndpoint := endpoint (environment.text "STOREFRONT_CSRF_ENDPOINT" "")
      standard.tokenEndpoint
    identityEndpoint := endpoint (environment.text "STOREFRONT_IDENTITY_ENDPOINT" "")
      standard.identityEndpoint
    tokenCookie := name (environment.text "STOREFRONT_CSRF_COOKIE" standard.tokenCookie)
      standard.tokenCookie
    tokenHeader := name (environment.text "STOREFRONT_CSRF_HEADER" standard.tokenHeader)
      standard.tokenHeader
    locale := (Language.ofLocale
      (environment.text "STOREFRONT_LOCALE" standard.locale)).tag }

def withBaseUrl? (settings : Settings) (input : String) : Except SettingsError Settings := do
  let baseUrl ← baseUrl? input
  return { settings with baseUrl }

end Settings

end AdminGate

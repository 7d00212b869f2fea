import AdminGate.Http.IpAddress
import AdminGate.Text.Quoted

/-!
# Splitting addresses

The plain split of an address into scheme, network location, path, query and fragment.  Tabs and
line breaks inside are ignored.  A network location with unbalanced brackets, with something else
than an address of version 6 between brackets, or with a character that compatibility
normalisation turns into a delimiter is refused.
-/

namespace AdminGate.Http

inductive SplitError where
  | unbalancedBrackets
  | malformedFutureAddress
  | notAnAddress (host : List Char)
  | bracketedIpv4
  | hiddenDelimiter (netloc : List Char)
deriving DecidableEq, Repr

def SplitError.message : SplitError → String
  | unbalancedBrackets => "Invalid IPv6 URL"
  | malformedFutureAddress => "IPvFuture address is invalid"
  | notAnAddress host =>
      String.ofList (Text.quote host) ++ " does not appear to be an IPv4 or IPv6 address"
  | bracketedIpv4 => "An IPv4 address cannot be in brackets"
  | hiddenDelimiter netloc =>
      "netloc '" ++ String.ofList netloc ++ "' contains invalid characters under NFKC normalization"

structure SplitAddress where
  scheme : List Char
  netloc : List Char
  path : List Char
  query : List Char
  fragment : List Char
deriving DecidableEq, Repr

/-- The code points that compatibility normalisation turns into a text with one of the
delimiters `/`, `?`, `#`, `@` and `:`. -/
def hiddenDelimiters : List Nat := [
  0x2047, 0x2048, 0x2049, 0x2100, 0x2101, 0x2105, 0x2106, 0x2A74, 0xFE13, 0xFE16, 0xFE55, 0xFE56,
  0xFE5F, 0xFE6B, 0xFF03, 0xFF0F, 0xFF1A, 0xFF1F, 0xFF20]

def isSchemeCharacter (character : Char) : Bool :=
  character.isAlpha || character.isDigit || character == '+' || character == '-' ||
    character == '.'

/-- The scheme in lower case and what follows its colon; no scheme when the text before the first
colon is none. -/
def splitScheme (input : List Char) : List Char × List Char :=
  let candidate := input.takeWhile (· != ':')
  match input.drop candidate.length, candidate with
  | ':' :: rest, first :: _ =>
      if first.isAlpha && candidate.all isSchemeCharacter then (candidate.map Char.toLower, rest)
      else ([], input)
  | _, _ => ([], input)

/-- Whether a character ends a network location. -/
def endsNetloc (character : Char) : Bool :=
  character == '/' || character == '?' || character == '#'

/-- The network location and what follows it. -/
def splitNetloc : List Char → List Char × List Char
  | '/' :: '/' :: rest =>
      let netloc := rest.takeWhile (!endsNetloc ·)
      (netloc, rest.drop netloc.length)
  | rest => ([], rest)

/-- What stands before a mark and what follows it. -/
def cutAt (mark : Char) (input : List Char) : List Char × List Char :=
  let before := input.takeWhile (· != mark)
  (before, (input.drop before.length).drop 1)

/-- Refuse a text between brackets that is no address of version 6 and no future address. -/
def checkBracketed (host : List Char) : Except SplitError Unit :=
  match host with
  | 'v' :: rest =>
      let version := rest.takeWhile fun digit => (Text.hexDigit? digit).isSome
      match rest.drop version.length with
      | '.' :: _ :: _ => if version.isEmpty then .error .malformedFutureAddress else .ok ()
      | _ => .error .malformedFutureAddress
  | host =>
      if isIpv4 host then .error .bracketedIpv4
      else if isIpv6 host then .ok ()
      else .error (.notAnAddress host)

/-- Refuse unbalanced or misused brackets.  Behind the user part nothing may stand before the
bracket, and only a port after it; without a bracket there, the host is held to the same rules. -/
def checkBrackets (netloc : List Char) : Except SplitError Unit :=
  if netloc.contains '[' != netloc.contains ']' then .error .unbalancedBrackets
  else if netloc.contains '[' then
    let place := (netloc.reverse.takeWhile (· != '@')).reverse
    let before := place.takeWhile (· != '[')
    match place.drop before.length with
    | [] => checkBracketed (place.takeWhile (· != ':'))
    | _ :: inside =>
        let (host, after) := cutAt ']' inside
        if !before.isEmpty || (!after.isEmpty && after.head? != some ':') then
          .error .unbalancedBrackets
        else checkBracketed host
  else .ok ()

/-- Refuse characters that stand for a delimiter. -/
def checkDelimiters (netloc : List Char) : Except SplitError Unit :=
  if netloc.any fun character => hiddenDelimiters.contains character.toNat then
    .error (.hiddenDelimiter netloc)
  else .ok ()

def splitAddress (input : List Char) : Except SplitError SplitAddress := do
  let visible := (input.dropWhile fun character => character.toNat ≤ 32).filter
    fun character => !(character == '\t' || character == '\n' || character == '\r')
  let (scheme, rest) := splitScheme visible
  let (netloc, rest) := splitNetloc rest
  checkBrackets netloc
  let (rest, fragment) := cutAt '#' rest
  let (path, query) := cutAt '?' rest
  checkDelimiters netloc
  return ⟨scheme, netloc, path, query, fragment⟩

end AdminGate.Http

import AdminGate.Lenient

/-!
# The token store

The store keeps the anti-forgery token of a session and where it came from, as two entries that are
written one after the other.  Whoever writes last wins; a token is dropped only by someone who names
it or asks for whatever is held.  What is given as the origin of a token should be one of the known
origins, but nobody checks that before it is written.
-/

namespace AdminGate

inductive Provenance where
  | cached
  | cookie
  | serverIssued
deriving DecidableEq, Repr

namespace Provenance

def all : List Provenance := [cached, cookie, serverIssued]

def name : Provenance → String
  | cached => "cached"
  | cookie => "cookie"
  | serverIssued => "server_issued"

def ofName? (name : String) : Option Provenance :=
  all.find? (·.name == name)

end Provenance

/-- What is given as the origin of a token: a known origin, or a value that has no name. -/
inductive Origin where
  | known (provenance : Provenance)
  | other (value : Json)
deriving Repr

namespace Origin

def absent : Origin := other .null

def provenance? : Origin → Option Provenance
  | known provenance => some provenance
  | other _ => none

end Origin

/-- Why a store refuses a token, or fails after it has written it. -/
inductive TokenFault where
  | blank
  | nameless (value : Json)
deriving Repr

/-- The type of a value, as it is called in messages. -/
def TokenFault.typeName : Json → String
  | .null => "NoneType"
  | .bool _ => "bool"
  | .int _ => "int"
  | .float _ => "float"
  | .text _ => "str"
  | .array _ => "list"
  | .object _ => "dict"

def TokenFault.message : TokenFault → String
  | blank => "Anti-forgery token must be a non-empty string."
  | nameless value => Text.quoted (typeName value) ++ " object has no attribute 'value'"

/-- The two entries of a store. -/
structure TokenStore where
  token : Option String
  origin : Origin
deriving Repr

namespace TokenStore

def empty : TokenStore := ⟨none, .absent⟩

instance : Inhabited TokenStore := ⟨empty⟩

def hasToken (store : TokenStore) : Bool :=
  store.token.any fun token => !token.isEmpty

/-- What is done to a store.  When a step fails, the steps before it have been done. -/
abbrev Steps (α : Type) := EStateM TokenFault TokenStore α

/-- Keep the cleaned form of a value as the token; a blank one is refused.  The name of the origin
is asked for when both entries have been written. -/
def remember (value : Json) (origin : Origin) : Steps String := do
  let token := value.cleaned
  if token.isEmpty then throw .blank
  modify fun store => { store with token := some token }
  modify fun store => { store with origin }
  match origin with
  | .known _ => return token
  | .other value => throw (.nameless value)

/-- Whether what is held may be dropped by those who expect a value.  Who expects null expects
nothing in particular. -/
def isExpected (held : Option String) : Json → Bool
  | .null => true
  | .text wanted => held == some wanted
  | _ => false

/-- Drop the token, if it is the expected one, and tell which one it was. -/
def invalidate (expected : Json) : Steps (Option String) := do
  let held := (← get).token
  if !isExpected held expected then return none
  modify fun store => { store with token := none }
  modify fun store => { store with origin := .absent }
  return held

/-- The store that is made for a token, if what is given counts as one. -/
def make? (given : Json) : Except TokenFault TokenStore :=
  if given.isTruthy then
    match remember given (.known .cached) empty with
    | .ok _ store => .ok store
    | .error cause _ => .error cause
  else .ok empty

/-- What the store holds in one word. -/
def summary (store : TokenStore) : Except TokenFault String :=
  match store.origin with
  | .known provenance => .ok ("TokenStore(" ++ provenance.name ++ ")")
  | .other value =>
      if value.isTruthy then .error (.nameless value) else .ok "TokenStore(empty)"

end TokenStore

end AdminGate

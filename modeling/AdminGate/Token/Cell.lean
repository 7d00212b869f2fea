import AdminGate.Token.Store

/-!
# The token cell

As long as every origin is a known one, the two entries of a store belong together.  The cell holds
them as one, empty or a token with its origin; it is what the client works with, which names a known
origin at every place.
-/

namespace AdminGate

structure HeldToken where
  text : String
  provenance : Provenance
deriving DecidableEq, Repr

/-- The cell: empty or holding one token. -/
structure TokenCell where
  held : Option HeldToken
deriving DecidableEq, Repr

namespace TokenCell

def empty : TokenCell := ⟨none⟩

instance : Inhabited TokenCell := ⟨empty⟩

def token? (cell : TokenCell) : Option String :=
  cell.held.map (·.text)

def provenance? (cell : TokenCell) : Option Provenance :=
  cell.held.map (·.provenance)

def hasToken (cell : TokenCell) : Bool :=
  cell.held.isSome

/-- The store whose entries are those of the cell. -/
def store (cell : TokenCell) : TokenStore :=
  ⟨cell.token?, (cell.provenance?.map .known).getD .absent⟩

/-- Keep the cleaned form of a value as the token; a blank one is refused. -/
def remember (_ : TokenCell) (value : Json) (provenance : Provenance) :
    Except TokenFault (TokenCell × String) :=
  let token := value.cleaned
  if token.isEmpty then .error .blank else .ok (⟨some ⟨token, provenance⟩⟩, token)

/-- Drop the token, if an expected one is named only that one; also tell what was dropped. -/
def invalidate (cell : TokenCell) (expected : Option Json) : TokenCell × Option String :=
  match expected with
  | none => (empty, cell.token?)
  | some value =>
      match value.text?, cell.token? with
      | some wanted, some token => if wanted = token then (empty, some token) else (cell, none)
      | _, _ => (cell, none)

/-- The cell that a client starts with: the token given to it, if that counts as one. -/
def initial (value : Json) : Except TokenFault TokenCell :=
  if value.isTruthy then (empty.remember value .cached).map Prod.fst else .ok empty

/-- What the cell holds in one word. -/
def summary (cell : TokenCell) : String :=
  "TokenStore(" ++ ((cell.provenance?.map (·.name)).getD "empty") ++ ")"

end TokenCell

end AdminGate

import AdminGate.Lenient

/-!
# Identities

Who is signed in: a name, a role, the permissions held and whether every check is overridden.
`Identity.ofPayload` reads an identity from the object that the admin interface answers with;
`IdentityState` says what is known about the identity so far.
-/

namespace AdminGate

/-- The signed-in admin. -/
structure Identity where
  username : String
  role : String
  permissions : List String
  isSuperAdmin : Bool
deriving DecidableEq, Repr

namespace Identity

/-- An identity without a name and without rights. -/
def blank : Identity := ⟨"", "", [], false⟩

instance : Inhabited Identity := ⟨blank⟩

/-- The override flag of a payload: a truth value as it is, anything else read as a switch. -/
def overrideFlag (value : Json) : Bool :=
  match value with
  | .bool flag => flag
  | value => if value.cleaned.isEmpty then false else Lenient.isOn value.cleaned.toList

/-- The permissions of a payload, which must come as an array. -/
def permissionList (value : Json) : List String :=
  match value with
  | .array items => Lenient.distinctTexts items
  | _ => []

/-- The identity that a payload describes; what is missing is blank. -/
def ofPayload (payload : Fields) : Identity where
  username := ((payload.get? "username").getD .null).cleaned
  role := ((payload.get? "role").getD .null).cleaned
  permissions := permissionList ((payload.get? "permissions").getD .null)
  isSuperAdmin := overrideFlag ((payload.get? "is_super_admin").getD .null)

def toPayload (identity : Identity) : Fields := [
  ("username", .text identity.username),
  ("role", .text identity.role),
  ("permissions", .array (identity.permissions.map .text)),
  ("is_super_admin", .bool identity.isSuperAdmin)]

end Identity

/-- Whether an identity has been asked for, and with what outcome. -/
inductive IdentityStatus where
  | unloaded
  | loaded
  | failed
deriving DecidableEq, Repr

namespace IdentityStatus

def all : List IdentityStatus := [unloaded, loaded, failed]

/-- The name of a state of knowledge. -/
def name : IdentityStatus → String
  | unloaded => "unloaded"
  | loaded => "loaded"
  | failed => "error"

/-- The state of knowledge with a name. -/
def ofName? (name : String) : Option IdentityStatus :=
  all.find? (·.name == name)

end IdentityStatus

/-- What is known about the identity: the outcome of the latest load, the identity kept, the
error of a failed load. -/
structure IdentityState where
  status : IdentityStatus
  identity : Option Identity
  error : Option String
deriving DecidableEq, Repr

namespace IdentityState

def initial : IdentityState := ⟨.unloaded, none, none⟩

instance : Inhabited IdentityState := ⟨initial⟩

def loaded (identity : Option Identity) : IdentityState := ⟨.loaded, identity, none⟩

/-- The state after a failed load, which keeps an earlier identity. -/
def failed (error : String) (previous : Option Identity) : IdentityState :=
  ⟨.failed, previous, some error⟩

def isLoaded (state : IdentityState) : Bool :=
  state.status == .loaded

end IdentityState

end AdminGate

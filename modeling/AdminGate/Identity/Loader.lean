import AdminGate.Client.Result
import AdminGate.Identity.Basic
import AdminGate.Log.Event
import AdminGate.Notice
import AdminGate.Permission.Engine

/-!
# Loading the identity

A loader asks for the signed-in admin and keeps what it learnt.  Loads may overlap: each one counts
as running from its start to its end, and the one that ends last decides what is known.
-/

namespace AdminGate

/-- What a loader knows, and how many loads are running. -/
structure IdentityLoader where
  state : IdentityState
  running : Nat
deriving DecidableEq, Repr

namespace IdentityLoader

/-- A loader that has not loaded yet. -/
def initial : IdentityLoader := ⟨.initial, 0⟩

instance : Inhabited IdentityLoader := ⟨initial⟩

def isLoading (loader : IdentityLoader) : Bool :=
  0 < loader.running

/-- An engine for what is known at this moment. -/
def engine (loader : IdentityLoader) : PermissionEngine :=
  ⟨loader.state, loader.isLoading⟩

def start (loader : IdentityLoader) : IdentityLoader :=
  { loader with running := loader.running + 1 }

def abandon (loader : IdentityLoader) : IdentityLoader :=
  { loader with running := loader.running - 1 }

/-- The payload of the admin in a result. -/
def admin? (result : ApiResult) : Option Fields :=
  if result.success then (result.payload.get? "admin").bind Json.fields? else none

/-- The error of a result that brings no admin. -/
def errorOf (result : ApiResult) (locale : String) : String :=
  match result.error with
  | some error => if error.isEmpty then Notice.invalidAnswer.message locale else error
  | none => Notice.invalidAnswer.message locale

/-- What a result makes of the knowledge so far, and what is reported about it. -/
def learn (known : IdentityState) (result : ApiResult) (locale : String) :
    IdentityState × Event :=
  match admin? result with
  | some payload =>
      let identity := Identity.ofPayload payload
      (.loaded (some identity), .identityLoaded identity.username identity.role
        identity.permissions.length identity.isSuperAdmin)
  | none =>
      let error := errorOf result locale
      (.failed error known.identity, .identityFailed error)

def finish (loader : IdentityLoader) (result : ApiResult) (locale : String) :
    IdentityLoader × Event :=
  let (state, event) := learn loader.state result locale
  ({ loader.abandon with state := state }, event)

end IdentityLoader

end AdminGate

import AdminGate.Identity.Basic
import AdminGate.Permission.Page

/-!
# Permission queries

An engine answers questions about one snapshot of what is known about the identity.  Until a load
has ended, and while one is running, the questions stay open; after a failed load the engine
answers for the identity that was kept, and for nobody when there is none.
-/

namespace AdminGate

/-- A snapshot to ask about permissions. -/
structure PermissionEngine where
  state : IdentityState
  isLoading : Bool
deriving DecidableEq, Repr

namespace PermissionEngine

/-- Whether the identity is settled, so that questions have an answer. -/
def isDecided (engine : PermissionEngine) : Bool :=
  !engine.isLoading && engine.state.status != .unloaded

def identity (engine : PermissionEngine) : Option Identity :=
  engine.state.identity

def isSuperAdmin (engine : PermissionEngine) : Bool :=
  engine.identity.any (·.isSuperAdmin)

def permissions (engine : PermissionEngine) : List String :=
  (engine.identity.map (·.permissions)).getD []

/-- Whether a permission is held, the override left aside. -/
def holds (engine : PermissionEngine) (permission : String) : Bool :=
  engine.permissions.contains permission

/-- An answer that stays open until the identity is settled. -/
def whenDecided (engine : PermissionEngine) (answer : Bool) : Option Bool :=
  if engine.isDecided then some answer else none

def hasPermission (engine : PermissionEngine) (permission : String) : Option Bool :=
  engine.whenDecided (engine.isSuperAdmin || engine.holds permission)

/-- Whether one of the permissions is granted. -/
def hasAny (engine : PermissionEngine) (permissions : List String) : Option Bool :=
  engine.whenDecided (engine.isSuperAdmin || permissions.any engine.holds)

/-- Whether all of the permissions are granted. -/
def hasAll (engine : PermissionEngine) (permissions : List String) : Option Bool :=
  engine.whenDecided (engine.isSuperAdmin || permissions.all engine.holds)

def canAccessPage (engine : PermissionEngine) (page : String) : Option Bool :=
  engine.whenDecided (mayOpenPage page engine.permissions engine.isSuperAdmin)

/-- The pages of the table that may be opened, in its order. -/
def accessiblePages (engine : PermissionEngine) : List String :=
  pageKeys.filter fun page => engine.canAccessPage page == some true

/-- The page to show: the current one if it is accessible, otherwise the first that is. -/
def landingPage (engine : PermissionEngine) (current : Option String) : Option String :=
  match current with
  | some page =>
      if page != "" && engine.accessiblePages.contains page then some page
      else engine.accessiblePages.head?
  | none => engine.accessiblePages.head?

end PermissionEngine

end AdminGate

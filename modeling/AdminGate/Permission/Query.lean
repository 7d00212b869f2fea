import AdminGate.Permission.Engine

/-!
# Queries

The questions that can be put to an engine, and their answers.
-/

namespace AdminGate

inductive Query where
  | isDecided
  | isSuperAdmin
  | permissions
  | identity
  | state
  | hasPermission (permission : String)
  | hasAny (permissions : List String)
  | hasAll (permissions : List String)
  | canAccessPage (page : String)
  | accessiblePages
  | landingPage (current : Option String)
deriving DecidableEq, Repr

inductive QueryAnswer where
  | verdict (value : Option Bool)
  | names (values : List String)
  | page (value : Option String)
  | identity (value : Option Identity)
  | state (value : IdentityState)
deriving DecidableEq, Repr

/-- Names in the order of their characters. -/
def sortedNames (names : List String) : List String :=
  names.mergeSort fun first second => decide (first ≤ second)

def PermissionEngine.answer (engine : PermissionEngine) : Query → QueryAnswer
  | .isDecided => .verdict (some engine.isDecided)
  | .isSuperAdmin => .verdict (some engine.isSuperAdmin)
  | .permissions => .names (sortedNames engine.permissions)
  | .identity => .identity engine.identity
  | .state => .state engine.state
  | .hasPermission permission => .verdict (engine.hasPermission permission)
  | .hasAny permissions => .verdict (engine.hasAny permissions)
  | .hasAll permissions => .verdict (engine.hasAll permissions)
  | .canAccessPage page => .verdict (engine.canAccessPage page)
  | .accessiblePages => .names engine.accessiblePages
  | .landingPage current => .page (engine.landingPage current)

end AdminGate

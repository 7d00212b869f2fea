import AdminGate.Permission.Engine

/-!
# Criteria

What a guard asks for: one permission, one of several, or all of several.  The first of the three
that is given counts, an empty one not being given; a guard that asks for nothing lets everyone in
whose identity is settled.
-/

namespace AdminGate

structure Criteria where
  permission : Option String
  anyOf : List String
  allOf : List String
deriving DecidableEq, Repr

namespace Criteria

/-- The one permission that is asked for, if it is not empty. -/
def single? (criteria : Criteria) : Option String :=
  criteria.permission.filter fun permission => !permission.isEmpty

/-- Whether an engine grants what is asked for; open until its identity is settled. -/
def evaluate (criteria : Criteria) (engine : PermissionEngine) : Option Bool :=
  if !engine.isDecided then none
  else
    match criteria.single?, criteria.anyOf, criteria.allOf with
    | some permission, _, _ => engine.hasPermission permission
    | none, first :: rest, _ => engine.hasAny (first :: rest)
    | none, [], first :: rest => engine.hasAll (first :: rest)
    | none, [], [] => some true

end Criteria

end AdminGate

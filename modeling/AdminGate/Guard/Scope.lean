import AdminGate.Identity.Loader

/-!
# Scopes

Code that asks for permissions finds the engine in the scope around it.  A scope binds a provider,
an engine or a loader; leaving it brings back what was bound before, in whichever way it is left.
A task inherits the binding of the code that starts it, but none of its open scopes.  Where nothing
else is said there is one loader.
-/

namespace AdminGate

/-- What can be bound: an engine, or a loader, which is asked for an engine each time. -/
inductive Provider (Loader : Type := Unit) where
  | engine (engine : PermissionEngine)
  | loader (loader : Loader)
deriving DecidableEq, Repr

/-- Why permissions cannot be asked for, or a scope cannot be opened. -/
inductive ScopeError where
  | outsideScope
  | notAProvider
deriving DecidableEq, Repr

def ScopeError.message : ScopeError → String
  | outsideScope => "current_permissions() must be called inside permission_scope()."
  | notAProvider => "permission_scope expects an IdentityLoader or PermissionEngine."

/-- The binding in force, and those that come back when the open scopes are left. -/
structure Scopes (Loader : Type := Unit) where
  current : Option (Provider Loader)
  outer : List (Option (Provider Loader))
deriving DecidableEq, Repr

namespace Scopes

variable {Loader : Type}

/-- No scope is open and nothing is bound. -/
def none : Scopes Loader := ⟨Option.none, []⟩

def inherited (scopes : Scopes Loader) : Scopes Loader :=
  ⟨scopes.current, []⟩

def depth (scopes : Scopes Loader) : Nat :=
  scopes.outer.length

/-- Open a scope; what is no provider is refused and changes nothing. -/
def enter? (scopes : Scopes Loader) (provider : Option (Provider Loader)) :
    Except ScopeError (Scopes Loader) :=
  match provider with
  | some provider => .ok ⟨some provider, scopes.current :: scopes.outer⟩
  | Option.none => .error .notAProvider

def leave (scopes : Scopes Loader) : Scopes Loader :=
  match scopes.outer with
  | [] => scopes
  | before :: outer => ⟨before, outer⟩

/-- The engine that code in the scopes finds as the loaders stand. -/
def engineAmong? (scopes : Scopes Loader) (loaders : Loader → IdentityLoader) :
    Except ScopeError PermissionEngine :=
  match scopes.current with
  | Option.none => .error .outsideScope
  | some (.loader loader) => .ok (loaders loader).engine
  | some (.engine engine) => .ok engine

/-- The engine that code in the scopes finds where there is one loader. -/
def engine? (scopes : Scopes) (loader : IdentityLoader) : Except ScopeError PermissionEngine :=
  scopes.engineAmong? fun _ => loader

end Scopes

end AdminGate

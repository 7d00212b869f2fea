import AdminGate.Guard.Scope

/-!
# Blocks

Code in one context, as far as scopes matter.  It opens scopes for other code to run in, asks for
permissions, and waits while the loaders move on.  It is left by reaching its end, by returning
from the call that it is part of, or by an error; a scope is left in whichever way its body is.
-/

namespace AdminGate

namespace Block

/-- An error: a refusal, or one of the code's own. -/
inductive Raised (Error : Type) where
  | refused (cause : ScopeError)
  | own (error : Error)
deriving DecidableEq, Repr

inductive Exit (Error : Type) where
  | through
  | returning
  | raising (cause : Raised Error)
deriving DecidableEq, Repr

/-- What code notes: an engine that it was given, or an error that it caught. -/
inductive Note (Error : Type) where
  | given (engine : PermissionEngine)
  | caught (cause : Raised Error)
deriving DecidableEq, Repr

end Block

/-- Code in one context. -/
inductive Block (Loader Error : Type) where
  | pass
  | ask
  /-- Wait; from then on the loaders stand like this. -/
  | wait (later : Loader → IdentityLoader)
  | giveBack
  | fail (error : Error)
  | andThen (first second : Block Loader Error)
  /-- Run a body in a scope over a provider, or over what is none. -/
  | scope (provider : Option (Provider Loader)) (body : Block Loader Error)
  /-- Run a body, note the error that it raises, and go on. -/
  | attempt (body : Block Loader Error)
  /-- Call a function with a body, and go on when it returns. -/
  | call (body : Block Loader Error)

namespace Block

/-- Where code has led to: the scopes, the loaders, what was noted, and how it was left. -/
structure Progress (Loader Error : Type) where
  scopes : Scopes Loader
  loaders : Loader → IdentityLoader
  notes : List (Note Error)
  exit : Exit Error

variable {Loader Error : Type}

/-- The progress of code that comes after other code with notes. -/
def Progress.behind (progress : Progress Loader Error) (notes : List (Note Error)) :
    Progress Loader Error :=
  { progress with notes := notes ++ progress.notes }

/-- An error is noted and goes no further. -/
def Progress.caught (progress : Progress Loader Error) : Progress Loader Error :=
  match progress.exit with
  | .raising cause =>
      { progress with notes := progress.notes ++ [.caught cause], exit := .through }
  | _ => progress

/-- A call ends where its body returns. -/
def Progress.called (progress : Progress Loader Error) : Progress Loader Error :=
  match progress.exit with
  | .returning => { progress with exit := .through }
  | _ => progress

/-- Run code in scopes, as the loaders stand. -/
def run : Block Loader Error → Scopes Loader → (Loader → IdentityLoader) →
    Progress Loader Error
  | pass, scopes, loaders => ⟨scopes, loaders, [], .through⟩
  | ask, scopes, loaders =>
      match scopes.engineAmong? loaders with
      | .ok engine => ⟨scopes, loaders, [.given engine], .through⟩
      | .error cause => ⟨scopes, loaders, [], .raising (.refused cause)⟩
  | wait later, scopes, _ => ⟨scopes, later, [], .through⟩
  | giveBack, scopes, loaders => ⟨scopes, loaders, [], .returning⟩
  | fail error, scopes, loaders => ⟨scopes, loaders, [], .raising (.own error)⟩
  | andThen first second, scopes, loaders =>
      let begun := first.run scopes loaders
      match begun.exit with
      | .through => (second.run begun.scopes begun.loaders).behind begun.notes
      | _ => begun
  | scope provider body, scopes, loaders =>
      match scopes.enter? provider with
      | .ok inside =>
          let ended := body.run inside loaders
          { ended with scopes := ended.scopes.leave }
      | .error cause => ⟨scopes, loaders, [], .raising (.refused cause)⟩
  | attempt body, scopes, loaders => (body.run scopes loaders).caught
  | call body, scopes, loaders => (body.run scopes loaders).called

end Block

end AdminGate

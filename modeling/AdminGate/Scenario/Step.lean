import AdminGate.Client.Traffic
import AdminGate.Guard.Rendering
import AdminGate.Guard.Scope
import AdminGate.Permission.Query

/-!
# Steps of a scenario

A scenario is a list of steps on one client and one identity loader: calls, loads, work on the token
cell, questions, scopes, guarded content, and tasks that run beside each other.  Every step has an
outcome, also when it fails.
-/

namespace AdminGate.Scenario

/-- An engine that is kept under a name or described. -/
inductive EngineSource where
  | kept (name : String)
  | given (engine : PermissionEngine)
deriving Repr

/-- A provider of engines: the loader or a kept engine by its name, or an engine. -/
inductive ProviderSource where
  | named (name : String)
  | given (engine : PermissionEngine)
deriving Repr

inductive Step where
  | send (method url : Json) (body : Option Fields) (headers : Option (Assoc String))
  | load
  | remember (token : Json) (provenance : String)
  | invalidate (expected : Option Json)
  | keepEngine (name : String)
  | query (queries : List Query) (source : Option String)
  | enter (provider : ProviderSource)
  | leave (isRaising : Bool)
  | current (queries : List Query)
  | render (criteria : Criteria) (content fallback : Content) (source : Option EngineSource)
  | guarded (criteria : Criteria) (content fallback : Content) (arguments : List Json)
      (isAsync : Bool)
  | sleep (microseconds : Nat)
  | start (name : String) (step : Step)
  | join (name : String)
  | parallel (steps : List Step)
  | isolated (steps : List Step)
deriving Inhabited

inductive StepError where
  | descriptor (cause : DescriptorError)
  | failure (cause : Http.Failure)
  | blankToken
  | unknownProvenance (name : String)
  | scope (cause : ScopeError)
  | raised (cause : ActionError)
  | unknownName (name : String)
deriving Repr

def StepError.message : StepError → String
  | descriptor cause => cause.message
  | failure cause => cause.message
  | blankToken => TokenFault.blank.message
  | unknownProvenance name => Text.quoted name ++ " is not a valid TokenProvenance"
  | scope cause => cause.message
  | raised cause => cause.message
  | unknownName name => name

/-- What a guard shows, or why it cannot decide. -/
structure Shown where
  value : Except StepError Json
  trace : List Json

inductive StepOutcome where
  | nothing
  | result (value : ApiResult)
  | state (value : IdentityState)
  | token (value : Option String)
  | answers (values : List QueryAnswer)
  | depth (value : Nat)
  | propagated
  | rendering (verdict : Except StepError (Option Bool)) (shown : Shown)
  | panel (isAsync : Bool) (shown : Shown)
  | all (outcomes : List StepOutcome)
  | failed (cause : StepError)
deriving Inhabited

def Shown.ofEffect (effect : Effect) : Shown :=
  ⟨effect.value.mapError .raised, effect.trace⟩

/-- What is shown when no engine is found. -/
def Shown.refused (cause : StepError) : Shown :=
  ⟨.error cause, []⟩

mutual

/-- The number of steps in a step. -/
def Step.size : Step → Nat
  | .start _ step => step.size + 1
  | .parallel steps => Step.sizeOfAll steps + 1
  | .isolated steps => Step.sizeOfAll steps + 1
  | _ => 1

def Step.sizeOfAll : List Step → Nat
  | [] => 0
  | step :: rest => step.size + Step.sizeOfAll rest

end

end AdminGate.Scenario

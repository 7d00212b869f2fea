import AdminGate.Guard.Criteria
import AdminGate.Json.Value

/-!
# Guarded content

A guard shows its content when access is granted, its fallback when it is denied, and nothing while
the question is open.  Content is a plain value or an action; running an action leaves a trace and
ends with a value or with an error.  A guarded function runs under the same rule: `Panel.call` is
the immediate form, `Panel.callLater` the deferred one, which runs as a coroutine.
-/

namespace AdminGate

/-- The class of an error that an action raises. -/
inductive ActionError.Kind where
  | value
  | runtime
  /-- An iterator has come to its end. -/
  | stopIteration
  | other (name : String)
deriving DecidableEq, Repr

def ActionError.Kind.name : ActionError.Kind → String
  | value => "ValueError"
  | runtime => "RuntimeError"
  | stopIteration => "StopIteration"
  | other name => name

structure ActionError where
  kind : ActionError.Kind
  message : String
deriving DecidableEq, Repr

/-- An error as it leaves a coroutine, for which the end of an iterator is the end of the coroutine
itself and therefore must not leave it. -/
def ActionError.leavingCoroutine (error : ActionError) : ActionError :=
  if error.kind = .stopIteration then ⟨.runtime, "coroutine raised StopIteration"⟩ else error

/-- What running an action leads to: its value or its error, and the trace that it leaves. -/
structure Effect where
  value : Except ActionError Json
  trace : List Json
deriving Repr

inductive Content where
  | plain (value : Json)
  | action (effect : Effect)
deriving Repr

namespace Effect

def nothing : Effect := ⟨.ok .null, []⟩

/-- The value of an action turned into another one. -/
def map (change : Json → Json) (effect : Effect) : Effect :=
  { effect with value := effect.value.map change }

/-- What an action leads to that is run in a coroutine. -/
def awaited (effect : Effect) : Effect :=
  { effect with value := effect.value.mapError ActionError.leavingCoroutine }

end Effect

namespace Content

/-- An action that records its value and returns it. -/
def recording (value : Json) : Content :=
  .action ⟨.ok value, [value]⟩

/-- An action that records that it ran and fails. -/
def raising (message : String) : Content :=
  .action ⟨.error ⟨.value, message⟩, [.text "raise"]⟩

/-- What showing content leads to: a plain value stands for itself, an action is run once. -/
def materialize : Content → Effect
  | plain value => ⟨.ok value, []⟩
  | action effect => effect

end Content

namespace Criteria

/-- Show content or fallback as an engine decides. -/
def render (criteria : Criteria) (engine : PermissionEngine) (content fallback : Content) :
    Effect :=
  match criteria.evaluate engine with
  | none => .nothing
  | some true => content.materialize
  | some false => fallback.materialize

end Criteria

/-- A function behind a guard: what it does with its arguments, and what is shown to those who may
not call it. -/
structure Panel (Arguments : Type) where
  criteria : Criteria
  function : Arguments → Effect
  fallback : Content

namespace Panel

variable {Arguments : Type}

/-- A function made of content: its value alone, or its value in front of its arguments. -/
def functionOf (content : Content) (arguments : List Json) : Effect :=
  if arguments.isEmpty then content.materialize
  else content.materialize.map fun value => .array (value :: arguments)

/-- Call the function as content of its guard. -/
def call (panel : Panel Arguments) (engine : PermissionEngine) (arguments : Arguments) :
    Effect :=
  panel.criteria.render engine (.action (panel.function arguments)) panel.fallback

/-- Decide first, then show the fallback or await the function, which is a coroutine as well; all of
this in a coroutine. -/
def callLater (panel : Panel Arguments) (engine : PermissionEngine) (arguments : Arguments) :
    Effect :=
  let shown : Effect :=
    match panel.criteria.evaluate engine with
    | none => .nothing
    | some granted =>
        if !granted then panel.fallback.materialize
        else (panel.function arguments).awaited
  shown.awaited

end Panel

end AdminGate

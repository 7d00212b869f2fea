import AdminGate.Proofs.GuardedContent
import AdminGate.Scenario.World

/-!
# Guarded functions are shown as their calls are rendered

A function behind a guard can be called at once or awaited, and a call of it can be
rendered as content.  The first two go different ways: one renders, the other decides
for itself.  Yet all three find the same engine, choose the same part, and run it as
often; `Leads` says which part that is and what is run.  Outside of any scope all
three are refused and run nothing.  They show the same but for one error: the end of
an iterator does not leave a coroutine as what it is.
-/

namespace AdminGate

variable {Arguments : Type} {scopes : Scopes} {loader : IdentityLoader}

/-! ## Coroutines -/

/-- An error that has left a coroutine leaves any other one as it is. -/
theorem ActionError.leavingCoroutine_twice (error : ActionError) :
    error.leavingCoroutine.leavingCoroutine = error.leavingCoroutine := by
  by_cases ended : error.kind = .stopIteration
  · simp [leavingCoroutine, ended]
  · simp [leavingCoroutine, ended]

namespace Effect

theorem awaited_awaited (effect : Effect) : effect.awaited.awaited = effect.awaited := by
  obtain ⟨value, trace⟩ := effect
  cases value with
  | ok value => rfl
  | error error =>
      simp [awaited, Except.mapError, ActionError.leavingCoroutine_twice]

theorem awaited_eq_self {effect : Effect}
    (lasting : ∀ error, effect.value = .error error → error.kind ≠ .stopIteration) :
    effect.awaited = effect := by
  obtain ⟨value, trace⟩ := effect
  cases value with
  | ok value => rfl
  | error error =>
      have same : error.leavingCoroutine = error := if_neg (lasting error rfl)
      simp [awaited, Except.mapError, same]

end Effect

/-! ## Guards in scopes -/

theorem Scopes.engine?_eq_error_iff {cause : ScopeError} :
    scopes.engine? loader = .error cause ↔
      scopes.current = Option.none ∧ cause = .outsideScope := by
  obtain ⟨current, outer⟩ := scopes
  rcases current with _ | engine | _ <;> simp [Scopes.engine?, Scopes.engineAmong?, eq_comm]

/-- What rendering leads to in scopes; it is refused where nothing is bound. -/
def Criteria.renderIn (criteria : Criteria) (scopes : Scopes) (loader : IdentityLoader)
    (content fallback : Content) : Except ScopeError Effect :=
  (scopes.engine? loader).map fun engine => criteria.render engine content fallback

namespace Panel

/-- What calling a function leads to in scopes. -/
def callIn (panel : Panel Arguments) (scopes : Scopes) (loader : IdentityLoader)
    (arguments : Arguments) : Except ScopeError Effect :=
  (scopes.engine? loader).map fun engine => panel.call engine arguments

/-- What awaiting a function leads to in scopes. -/
def callLaterIn (panel : Panel Arguments) (scopes : Scopes) (loader : IdentityLoader)
    (arguments : Arguments) : Except ScopeError Effect :=
  (scopes.engine? loader).map fun engine => panel.callLater engine arguments

inductive Invocation (Arguments : Type) where
  | function (arguments : Arguments)
  | fallback

/-- The same function and fallback, except that all that each leaves behind is a note
each time it is run. -/
def noting (panel : Panel Arguments) (note : Invocation Arguments → Json) :
    Panel Arguments where
  criteria := panel.criteria
  function arguments :=
    ⟨(panel.function arguments).value, [note (.function arguments)]⟩
  fallback :=
    match panel.fallback with
    | .plain value => .plain value
    | .action effect => .action ⟨effect.value, [note .fallback]⟩

variable {panel : Panel Arguments} {arguments : Arguments}

/-- Where a call leads, and what is run on the way. -/
inductive Leads (panel : Panel Arguments) (scopes : Scopes) (loader : IdentityLoader)
    (arguments : Arguments) :
    Except ScopeError Effect → List (Invocation Arguments) → Prop where
  | outside : scopes.current = none →
      Leads panel scopes loader arguments (.error .outsideScope) []
  | undecided {engine : PermissionEngine} : scopes.engine? loader = .ok engine →
      panel.criteria.evaluate engine = none →
      Leads panel scopes loader arguments (.ok ⟨.ok .null, []⟩) []
  | granted {engine : PermissionEngine} : scopes.engine? loader = .ok engine →
      panel.criteria.evaluate engine = some true →
      Leads panel scopes loader arguments (.ok (panel.function arguments))
        [.function arguments]
  | replaced {engine : PermissionEngine} {value : Json} :
      scopes.engine? loader = .ok engine →
      panel.criteria.evaluate engine = some false → panel.fallback = .plain value →
      Leads panel scopes loader arguments (.ok ⟨.ok value, []⟩) []
  | fallsBack {engine : PermissionEngine} {effect : Effect} :
      scopes.engine? loader = .ok engine →
      panel.criteria.evaluate engine = some false → panel.fallback = .action effect →
      Leads panel scopes loader arguments (.ok effect) [.fallback]

/-- An error tells that an iterator has come to its end. -/
def EndsIteration (shown : Except ScopeError Effect) : Prop :=
  ∃ effect error, shown = .ok effect ∧ effect.value = .error error ∧
    error.kind = .stopIteration

/-- A call, an awaited call and a rendered call lead to the same, and if that is an
error that a coroutine cannot raise, to another one when the call is awaited. -/
structure Agrees (panel : Panel Arguments) (scopes : Scopes) (loader : IdentityLoader)
    (arguments : Arguments) (shown : Except ScopeError Effect) : Prop where
  called : panel.callIn scopes loader arguments = shown
  rendered : panel.criteria.renderIn scopes loader
    (.action (panel.function arguments)) panel.fallback = shown
  awaited : ¬EndsIteration shown → panel.callLaterIn scopes loader arguments = shown
  ended : ∀ trace error, shown = .ok ⟨.error error, trace⟩ →
    error.kind = .stopIteration → panel.callLaterIn scopes loader arguments =
      .ok ⟨.error ⟨.runtime, "coroutine raised StopIteration"⟩, trace⟩

/-- Deciding first and awaiting comes to the same as awaiting what is rendered. -/
theorem callLater_eq_awaited (panel : Panel Arguments) (engine : PermissionEngine)
    (arguments : Arguments) : panel.callLater engine arguments =
      (panel.call engine arguments).awaited := by
  unfold callLater call Criteria.render
  cases panel.criteria.evaluate engine with
  | none => rfl
  | some granted =>
      cases granted with
      | false => rfl
      | true => exact Effect.awaited_awaited _

theorem callLaterIn_eq (panel : Panel Arguments) (scopes : Scopes)
    (loader : IdentityLoader) (arguments : Arguments) :
    panel.callLaterIn scopes loader arguments =
      (panel.callIn scopes loader arguments).map Effect.awaited := by
  unfold callLaterIn callIn
  cases scopes.engine? loader with
  | error cause => rfl
  | ok engine => exact congrArg Except.ok (panel.callLater_eq_awaited engine arguments)

theorem agrees (panel : Panel Arguments) (scopes : Scopes) (loader : IdentityLoader)
    (arguments : Arguments) :
    Agrees panel scopes loader arguments (panel.callIn scopes loader arguments) where
  called := rfl
  rendered := rfl
  awaited := by
    intro lasting
    rw [callLaterIn_eq]
    cases shown : panel.callIn scopes loader arguments with
    | error cause => rfl
    | ok effect =>
        rw [shown] at lasting
        refine congrArg Except.ok (Effect.awaited_eq_self fun error raises ended => ?_)
        exact lasting ⟨effect, error, rfl, raises, ended⟩
  ended := by
    intro trace error shown ended
    rw [callLaterIn_eq, shown]
    simp [Except.map, Effect.awaited, Except.mapError, ActionError.leavingCoroutine, ended]

theorem callIn_of_found {engine : PermissionEngine}
    (found : scopes.engine? loader = .ok engine) :
    panel.callIn scopes loader arguments = .ok (panel.call engine arguments) := by
  rw [callIn, found]
  rfl

theorem exists_leads (panel : Panel Arguments) (scopes : Scopes)
    (loader : IdentityLoader) (arguments : Arguments) : ∃ invocations,
      Leads panel scopes loader arguments (panel.callIn scopes loader arguments)
        invocations := by
  cases found : scopes.engine? loader with
  | error cause =>
      obtain ⟨unbound, rfl⟩ := Scopes.engine?_eq_error_iff.mp found
      rw [callIn, found]
      exact ⟨_, .outside unbound⟩
  | ok engine =>
      rw [callIn_of_found found, call, Criteria.render]
      cases verdict : panel.criteria.evaluate engine with
      | none => exact ⟨_, .undecided found verdict⟩
      | some granted =>
          cases granted with
          | true => exact ⟨_, .granted found verdict⟩
          | false =>
              cases fallback : panel.fallback with
              | plain value => exact ⟨_, .replaced found verdict fallback⟩
              | action effect => exact ⟨_, .fallsBack found verdict fallback⟩

/-- What the notes tell is what is run, and noting changes nothing else. -/
theorem Leads.noted {shown : Except ScopeError Effect}
    {invocations : List (Invocation Arguments)}
    (leads : Leads panel scopes loader arguments shown invocations)
    (note : Invocation Arguments → Json) :
    (panel.noting note).callIn scopes loader arguments =
      shown.map fun effect => ⟨effect.value, invocations.map note⟩ := by
  cases leads with
  | outside unbound =>
      rw [callIn, Scopes.engine?_eq_error_iff.mpr ⟨unbound, rfl⟩]
      rfl
  | undecided found verdict | granted found verdict =>
      simp only [callIn_of_found found, call, Criteria.render, noting, verdict]
      rfl
  | replaced found verdict fallback | fallsBack found verdict fallback =>
      simp only [callIn_of_found found, call, Criteria.render, noting, verdict, fallback]
      rfl

end Panel

/-! ## Steps of a scenario -/

namespace Scenario

/-- What a step shows of what a guard leads to. -/
def Shown.ofAttempt : Except ScopeError Effect → Shown
  | .ok effect => .ofEffect effect
  | .error cause => .refused (.scope cause)

theorem World.perform_guarded (world : World) (task : Nat) (criteria : Criteria)
    (content fallback : Content) (arguments : List Json) (isAsync : Bool) :
    world.perform task (.guarded criteria content fallback arguments isAsync) =
      (world, some (.panel isAsync (.ofAttempt
        (if isAsync then
          Panel.callLaterIn ⟨criteria, Panel.functionOf content, fallback⟩
            (world.scopesOf task) world.loader arguments
        else
          Panel.callIn ⟨criteria, Panel.functionOf content, fallback⟩
            (world.scopesOf task) world.loader arguments)))) := by
  unfold World.perform World.engineFor Panel.callIn Panel.callLaterIn
  cases (world.scopesOf task).engine? world.loader with
  | error cause => cases isAsync <;> rfl
  | ok engine => cases isAsync <;> rfl

theorem World.perform_render (world : World) (task : Nat) (criteria : Criteria)
    (content fallback : Content) : ∃ verdict,
      world.perform task (.render criteria content fallback none) =
        (world, some (.rendering verdict (.ofAttempt
          (criteria.renderIn (world.scopesOf task) world.loader content fallback)))) := by
  unfold World.perform World.engineFor Criteria.renderIn
  cases (world.scopesOf task).engine? world.loader with
  | error cause => exact ⟨_, rfl⟩
  | ok engine => exact ⟨_, rfl⟩

theorem World.perform_render_given (world : World) (task : Nat) (criteria : Criteria)
    (content fallback : Content) (engine : PermissionEngine) : ∃ verdict,
      world.perform task (.render criteria content fallback (some (.given engine))) =
        (world, some (.rendering verdict
          (.ofEffect (criteria.render engine content fallback)))) :=
  ⟨_, rfl⟩

/-- Three steps show the same of one function: it is called, awaited, and its call is
rendered. -/
structure ShowAlike (world : World) (task : Nat) (criteria : Criteria)
    (content fallback : Content) (arguments : List Json)
    (shown : Except ScopeError Effect) : Prop where
  called : world.perform task (.guarded criteria content fallback arguments false) =
    (world, some (.panel false (.ofAttempt shown)))
  rendered : ∃ verdict, world.perform task (.render criteria
      (.action (Panel.functionOf content arguments)) fallback none) =
    (world, some (.rendering verdict (.ofAttempt shown)))
  awaited : ¬Panel.EndsIteration shown →
    world.perform task (.guarded criteria content fallback arguments true) =
      (world, some (.panel true (.ofAttempt shown)))
  ended : ∀ trace error, shown = .ok ⟨.error error, trace⟩ →
    error.kind = .stopIteration →
      world.perform task (.guarded criteria content fallback arguments true) =
        (world, some (.panel true
          ⟨.error (.raised ⟨.runtime, "coroutine raised StopIteration"⟩), trace⟩))

theorem showAlike (world : World) (task : Nat) (criteria : Criteria)
    (content fallback : Content) (arguments : List Json) :
    ShowAlike world task criteria content fallback arguments
      (Panel.callIn ⟨criteria, Panel.functionOf content, fallback⟩
        (world.scopesOf task) world.loader arguments) := by
  have agrees := Panel.agrees ⟨criteria, Panel.functionOf content, fallback⟩
    (world.scopesOf task) world.loader arguments
  have awaits := world.perform_guarded task criteria content fallback arguments true
  rw [if_pos rfl] at awaits
  constructor
  · exact world.perform_guarded task criteria content fallback arguments false
  · rw [← agrees.rendered]
    exact world.perform_render task criteria _ fallback
  · intro lasting
    rw [awaits, agrees.awaited lasting]
  · intro trace error shown ended
    rw [awaits, agrees.ended trace error shown ended]
    rfl

end Scenario

/-- However a guarded function is called, the same is shown and the same is run, in
every scope and in every step of a scenario.  Only an error that tells of the end of
an iterator becomes another one when the call is awaited. -/
theorem Panel.calls_agree :
    (∀ {Arguments : Type} (panel : Panel Arguments) (scopes : Scopes)
      (loader : IdentityLoader) (arguments : Arguments), ∃ shown invocations,
        Agrees panel scopes loader arguments shown ∧
        Leads panel scopes loader arguments shown invocations ∧
        ∀ note, Agrees (panel.noting note) scopes loader arguments
          (shown.map fun effect => ⟨effect.value, invocations.map note⟩)) ∧
      ∀ world task criteria content fallback arguments,
        Scenario.ShowAlike world task criteria content fallback arguments
          (Panel.callIn ⟨criteria, Panel.functionOf content, fallback⟩
            (world.scopesOf task) world.loader arguments) := by
  refine ⟨?_, Scenario.showAlike⟩
  intro Arguments panel scopes loader arguments
  obtain ⟨invocations, leads⟩ := exists_leads panel scopes loader arguments
  refine ⟨_, invocations, agrees panel scopes loader arguments, leads, fun note => ?_⟩
  rw [← leads.noted note]
  exact agrees (panel.noting note) scopes loader arguments

/-- A fallback that tells of the end of an iterator is not told of by the awaited call.
And where no scope is open, rendering still shows something to those who bring an
engine of their own. -/
theorem Panel.ended_iteration_hidden :
    let engine : PermissionEngine := ⟨.loaded none, false⟩
    let scopes : Scopes := ⟨some (.engine engine), []⟩
    let panel : Panel Unit :=
      ⟨⟨some "order:view", [], []⟩, fun _ => .nothing,
        .action ⟨.error ⟨.stopIteration, "over"⟩, [.text "asked"]⟩⟩
    panel.callIn scopes .initial () =
        .ok ⟨.error ⟨.stopIteration, "over"⟩, [.text "asked"]⟩ ∧
      panel.callLaterIn scopes .initial () =
        .ok ⟨.error ⟨.runtime, "coroutine raised StopIteration"⟩, [.text "asked"]⟩ ∧
      (¬∀ (panel : Panel Unit) (scopes : Scopes) (loader : IdentityLoader),
        panel.callLaterIn scopes loader () = panel.callIn scopes loader ()) ∧
      ∀ (world : Scenario.World) (task : Nat),
        (world.scopesOf task).current = none → ∃ verdict,
          world.perform task (.render ⟨none, [], []⟩ (.recording (.int 1)) (.plain .null)
              (some (.given engine))) =
            (world, some (.rendering verdict ⟨.ok (.int 1), [.int 1]⟩)) := by
  intro engine scopes panel
  have called : panel.callIn scopes .initial () =
      .ok ⟨.error ⟨.stopIteration, "over"⟩, [.text "asked"]⟩ := rfl
  have awaited := (panel.agrees scopes .initial ()).ended _ _ called rfl
  refine ⟨called, awaited, fun same => ?_, fun world task _ => ?_⟩
  · have both := same panel scopes .initial
    rw [called, awaited] at both
    simp at both
  · exact world.perform_render_given task ⟨none, [], []⟩ (.recording (.int 1))
      (.plain .null) engine

end AdminGate

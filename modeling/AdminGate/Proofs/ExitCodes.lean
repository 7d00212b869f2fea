import AdminGate.Command.Run
import AdminGate.Proofs.CommandLines
import AdminGate.Proofs.LoneLoads

/-!
# What the exit code stands for

The program ends with zero only on the strength of an answer: the last one to its
requests for the identity, which came in time, told of success and brought an
admin who is permitted what the task asks.  Whatever else happens on the way ends
with one.
-/

namespace AdminGate.Command

open Scenario

/-- What a task asks of the admin who is signed in: a check that any of its
permissions is held, or all of them, unless every check is overridden. -/
def Task.Permits (identity : Identity) : Task → Prop
  | .whoami | .pages => True
  | .check permissions needsAll =>
      identity.isSuperAdmin = true ∨
        if needsAll then
          ∀ permission ∈ permissions, permission ∈ identity.permissions
        else ∃ permission ∈ permissions, permission ∈ identity.permissions

/-- An answer that lets a task end well. -/
def Task.GrantedBy (task : Task) (response : Http.Response) : Prop :=
  ∃ admin, Answer.BringsAdmin response admin ∧
    task.Permits (Identity.ofPayload admin)

def Task.IsNamed (task : Task) : Prop :=
  ∀ permissions needsAll, task = .check permissions needsAll → permissions ≠ []

/-- The lines of a run's output that come from the log. -/
def loggedLines (marks : LogMarks) (environment : Environment)
    (result : RunResult) : List String :=
  match Logging.initial.setUp? environment false with
  | .error _ => []
  | .ok (logging, entries) =>
      entries.flatMap (logging.entryLines marks) ++
        logLines logging marks result.observations

/-- The exit code of a run is zero on the strength of the final answer only, and
one in every other case. -/
structure FailsClosed (task : Task) (session : Session) (logged : List String)
    (result : RunResult) (code : Nat) : Prop where
  granted : code = 0 ↔
    ∃ response, session.FinalAnswer response ∧ task.GrantedBy response
  otherwise : code = 0 ∨ code = 1
  /-- After the lines of the log a check prints that it is granted exactly when it
  ends with zero. -/
  printed : ∀ permissions needsAll, task = .check permissions needsAll →
    ∃ lines, result.output = logged ++ lines ∧ ("granted" ∈ lines ↔ code = 0)
  /-- The requests of the run are for the identity. -/
  asks : ∃ start, session.world? = .ok start ∧
    ∀ request ∈ session.requests, IsIdentityRequest start.client request

/-- A check of some permissions is decided by the identity that has been loaded. -/
theorem evaluate_checkCriteria (identity : Identity) {permissions : List String}
    (named : permissions ≠ []) (needsAll : Bool) :
    (checkCriteria permissions needsAll).evaluate
        ⟨.loaded (some identity), false⟩ = some true ↔
      (Task.check permissions needsAll).Permits identity := by
  cases permissions with
  | nil => exact absurd rfl named
  | cons first rest =>
      cases needsAll <;>
        simp [checkCriteria, Criteria.evaluate, Criteria.single?,
          PermissionEngine.isDecided, PermissionEngine.hasAny,
          PermissionEngine.hasAll, PermissionEngine.whenDecided,
          PermissionEngine.isSuperAdmin, PermissionEngine.holds,
          PermissionEngine.permissions, PermissionEngine.identity,
          IdentityState.loaded, Task.Permits]

/-- A report about an admin who has been loaded ends well exactly when the task is
permitted. -/
theorem report_loaded (identity : Identity) {task : Task} (named : task.IsNamed) :
    ((report task ⟨.loaded (some identity), false⟩).1 = 0 ↔
        task.Permits identity) ∧
      ((report task ⟨.loaded (some identity), false⟩).1 = 0 ∨
        (report task ⟨.loaded (some identity), false⟩).1 = 1) ∧
      ∀ permissions needsAll, task = .check permissions needsAll →
        ("granted" ∈ (report task ⟨.loaded (some identity), false⟩).2 ↔
          (report task ⟨.loaded (some identity), false⟩).1 = 0) := by
  cases task with
  | whoami | pages => simp [report, Task.Permits]
  | check permissions needsAll =>
      have decides := evaluate_checkCriteria identity (named _ _ rfl) needsAll
      simp only [report, beq_iff_eq, decides]
      split <;> simp_all

/-- What a loader knows after one load that has ended with a result. -/
theorem known_of_lone_load {locale : String} {result : ApiResult} {loading : Loading}
    (ran : Loading.run? locale [.start, .finish 0 result] = some loading) :
    (∃ admin, IdentityLoader.admin? result = some admin ∧
        loading.loader.engine = ⟨.loaded (some (Identity.ofPayload admin)), false⟩) ∨
      (IdentityLoader.admin? result = none ∧
        loading.loader.state.isLoaded = false) := by
  have kept := Loading.run_kept ran
  have state : loading.loader.state = (IdentityLoader.learn .initial result locale).1 :=
    kept.state
  have counter : loading.loader.running + 1 = 1 := kept.counter
  have idle : loading.loader.running = 0 := Nat.succ.inj counter
  cases brings : IdentityLoader.admin? result with
  | some admin =>
      rw [learn_of_admin brings] at state
      exact .inl ⟨admin, rfl, by
        simp [IdentityLoader.engine, IdentityLoader.isLoading, state, idle]⟩
  | none =>
      rw [learn_of_none brings] at state
      exact .inr ⟨rfl, by rw [state]; rfl⟩

/-- The final answer grants a task when the result brings an admin who is permitted
it. -/
theorem grantedBy_iff {task : Task} {session : Session} {result : ApiResult}
    (heard : Outcome.Heard session.window
      (session.server.replies session.requests) (.ok result)) :
    (∃ response, session.FinalAnswer response ∧ task.GrantedBy response) ↔
      ∃ admin, IdentityLoader.admin? result = some admin ∧
        task.Permits (Identity.ofPayload admin) := by
  constructor
  · rintro ⟨response, answered, admin, brings, permitted⟩
    exact ⟨admin, (heard result rfl admin).mpr ⟨response, answered, brings⟩,
      permitted⟩
  · rintro ⟨admin, brought, permitted⟩
    obtain ⟨response, answered, brings⟩ := (heard result rfl admin).mp brought
    exact ⟨response, answered, admin, brings, permitted⟩

theorem execute_failsClosed {logging : Logging} {marks : LogMarks} {task : Task}
    {output : List String} {session : Session} {code : Nat}
    (named : task.IsNamed) (loads : session.steps = [.load])
    (endpoint : session.endpoint = none)
    (returned : (execute logging marks task output session).exit = .code code) :
    FailsClosed task session
      (output ++ logLines logging marks
        (execute logging marks task output session).observations)
      (execute logging marks task output session) code := by
  unfold execute at returned ⊢
  cases ends : session.outcome? with
  | error cause =>
      rw [ends] at returned
      cases returned
  | ok last =>
      obtain ⟨⟨report, reports, told⟩, settings, asks⟩ :=
        Session.told loads endpoint ends
      obtain ⟨outcome, cell, status, isLoading, observations⟩ := report
      have window : last.client.window = session.window := by
        rw [Client.window, settings, Session.window]
      simp only [ends, reports, Aliases.showReports] at returned ⊢
      rcases told with ⟨cause, reported⟩ | ⟨result, heard, ran, reported⟩
      · cases reported
        cases returned
      · cases reported
        rw [window] at heard
        simp only at returned ⊢
        rcases known_of_lone_load ran with ⟨admin, brings, engine⟩ | ⟨brings, unloaded⟩
        · have loaded : last.loader.state.isLoaded = true :=
            congrArg (·.state.isLoaded) engine
          obtain ⟨permits, bounded, prints⟩ :=
            report_loaded (Identity.ofPayload admin) named
          simp only [if_pos loaded, engine] at returned ⊢
          cases returned
          refine ⟨?_, bounded, ?_, asks⟩
          · simp [grantedBy_iff heard, permits, brings]
          · exact fun permissions needsAll checks =>
              ⟨_, rfl, prints permissions needsAll checks⟩
        · simp only [unloaded, Bool.false_eq_true, if_false] at returned ⊢
          cases returned
          refine ⟨?_, .inr rfl, fun _ _ _ => ⟨[], ?_, by simp⟩, asks⟩
          · simp [grantedBy_iff heard, brings]
          · simp

/-- For a command line that is understood and settings that are valid, a run that
comes to an exit code fails closed. -/
theorem run_failsClosed {marks : LogMarks} {environment : Environment}
    {server : Server} {arguments : List String} {invocation : Invocation}
    {settings : Settings} {code : Nat}
    (understood : Invocation.ofArguments? arguments = .ok invocation)
    (configured : settingsFor environment invocation.baseUrl = .ok settings)
    (returned : (run marks environment server arguments).exit = .code code) :
    ∃ cookie, invocation.cookie = some cookie ∧
      FailsClosed invocation.task (loadSession settings cookie server)
        (loggedLines marks environment (run marks environment server arguments))
        (run marks environment server arguments) code := by
  have named : invocation.task.IsNamed :=
    fun _ _ => Invocation.permissions_ne_nil understood
  unfold loggedLines
  unfold run at returned ⊢
  simp only [understood] at returned ⊢
  cases prepared : Logging.initial.setUp? environment false with
  | error cause =>
      rw [prepared] at returned
      cases returned
  | ok logged =>
      simp only [prepared, configured] at returned ⊢
      cases offered : invocation.cookie with
      | none =>
          rw [offered] at returned
          cases returned
      | some cookie =>
          simp only [offered] at returned ⊢
          exact ⟨cookie, rfl, execute_failsClosed named rfl rfl returned⟩

/-- A server that turns the first request down and then knows a cashier. -/
def Sample.cashierServer : Server :=
  .ofRoutes [("/api/admin/info", [.always (.answer AdminGate.Sample.turnedDown 0),
    .always (.answer ⟨200, [], AdminGate.Sample.bytes
      "\x7b\"admin\":\x7b\"permissions\":[\"orders.read\"]\x7d\x7d"⟩ 5)])]

/-- The run goes on after the refusal, and the second answer grants the check. -/
theorem run_failsClosed_cashier : ∃ invocation settings cookie,
    Invocation.ofArguments? ["check", "orders.read"] = .ok invocation ∧
      settingsFor [] invocation.baseUrl = .ok settings ∧
      (run ⟨"-", "-", 0, 0⟩ [] Sample.cashierServer ["check", "orders.read"]).exit =
        .code 0 ∧
      invocation.cookie = some cookie ∧
      FailsClosed invocation.task
        (loadSession settings cookie Sample.cashierServer)
        (loggedLines ⟨"-", "-", 0, 0⟩ []
          (run ⟨"-", "-", 0, 0⟩ [] Sample.cashierServer ["check", "orders.read"]))
        (run ⟨"-", "-", 0, 0⟩ [] Sample.cashierServer ["check", "orders.read"]) 0 := by
  have understood : Invocation.ofArguments? ["check", "orders.read"] =
      .ok ⟨"", some "", .check ["orders.read"] false⟩ := by decide +kernel
  have returns : (match (run ⟨"-", "-", 0, 0⟩ [] Sample.cashierServer
      ["check", "orders.read"]).exit with
        | .code value => value == 0
        | _ => false) = true := by decide +kernel
  have returned : (run ⟨"-", "-", 0, 0⟩ [] Sample.cashierServer
      ["check", "orders.read"]).exit = .code 0 := by
    split at returns
    · rename_i value exits
      rw [exits, beq_iff_eq.mp returns]
    · cases returns
  have valid : (settingsFor [] "").isOk = true := by decide +kernel
  cases configured : settingsFor [] "" with
  | error cause =>
      rw [configured] at valid
      cases valid
  | ok settings =>
      obtain ⟨cookie, offered, closed⟩ :=
        run_failsClosed understood configured returned
      exact ⟨_, settings, cookie, understood, configured, returned, offered,
        closed⟩

end AdminGate.Command

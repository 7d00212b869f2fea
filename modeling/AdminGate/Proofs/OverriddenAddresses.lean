import AdminGate.Proofs.Configuring
import AdminGate.Proofs.EnvironmentSettings
import AdminGate.Proofs.ExitCodes

/-!
# Base addresses of the command line

A base address on the command line takes the place of the environment's, but not
before that one has been judged.  So of two environments that differ in their base
addresses alone both lead to the same run as long as neither is refused, whatever
they are.  A refused one ends the run, although its address would not be used.
-/

namespace AdminGate

/-- Two environments that differ at most in the value of one variable. -/
def Environment.AlikeBut (name : String) (first second : Environment) : Prop :=
  ∀ other, other ≠ name → first.lookup other = second.lookup other

variable {first second environment : Environment}

namespace Environment

theorem AlikeBut.text {name other : String} (alike : AlikeBut name first second)
    (different : other ≠ name) (fallback : String) :
    first.text other fallback = second.text other fallback := by
  rw [Environment.text, Environment.text, alike other different]

theorem AlikeBut.switch {name other : String} (alike : AlikeBut name first second)
    (different : other ≠ name) (fallback : Bool) :
    first.switch other fallback = second.switch other fallback := by
  rw [Environment.switch, Environment.switch, Environment.value, Environment.value,
    alike other different]

end Environment

open Environment (AlikeBut)

theorem Logging.wishes_of_alikeBut
    (alike : AlikeBut "STOREFRONT_BASE_URL" first second) :
    Wishes.ofEnvironment first = Wishes.ofEnvironment second := by
  unfold Wishes.ofEnvironment
  rw [alike.text (by decide), alike.switch (by decide), alike.switch (by decide)]

theorem Logging.setUp?_of_alikeBut
    (alike : AlikeBut "STOREFRONT_BASE_URL" first second) (logging : Logging)
    (force : Bool) :
    logging.setUp? first force = logging.setUp? second force := by
  unfold setUp? setUp
  rw [wishes_of_alikeBut alike]

theorem Settings.readFrom_of_alikeBut
    (alike : AlikeBut "STOREFRONT_BASE_URL" first second) (baseUrl : String) :
    readFrom first baseUrl = readFrom second baseUrl := by
  unfold readFrom
  simp only [alike _ (by decide : "STOREFRONT_REQUEST_TIMEOUT_MS" ≠ _),
    alike _ (by decide : "STOREFRONT_CSRF_ENDPOINT" ≠ _),
    alike _ (by decide : "STOREFRONT_IDENTITY_ENDPOINT" ≠ _),
    alike _ (by decide : "STOREFRONT_CSRF_COOKIE" ≠ _),
    alike _ (by decide : "STOREFRONT_CSRF_HEADER" ≠ _),
    alike _ (by decide : "STOREFRONT_LOCALE" ≠ _)]

namespace Command

open Settings (Judged baseUrl? givenAddress readFrom)

variable {given : String}

/-- The settings of a run whose base address comes from the command line: the rest
is the environment's, whose own address counts only if it is refused. -/
theorem settingsFor_eq (asked : given ≠ "") :
    settingsFor environment given =
      (baseUrl? (givenAddress environment)).bind fun _ =>
        (baseUrl? given).map (readFrom environment) := by
  have filled : given.isEmpty = false := by simpa using asked
  unfold settingsFor
  rw [Settings.ofEnvironment?_eq]
  cases baseUrl? (givenAddress environment) with
  | error cause => rfl
  | ok url =>
      simp only [Except.map, Except.bind, bind, filled, Bool.false_eq_true, if_false,
        Settings.withBaseUrl?_eq]
      cases baseUrl? given with
      | error cause => rfl
      | ok other => simp only [readFrom]

/-- The base address of an environment is accepted. -/
def IsAccepted (environment : Environment) : Prop :=
  ∃ url, Judged (givenAddress environment) (.ok url)

theorem settingsFor_of_accepted (accepted : IsAccepted environment)
    (asked : given ≠ "") :
    settingsFor environment given = (baseUrl? given).map (readFrom environment) := by
  obtain ⟨url, judged⟩ := accepted
  rw [settingsFor_eq asked, Settings.judged_iff.mp judged]
  rfl

theorem settingsFor_of_refused {cause : SettingsError}
    (refused : Judged (givenAddress environment) (.error cause)) (asked : given ≠ "") :
    settingsFor environment given = .error cause := by
  rw [settingsFor_eq asked, Settings.judged_iff.mp refused]
  rfl

/-- Beyond its logging and its settings a run asks nothing of the environment. -/
theorem run_congr {marks : LogMarks} {server : Server} {arguments : List String}
    {invocation : Invocation} (alike : AlikeBut "STOREFRONT_BASE_URL" first second)
    (understood : Invocation.ofArguments? arguments = .ok invocation)
    (same : settingsFor first invocation.baseUrl =
      settingsFor second invocation.baseUrl) :
    run marks first server arguments = run marks second server arguments := by
  unfold run
  rw [Logging.setUp?_of_alikeBut alike]
  simp only [understood, same]

/-- What the base addresses of two environments do to a run that has one of its own
on the command line. -/
structure Overrides (marks : LogMarks) (first second : Environment) (server : Server)
    (arguments : List String) (invocation : Invocation) : Prop where
  /-- Accepted ones make no difference, -/
  same : IsAccepted first → IsAccepted second →
    run marks first server arguments = run marks second server arguments
  /-- because the address of the run is that of the command line. -/
  address : IsAccepted first →
    (settingsFor first invocation.baseUrl).map (·.baseUrl) =
      baseUrl? invocation.baseUrl
  /-- A refused one ends the run before anything is sent. -/
  ends : ∀ cause logging entries, Judged (givenAddress first) (.error cause) →
    Logging.initial.setUp? first false = .ok (logging, entries) →
      Proceeds marks first server invocation logging
        (entries.flatMap (logging.entryLines marks)) (.error cause)
        (run marks first server arguments)
  /-- Two of them make the same difference if they are refused alike. -/
  alike : ∀ cause, Judged (givenAddress first) (.error cause) →
    Judged (givenAddress second) (.error cause) →
      run marks first server arguments = run marks second server arguments

/-- A base address on the command line stands for the environment's, whatever that
is, unless that one is refused. -/
theorem run_overrides {marks : LogMarks} {server : Server} {arguments : List String}
    {invocation : Invocation} (alike : AlikeBut "STOREFRONT_BASE_URL" first second)
    (understood : Invocation.ofArguments? arguments = .ok invocation)
    (asked : invocation.baseUrl ≠ "") :
    Overrides marks first second server arguments invocation where
  same := by
    intro accepted other
    refine run_congr alike understood ?_
    rw [settingsFor_of_accepted accepted asked, settingsFor_of_accepted other asked,
      funext (Settings.readFrom_of_alikeBut alike)]
  address := by
    intro accepted
    rw [settingsFor_of_accepted accepted asked]
    cases baseUrl? invocation.baseUrl <;> rfl
  ends := by
    intro cause logging entries refused prepared
    have stopped : (settingsFor first invocation.baseUrl).map (·.baseUrl) =
        .error cause := by
      rw [settingsFor_of_refused refused asked]
      rfl
    rw [← stopped]
    exact run_proceeds understood prepared
  alike := by
    intro cause refused other
    refine run_congr alike understood ?_
    rw [settingsFor_of_refused refused asked, settingsFor_of_refused other asked]

theorem alikeBut_of_alone (name value : String) : AlikeBut name [(name, value)] [] := by
  intro other different
  have unlike : (other == name) = false := beq_false_of_ne different
  rw [List.lookup_cons, unlike]

/-- An environment with a shop of its own and one without. -/
theorem run_overrides_shop :
    AlikeBut "STOREFRONT_BASE_URL" [("STOREFRONT_BASE_URL", "https://shop")] [] ∧
      Invocation.ofArguments? ["--base-url", "http://h", "pages"] =
        .ok ⟨"http://h", some "", .pages⟩ ∧
      "http://h" ≠ "" ∧
      Overrides ⟨"-", "-", 0, 0⟩ [("STOREFRONT_BASE_URL", "https://shop")] []
        (.ofRoutes []) ["--base-url", "http://h", "pages"]
        ⟨"http://h", some "", .pages⟩ := by
  have understood : Invocation.ofArguments? ["--base-url", "http://h", "pages"] =
      .ok ⟨"http://h", some "", .pages⟩ := by decide +kernel
  have alike := alikeBut_of_alone "STOREFRONT_BASE_URL" "https://shop"
  exact ⟨alike, understood, by decide, run_overrides alike understood (by decide)⟩

/-- An address without a scheme in the environment ends a run that would be granted
its check at the address of the command line. -/
theorem refused_address_not_overridden :
    ¬∀ (first second : Environment) (server : Server) (arguments : List String)
        (invocation : Invocation),
      AlikeBut "STOREFRONT_BASE_URL" first second →
      Invocation.ofArguments? arguments = .ok invocation →
      invocation.baseUrl ≠ "" →
      (∃ url, baseUrl? invocation.baseUrl = .ok url) →
        run ⟨"-", "-", 0, 0⟩ first server arguments =
          run ⟨"-", "-", 0, 0⟩ second server arguments := by
  intro overrides
  have understood :
      Invocation.ofArguments? ["--base-url", "http://h", "check", "orders.read"] =
        .ok ⟨"http://h", some "", .check ["orders.read"] false⟩ := by decide +kernel
  have accepted : baseUrl? "http://h" = .ok "http://h" := by decide +kernel
  have same := overrides [("STOREFRONT_BASE_URL", "shop")] [] Sample.cashierServer _ _
    (alikeBut_of_alone _ _) understood (by decide) ⟨_, accepted⟩
  have codes := congrArg (fun result : RunResult =>
    match result.exit with
    | .code value => value == 0
    | _ => false) same
  revert codes
  decide +kernel

end Command

end AdminGate

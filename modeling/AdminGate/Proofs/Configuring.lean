import AdminGate.Command.Run
import AdminGate.Proofs.BaseAddresses

/-!
# How a run is configured

The base address of a run is the command line's, and the environment's if none is
given there; the environment's is judged in both cases.  An address that is not
absolute ends the run with a message and the code one.  An address that cannot be
taken apart is a fault instead, which the program does not handle.
-/

namespace AdminGate.Command

open Settings (Judged JudgesAddress givenAddress)

variable {environment : Environment} {given : String}

/-- What becomes of the base addresses that an environment and a command line give.
An empty one on the command line counts as none. -/
inductive Configured (environment : Environment) (given : String) :
    Except SettingsError String → Prop where
  | refused {cause : SettingsError} :
      Judged (givenAddress environment) (.error cause) →
      Configured environment given (.error cause)
  | kept {url : String} :
      Judged (givenAddress environment) (.ok url) → given = "" →
      Configured environment given (.ok url)
  | replaced {url : String} {judged : Except SettingsError String} :
      Judged (givenAddress environment) (.ok url) → given ≠ "" →
      Judged given judged → Configured environment given judged

theorem settingsFor_configured (environment : Environment) (given : String) :
    Configured environment given
      ((settingsFor environment given).map (·.baseUrl)) := by
  -- The environment's address is judged first, and its refusal is final.
  have judged := Settings.baseUrl?_judged (givenAddress environment)
  rw [← Settings.baseUrl_ofEnvironment?] at judged
  unfold settingsFor
  cases read : Settings.ofEnvironment? environment with
  | error cause =>
      rw [read] at judged
      exact .refused judged
  | ok settings =>
      rw [read] at judged
      by_cases empty : given = ""
      · subst empty
        exact .kept judged rfl
      · have overridden := Settings.baseUrl?_judged given
        rw [← Settings.baseUrl_withBaseUrl? settings] at overridden
        have asked : given.isEmpty = false := by simpa using empty
        simp only [asked]
        exact .replaced judged empty overridden

theorem Configured.unique {first second : Except SettingsError String}
    (one : Configured environment given first)
    (other : Configured environment given second) : first = second := by
  cases one with
  | refused fails =>
      cases other with
      | refused again => exact fails.unique again
      | kept read | replaced read => cases fails.unique read
  | kept read empty =>
      cases other with
      | refused fails => cases fails.unique read
      | kept again => exact read.unique again
      | replaced _ filled => exact absurd empty filled
  | replaced read filled judged =>
      cases other with
      | refused fails => cases fails.unique read
      | kept _ empty => exact absurd empty filled
      | replaced _ _ again => exact judged.unique again

/-- How a run goes on once its base address has been judged: with the request for
the identity, unless the cookie lacks its value, or not at all. -/
inductive Proceeds (marks : LogMarks) (environment : Environment) (server : Server)
    (invocation : Invocation) (logging : Logging) (output : List String) :
    Except SettingsError String → RunResult → Prop where
  | loads {settings : Settings} {cookie : String} :
      settingsFor environment invocation.baseUrl = .ok settings →
      invocation.cookie = some cookie →
      Proceeds marks environment server invocation logging output
        (.ok settings.baseUrl)
        (execute logging marks invocation.task output
          (loadSession settings cookie server))
  | cookieless {url : String} : invocation.cookie = none →
      Proceeds marks environment server invocation logging output (.ok url)
        ⟨.faulted .cookieWithoutValue, output, "", []⟩
  | refused :
      Proceeds marks environment server invocation logging output
        (.error .notAbsolute)
        ⟨.code 1, output, "error: " ++ SettingsError.notAbsolute.message ++ "\n", []⟩
  | faulted {cause : Http.SplitError} :
      Proceeds marks environment server invocation logging output
        (.error (.malformed cause)) ⟨.faulted (.settings cause), output, "", []⟩

theorem run_proceeds {marks : LogMarks} {server : Server}
    {arguments : List String} {invocation : Invocation} {logging : Logging}
    {entries : List LogEntry}
    (understood : Invocation.ofArguments? arguments = .ok invocation)
    (prepared : Logging.initial.setUp? environment false = .ok (logging, entries)) :
    Proceeds marks environment server invocation logging
      (entries.flatMap (logging.entryLines marks))
      ((settingsFor environment invocation.baseUrl).map (·.baseUrl))
      (run marks environment server arguments) := by
  unfold run
  simp only [understood, prepared]
  cases configured : settingsFor environment invocation.baseUrl with
  | error cause =>
      cases cause with
      | notAbsolute => exact .refused
      | malformed cause => exact .faulted
  | ok settings =>
      cases offered : invocation.cookie with
      | none => exact .cookieless offered
      | some cookie => exact .loads configured offered

/-- A text that is given as base address, wherever that is, becomes an absolute web
address, or is refused as none, or is malformed; and a run loads the identity,
ends with a message and the code one, or ends with a fault accordingly. -/
theorem run_configured {marks : LogMarks} {server : Server}
    {arguments : List String} {invocation : Invocation} {logging : Logging}
    {entries : List LogEntry}
    (understood : Invocation.ofArguments? arguments = .ok invocation)
    (prepared : Logging.initial.setUp? environment false = .ok (logging, entries)) :
    (∀ environment settings input, JudgesAddress environment settings input) ∧
      (∃ judged, Configured environment invocation.baseUrl judged) ∧
      ∀ judged, Configured environment invocation.baseUrl judged →
        Proceeds marks environment server invocation logging
          (entries.flatMap (logging.entryLines marks)) judged
          (run marks environment server arguments) := by
  have configured := settingsFor_configured environment invocation.baseUrl
  refine ⟨Settings.judgesAddress, ⟨_, configured⟩, ?_⟩
  intro judged same
  rw [same.unique configured]
  exact run_proceeds understood prepared

/-- The address of the command line is relative. -/
theorem run_configured_relative : ∃ logging entries,
    Invocation.ofArguments? ["--base-url", "shop", "pages"] =
        .ok ⟨"shop", some "", .pages⟩ ∧
      Logging.initial.setUp? [] false = .ok (logging, entries) ∧
      Configured [] "shop" (.error .notAbsolute) ∧
      Proceeds ⟨"-", "-", 0, 0⟩ [] (.ofRoutes []) ⟨"shop", some "", .pages⟩ logging
        (entries.flatMap (logging.entryLines ⟨"-", "-", 0, 0⟩)) (.error .notAbsolute)
        (run ⟨"-", "-", 0, 0⟩ [] (.ofRoutes []) ["--base-url", "shop", "pages"]) := by
  have understood : Invocation.ofArguments? ["--base-url", "shop", "pages"] =
      .ok ⟨"shop", some "", .pages⟩ := by decide +kernel
  have valid : (Logging.initial.setUp? [] false).isOk = true := by decide +kernel
  have standing : Judged (givenAddress []) (.ok Settings.standard.baseUrl) :=
    Settings.judged_iff.mpr Settings.baseUrl?_standard
  have overriding : Judged "shop" (.error .notAbsolute) :=
    Settings.judged_iff.mpr (by decide +kernel)
  have relative : Configured [] "shop" (.error .notAbsolute) :=
    .replaced standing (by decide) overriding
  cases prepared : Logging.initial.setUp? [] false with
  | error cause =>
      rw [prepared] at valid
      cases valid
  | ok logged =>
      exact ⟨_, _, understood, rfl, relative,
        (run_configured understood prepared).2.2 _ relative⟩

/-- An opening bracket without a closing one is neither accepted nor refused as a
relative address, and the run does not come to an exit code. -/
theorem open_bracket_faults :
    (¬∀ (settings : Settings) (input : String),
        (∃ changed, settings.withBaseUrl? input = .ok changed) ∨
          settings.withBaseUrl? input = .error .notAbsolute) ∧
      ¬∀ (input : String) (server : Server), ∃ code,
        (run ⟨"-", "-", 0, 0⟩ [] server ["--base-url", input, "whoami"]).exit =
          .code code := by
  constructor
  · intro decides
    have refused : Settings.standard.withBaseUrl? "http://[" =
        .error (.malformed .unbalancedBrackets) := by decide +kernel
    rcases decides .standard "http://[" with ⟨changed, accepted⟩ | relative
    · rw [refused] at accepted
      cases accepted
    · rw [refused] at relative
      cases relative
  · intro ends
    obtain ⟨code, exits⟩ := ends "http://[" (.ofRoutes [])
    have faults : (match (run ⟨"-", "-", 0, 0⟩ [] (.ofRoutes [])
        ["--base-url", "http://[", "whoami"]).exit with
          | .code _ => true
          | _ => false) = false := by decide +kernel
    rw [exits] at faults
    cases faults

end AdminGate.Command

import Mathlib.Data.List.Induction
import AdminGate.Log.Logging

/-!
# How often a record is written

Setting logging up goes through, is skipped or is refused; `SettingUp` lists what
each of these leaves behind.  However often that happens, and whatever is logged
in between, the client's loggers have one handler from the first time on that it
has gone through, and the root logger never has two.  So no record is written
twice, although the same handler may serve both, and none of the client's gets
lost that its logger and its handler let pass.
-/

namespace AdminGate

inductive LogAction where
  | setUp (environment : Environment) (force : Bool)
  | log (request : LogRequest)

namespace Logging

variable {logging next : Logging} {marks : LogMarks} {environment : Environment}
  {force : Bool} {actions : List LogAction} {action : LogAction}

/-! ## Setting logging up -/

/-- Logging with a level, in the form that is asked for. -/
def configured (logging : Logging) (wishes : Wishes) (level : LogLevel) :
    Logging where
  isConfigured := true
  clientHandlers := [⟨level, wishes.isJson⟩]
  level
  propagates := false
  rootHandlers :=
    if wishes.capturesRoot then [⟨level, wishes.isJson⟩]
    else logging.rootHandlers
  rootLevel := if wishes.capturesRoot then level else logging.rootLevel

/-- What is reported when logging has been set up. -/
def setUpEntry (wishes : Wishes) : LogEntry :=
  (Event.loggingConfigured wishes.levelName wishes.isJson
    wishes.capturesRoot).alone

/-- The ways in which setting logging up can go, with what is reported and with
logging afterwards. -/
inductive SettingUp (environment : Environment) (force : Bool)
    (logging : Logging) :
    EStateM.Result LoggingError Logging (List LogEntry) → Prop where
  | skipped (configured : logging.isConfigured = true)
      (unforced : force = false) :
      SettingUp environment force logging (.ok [] logging)
  | refused {cause : LoggingError}
      (due : logging.isConfigured = true → force = true)
      (refusal : (NamedValue.ofName
        (Wishes.ofEnvironment environment).levelName).checked = .error cause) :
      SettingUp environment force logging (.error cause logging)
  | done {level : LogLevel} (due : logging.isConfigured = true → force = true)
      (named : (NamedValue.ofName
        (Wishes.ofEnvironment environment).levelName).checked = .ok level) :
      SettingUp environment force logging
        (.ok [setUpEntry (.ofEnvironment environment)]
          (logging.configured (.ofEnvironment environment) level))

theorem eq_ofLevel_of_checked {value : NamedValue} {level : LogLevel}
    (checked : value.checked = .ok level) : value = .ofLevel level := by
  cases value with
  | ofLevel other =>
      cases checked
      rfl
  | templateName | styleTable => cases checked

private theorem not_skipped (due : logging.isConfigured = true → force = true) :
    (logging.isConfigured && !force) = false := by
  cases configured : logging.isConfigured with
  | false => rfl
  | true => rw [due configured, Bool.not_true, Bool.and_false]

private theorem get_bind {α : Type} (next : Logging → Steps α)
    (logging : Logging) : (get >>= next) logging = next logging logging :=
  rfl

private theorem bind_of_refused {α β : Type} {first : Steps α}
    {next : α → Steps β} {cause : LoggingError}
    (refused : first logging = .error cause logging) :
    (first >>= next) logging = .error cause logging := by
  simp only [bind, EStateM.bind, refused]

theorem setUp_of_refusal {cause : LoggingError}
    (due : logging.isConfigured = true → force = true)
    (refusal : (NamedValue.ofName
      (Wishes.ofEnvironment environment).levelName).checked = .error cause) :
    setUp environment force logging = .error cause logging := by
  have refused : take (NamedValue.ofName
      (Wishes.ofEnvironment environment).levelName) logging =
        .error cause logging := by
    simp only [take, refusal]
    rfl
  simp only [setUp, get_bind, not_skipped due, Bool.false_eq_true, if_false,
    bind_of_refused refused]

/-- Once its level has been accepted, nothing that is done with it is refused. -/
theorem setUp_of_level {level : LogLevel}
    (due : logging.isConfigured = true → force = true)
    (named : (NamedValue.ofName
      (Wishes.ofEnvironment environment).levelName).checked = .ok level) :
    setUp environment force logging =
      .ok [setUpEntry (.ofEnvironment environment)]
        (logging.configured (.ofEnvironment environment) level) := by
  simp only [setUp, get_bind, not_skipped due, Bool.false_eq_true, if_false,
    eq_ofLevel_of_checked named]
  generalize Wishes.ofEnvironment environment = wishes
  obtain ⟨levelName, isJson, capturesRoot⟩ := wishes
  cases capturesRoot <;> rfl

theorem setUp_settingUp (environment : Environment) (force : Bool)
    (logging : Logging) :
    SettingUp environment force logging (setUp environment force logging) := by
  by_cases due : logging.isConfigured = true → force = true
  · cases checked : (NamedValue.ofName
        (Wishes.ofEnvironment environment).levelName).checked with
    | error cause =>
        rw [setUp_of_refusal due checked]
        exact .refused due checked
    | ok level =>
        rw [setUp_of_level due checked]
        exact .done due checked
  · obtain ⟨configured, unforced⟩ := Classical.not_imp.mp due
    have skipped : setUp environment force logging = .ok [] logging := by
      simp only [setUp, get_bind, configured, Bool.eq_false_iff.mpr unforced,
        Bool.not_false, Bool.and_self, if_true]
      rfl
    rw [skipped]
    exact .skipped configured (Bool.eq_false_iff.mpr unforced)

/-! ## Histories -/

def after (logging : Logging) : LogAction → Logging
  | .setUp environment force =>
      match setUp environment force logging with
      | .ok _ next | .error _ next => next
  | .log _ => logging

/-- The lines that are written at an action. -/
def linesAt (marks : LogMarks) (logging : Logging) : LogAction → List String
  | .setUp environment force =>
      match setUp environment force logging with
      | .ok entries next => entries.flatMap (next.entryLines marks)
      | .error _ _ => []
  | .log request =>
      match logging.log? marks request with
      | .ok emission => emission.lines
      | .error _ => []

def afterAll (logging : Logging) (actions : List LogAction) : Logging :=
  actions.foldl after logging

/-- All that is written during many actions. -/
def output (marks : LogMarks) : Logging → List LogAction → List String
  | _, [] => []
  | logging, action :: rest =>
      linesAt marks logging action ++ output marks (logging.after action) rest

/-- The records that an action makes.  None is made of values under taken
names. -/
def records (logging : Logging) : LogAction → List LogRecord
  | .setUp environment force =>
      match setUp environment force logging with
      | .ok entries _ => entries.map LogEntry.record
      | .error _ _ => []
  | .log request =>
      if (LogRecord.clash? request.extra).isSome then [] else [request.record]

/-- The records of many actions, each with logging as it is when the record is
passed on. -/
def journal : Logging → List LogAction → List (Logging × LogRecord)
  | _, [] => []
  | logging, action :: rest =>
      (records logging action).map (logging.after action, ·) ++
        journal (logging.after action) rest

/-- At some of many actions something is the case. -/
def Sometime (event : Logging → LogAction → Prop) :
    Logging → List LogAction → Prop
  | _, [] => False
  | logging, action :: rest =>
      event logging action ∨ Sometime event (logging.after action) rest

/-- Logging is set up, or has been before, and nothing is refused. -/
def Completes (logging : Logging) (action : LogAction) : Prop :=
  ∃ environment force entries next, action = .setUp environment force ∧
    setUp environment force logging = .ok entries next

/-- Logging is set up, which is not skipped, and is to have the root logger. -/
def Captures (logging : Logging) (action : LogAction) : Prop :=
  ∃ environment force entries next, action = .setUp environment force ∧
    (logging.isConfigured = true → force = true) ∧
    setUp environment force logging = .ok entries next ∧
    (Wishes.ofEnvironment environment).capturesRoot = true

/-- What holds of logging whatever has happened to it. -/
structure Kept (completed captured : Prop) (logging : Logging) : Prop where
  configured : logging.isConfigured = true ↔ completed
  clientHandler : completed → ∃ handler, logging.clientHandlers = [handler]
  propagates : completed → logging.propagates = false
  untouched : ¬completed → logging = initial
  rootHandlers : logging.rootHandlers.length ≤ 1
  uncaptured : ¬captured → logging.rootHandlers = []

theorem sometime_concat_iff {event : Logging → LogAction → Prop} :
    Sometime event logging (actions ++ [action]) ↔
      Sometime event logging actions ∨
        event (logging.afterAll actions) action := by
  induction actions generalizing logging with
  | nil => simp [Sometime, afterAll]
  | cons first rest ih => simp [Sometime, afterAll, ih, or_assoc]

theorem afterAll_concat :
    logging.afterAll (actions ++ [action]) =
      (logging.afterAll actions).after action := by
  simp [afterAll]

theorem kept_initial : Kept False False initial where
  configured := by simp [initial]
  clientHandler := False.elim
  propagates := False.elim
  untouched := fun _ => rfl
  rootHandlers := Nat.zero_le 1
  uncaptured := fun _ => rfl

theorem Captures.completes (captures : Captures logging action) :
    Completes logging action := by
  obtain ⟨environment, force, entries, next, same, _, done, _⟩ := captures
  exact ⟨environment, force, entries, next, same, done⟩

theorem Kept.unchanged {completed captured : Prop}
    (kept : Kept completed captured logging)
    (incomplete : ¬Completes logging action)
    (same : logging.after action = logging) :
    Kept (completed ∨ Completes logging action)
      (captured ∨ Captures logging action) (logging.after action) := by
  have uncaptured : ¬Captures logging action :=
    fun captures => incomplete captures.completes
  rw [same, or_iff_left incomplete, or_iff_left uncaptured]
  exact kept

theorem Kept.after {completed captured : Prop}
    (kept : Kept completed captured logging) (action : LogAction) :
    Kept (completed ∨ Completes logging action)
      (captured ∨ Captures logging action) (logging.after action) := by
  cases action with
  | log request =>
      apply kept.unchanged _ rfl
      rintro ⟨_, _, _, _, same, _⟩
      cases same
  | setUp environment force =>
      have way := setUp_settingUp environment force logging
      generalize result : setUp environment force logging = outcome at way
      cases way with
      | refused due refusal =>
          apply kept.unchanged
          · rintro ⟨_, _, _, _, same, done⟩
            cases same
            rw [result] at done
            cases done
          · simp [Logging.after, result]
      | skipped configured unforced =>
          have same : logging.after (.setUp environment force) = logging := by
            simp [Logging.after, result]
          have uncaptured :
              ¬Captures logging (.setUp environment force) := by
            rintro ⟨_, _, _, _, same, due, _⟩
            cases same
            rw [due configured] at unforced
            cases unforced
          have completed := kept.configured.mp configured
          rw [same, or_iff_left uncaptured,
            or_iff_left_of_imp (fun _ => completed)]
          exact kept
      | done due named =>
          rename_i level
          have next : logging.after (.setUp environment force) =
              logging.configured (.ofEnvironment environment) level := by
            simp [Logging.after, result]
          have completes : Completes logging (.setUp environment force) :=
            ⟨environment, force, _, _, rfl, result⟩
          rw [next]
          constructor
          · exact ⟨fun _ => .inr completes, fun _ => rfl⟩
          · exact fun _ => ⟨_, rfl⟩
          · exact fun _ => rfl
          · exact fun incomplete => absurd (.inr completes) incomplete
          · simp only [Logging.configured]
            split
            · exact Nat.le_refl 1
            · exact kept.rootHandlers
          · intro uncaptured
            simp only [Logging.configured]
            split
            · rename_i captures
              exact absurd (.inr ⟨environment, force, _, _, rfl, due, result,
                captures⟩) uncaptured
            · exact kept.uncaptured (fun captured => uncaptured (.inl captured))

/-- What holds of logging in every history that begins before it has been set
up. -/
theorem afterAll_kept (actions : List LogAction) :
    Kept (Sometime Completes initial actions)
      (Sometime Captures initial actions) (initial.afterAll actions) := by
  induction actions using List.reverseRecOn with
  | nil => exact kept_initial
  | append_singleton actions action ih =>
      rw [sometime_concat_iff, sometime_concat_iff, afterAll_concat]
      exact ih.after action

/-! ## Records -/

theorem isEnabled_loggerNamed (logging : Logging) (logger : String)
    (level : LogLevel) :
    logging.isEnabled (loggerNamed logger) level =
      logging.isEnabled logger level := by
  unfold loggerNamed
  split
  · rename_i blank
    have root : isClientLogger rootLogger = isClientLogger "" := by decide
    simp [isEnabled, effectiveLevel, root, String.isEmpty_iff.mp blank]
  · rfl

theorem linesAt_eq (marks : LogMarks) (logging : Logging) (action : LogAction) :
    linesAt marks logging action =
      (records logging action).flatMap
        ((logging.after action).written marks) := by
  cases action with
  | setUp environment force =>
      cases result : setUp environment force logging with
      | ok entries next =>
          simp only [linesAt, records, after, result, List.flatMap_map]
          rfl
      | error cause next => simp [linesAt, records, result]
  | log request =>
      have enabled := isEnabled_loggerNamed logging request.logger request.level
      cases clash : LogRecord.clash? request.extra with
      | some name =>
          simp only [linesAt, records, log?, clash, Option.isSome_some, if_true,
            List.flatMap_nil]
          cases logging.isEnabled request.logger request.level <;> rfl
      | none =>
          simp only [linesAt, records, log?, clash, Option.isSome_none,
            Bool.false_eq_true, if_false, List.flatMap_singleton, after,
            written, LogRequest.record, enabled]
          cases logging.isEnabled request.logger request.level <;> rfl

theorem output_eq (marks : LogMarks) (logging : Logging)
    (actions : List LogAction) :
    output marks logging actions =
      (journal logging actions).flatMap fun met =>
        met.1.written marks met.2 := by
  induction actions generalizing logging with
  | nil => rfl
  | cons action rest ih =>
      simp [output, journal, linesAt_eq, ih, List.flatMap_map]

/-- Every record of a history is passed on by logging as some of its actions have
left it. -/
theorem journal_after {met : Logging × LogRecord}
    (member : met ∈ journal logging actions) :
    ∃ before, before <+: actions ∧ met.1 = logging.afterAll before := by
  induction actions generalizing logging with
  | nil => cases member
  | cons action rest ih =>
      rcases List.mem_append.mp member with here | later
      · obtain ⟨record, _, rfl⟩ := List.mem_map.mp here
        exact ⟨[action], ⟨rest, rfl⟩, rfl⟩
      · obtain ⟨before, initial, same⟩ := ih later
        exact ⟨action :: before, List.prefix_cons_inj action |>.mpr initial,
          same⟩

/-- Where the client's loggers have one handler, it alone writes their records,
those that their logger and the handler let pass. -/
theorem written_of_client {handler : LogHandler} {record : LogRecord}
    {line : String} (one : logging.clientHandlers = [handler])
    (apart : logging.propagates = false)
    (client : isClientLogger record.logger = true)
    (formatted : record.line? marks handler.isJson = .ok line) :
    logging.written marks record =
      if LogLevel.notSet.number < record.level.number ∧
          (logging.effectiveLevel record.logger).number ≤ record.level.number ∧
          handler.level.number ≤ record.level.number then
        [line]
      else [] := by
  have reached : logging.handlers record.logger = [handler] := by
    simp [handlers, client, one, apart]
  have enabled : logging.isEnabled record.logger record.level = true ↔
      LogLevel.notSet.number < record.level.number ∧
        (logging.effectiveLevel record.logger).number ≤
          record.level.number := by
    simp [isEnabled]
  simp only [written, enabled, emission, takers, reached, List.filter_cons,
    List.filter_nil, decide_eq_true_eq, ← and_assoc]
  by_cases passes : LogLevel.notSet.number < record.level.number ∧
      (logging.effectiveLevel record.logger).number ≤ record.level.number
  · by_cases reaches : handler.level.number ≤ record.level.number <;>
      simp [passes, reaches, emit, formatted, Emission.behind, Emission.nothing]
  · rw [if_neg passes, if_neg (fun all => passes all.1)]

theorem length_emit_le (marks : LogMarks) (record : LogRecord)
    (handlers : List LogHandler) :
    (emit marks record handlers).lines.length ≤ handlers.length := by
  induction handlers with
  | nil => exact Nat.le_refl 0
  | cons handler rest ih =>
      rw [emit]
      split
      · exact Nat.succ_le_succ ih
      · exact Nat.le_succ_of_le ih
      · exact Nat.zero_le _

theorem length_written_le {record : LogRecord}
    (foreign : isClientLogger record.logger = false) :
    (logging.written marks record).length ≤ logging.rootHandlers.length := by
  have reached : logging.handlers record.logger = logging.rootHandlers := by
    simp [handlers, foreign]
  simp only [written, emission, takers, reached]
  split
  · exact Nat.le_trans (length_emit_le marks record _) (List.length_filter_le _ _)
  · exact Nat.zero_le _

/-- What is written in a history, and by logging as the history leaves it. -/
structure WritesOnce (marks : LogMarks) (actions : List LogAction)
    (logging : Logging) : Prop where
  /-- All that is written are the lines of the records, one record after the
  other, each as logging stands then. -/
  output : output marks initial actions =
    (journal initial actions).flatMap fun met => met.1.written marks met.2
  met : ∀ met ∈ journal initial actions,
    ∃ before, before <+: actions ∧ met.1 = initial.afterAll before
  /-- A record of the client's is written once or not at all. -/
  client : Sometime Completes initial actions →
    ∃ handler, logging.clientHandlers = [handler] ∧
      logging.propagates = false ∧
      ∀ record line, isClientLogger record.logger = true →
        record.line? marks handler.isJson = .ok line →
          logging.written marks record =
            if LogLevel.notSet.number < record.level.number ∧
                (logging.effectiveLevel record.logger).number ≤
                  record.level.number ∧
                handler.level.number ≤ record.level.number then
              [line]
            else []
  /-- Any other record is written at most once, and not without the root logger
  having been captured. -/
  foreign : ∀ record, isClientLogger record.logger = false →
    (logging.written marks record).length ≤ 1 ∧
      (¬Sometime Captures initial actions → logging.written marks record = [])
  skipped : Sometime Completes initial actions → ∀ environment,
    setUp environment false logging = .ok [] logging
  refused : ∀ environment force cause next,
    setUp environment force logging = .error cause next → next = logging

/-- Whatever happens to logging, every record is written once at most. -/
theorem afterAll_writesOnce (marks : LogMarks) (actions : List LogAction) :
    WritesOnce marks actions (initial.afterAll actions) := by
  have kept := afterAll_kept actions
  constructor
  · exact output_eq marks initial actions
  · exact fun met => journal_after
  · intro completed
    obtain ⟨handler, one⟩ := kept.clientHandler completed
    have apart := kept.propagates completed
    exact ⟨handler, one, apart, fun record line client formatted =>
      written_of_client one apart client formatted⟩
  · intro record foreign
    have bound : ((initial.afterAll actions).written marks record).length ≤
        (initial.afterAll actions).rootHandlers.length :=
      length_written_le foreign
    refine ⟨Nat.le_trans bound kept.rootHandlers, ?_⟩
    intro uncaptured
    rw [kept.uncaptured uncaptured] at bound
    exact List.eq_nil_of_length_eq_zero (Nat.le_zero.mp bound)
  · intro completed environment
    have way := setUp_settingUp environment false (initial.afterAll actions)
    have configured := kept.configured.mpr completed
    generalize setUp environment false (initial.afterAll actions) = outcome
      at way
    cases way with
    | skipped => rfl
    | refused due => cases due configured
    | done due => cases due configured
  · intro environment force cause next raised
    have way := setUp_settingUp environment force (initial.afterAll actions)
    rw [raised] at way
    cases way
    rfl

/-- The logger of the client and its handler let everything pass, and yet a
record that is of no level at all is not written. -/
theorem record_of_no_level_unwritten : ∃ logging record,
    logging = initial.afterAll [.setUp [("STOREFRONT_LOG_LEVEL", "NOTSET"),
      ("STOREFRONT_LOG_CAPTURE_ROOT", "1")] false] ∧
    Sometime Completes initial [.setUp [("STOREFRONT_LOG_LEVEL", "NOTSET"),
      ("STOREFRONT_LOG_CAPTURE_ROOT", "1")] false] ∧
    logging.clientHandlers = [⟨.notSet, false⟩] ∧
    record = (LogRequest.mk "storefront_access.t" .notSet "m" [] []
      .absent).record ∧
    isClientLogger record.logger = true ∧ record.message = some "m" ∧
    logging.effectiveLevel record.logger = record.level ∧
    (∀ marks, ∃ line, record.line? marks false = .ok line) ∧
    ∀ marks, logging.written marks record = [] := by
  refine ⟨_, _, rfl, .inl ?_, by decide +kernel, rfl, by decide +kernel,
    by decide +kernel, by decide +kernel, fun marks => ⟨_, rfl⟩, ?_⟩
  · have named : (NamedValue.ofName (Wishes.ofEnvironment
        [("STOREFRONT_LOG_LEVEL", "NOTSET"),
          ("STOREFRONT_LOG_CAPTURE_ROOT", "1")]).levelName).checked =
            .ok .notSet := by
      decide +kernel
    exact ⟨_, _, _, _, rfl, setUp_of_level (by decide) named⟩
  · intro marks
    exact if_neg (by decide +kernel)

end Logging

end AdminGate

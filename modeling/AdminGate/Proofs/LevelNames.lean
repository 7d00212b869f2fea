import AdminGate.Proofs.WrittenRecords

/-!
# Levels that logging is set up with

The environment names a level.  `Denotes` says which one each text stands for: the
standard names stand for theirs and everything else for `info`.  Logging is set up
with that level, whatever the text is, but for two names that belong to something
else than a level; these are refused and leave logging as it is.
-/

namespace AdminGate.Logging

variable {environment : Environment} {force : Bool} {logging : Logging} {name : String}
  {level : LogLevel}

def standardNames : List String :=
  ["DEBUG", "INFO", "WARNING", "WARN", "ERROR", "CRITICAL", "FATAL", "NOTSET"]

/-- The names that belong to something else than a level. -/
def foreignNames : List String := ["BASIC_FORMAT", "_STYLES"]

/-- The level that a text stands for. -/
inductive Denotes : String → LogLevel → Prop where
  | debug : Denotes "DEBUG" ⟨10⟩
  | info : Denotes "INFO" ⟨20⟩
  | warning : Denotes "WARNING" ⟨30⟩
  | warn : Denotes "WARN" ⟨30⟩
  | error : Denotes "ERROR" ⟨40⟩
  | critical : Denotes "CRITICAL" ⟨50⟩
  | fatal : Denotes "FATAL" ⟨50⟩
  | notSet : Denotes "NOTSET" ⟨0⟩
  | unknown {name : String} : name ∉ standardNames → Denotes name ⟨20⟩

/-- The level that the environment names, trimmed and in upper case. -/
def namedLevel (environment : Environment) : String :=
  Text.uppercased (Text.trimmed ((environment.lookup "STOREFRONT_LOG_LEVEL").getD "INFO"))

/-- The handler that an environment asks for, at a level. -/
def handlerAt (environment : Environment) (level : LogLevel) : LogHandler :=
  ⟨level, environment.switch "STOREFRONT_LOG_JSON" false⟩

/-! ## Names -/

theorem ofName?_denotes (name : String) :
    Denotes name ((LogLevel.ofName? name).getD .info) := by
  by_cases standard : name ∈ standardNames
  · simp only [standardNames, List.mem_cons, List.not_mem_nil, or_false] at standard
    rcases standard with rfl | rfl | rfl | rfl | rfl | rfl | rfl | rfl
    · exact .debug
    · exact .info
    · exact .warning
    · exact .warn
    · exact .error
    · exact .critical
    · exact .fatal
    · exact .notSet
  · have known : ∀ entry ∈ LogLevel.names, entry.1 ∈ standardNames := by decide
    have missing : LogLevel.ofName? name = none := by
      rw [LogLevel.ofName?, List.lookup_eq_none_iff]
      intro entry member
      exact bne_iff_ne.mpr fun same => standard (same ▸ known entry member)
    rw [missing]
    exact .unknown standard

theorem checked_ofName (free : name ∉ foreignNames) :
    ∃ level, Denotes name level ∧ (NamedValue.ofName name).checked = .ok level := by
  obtain ⟨format, styles⟩ : name ≠ "BASIC_FORMAT" ∧ name ≠ "_STYLES" := by
    simpa [foreignNames] using free
  refine ⟨_, ofName?_denotes name, ?_⟩
  rw [NamedValue.ofName, if_neg (by simpa using format), if_neg (by simpa using styles)]
  rfl

/-- An empty name counts as that of `info`, which it stands for anyway. -/
theorem levelName_ofEnvironment (environment : Environment) :
    (Wishes.ofEnvironment environment).levelName =
      if namedLevel environment = "" then "INFO" else namedLevel environment := by
  unfold Wishes.ofEnvironment namedLevel Environment.text
  generalize Text.uppercased _ = name
  by_cases empty : name = "" <;> simp [empty]

theorem exists_level (free : namedLevel environment ∉ foreignNames) :
    ∃ level, Denotes (namedLevel environment) level ∧
      (NamedValue.ofName (Wishes.ofEnvironment environment).levelName).checked =
        .ok level := by
  rw [levelName_ofEnvironment]
  split
  · rename_i empty
    rw [empty]
    exact ⟨⟨20⟩, .unknown (by decide), by decide⟩
  · exact checked_ofName free

theorem refusal_of_foreign (foreign : namedLevel environment ∈ foreignNames) :
    ∃ cause, (NamedValue.ofName
      (Wishes.ofEnvironment environment).levelName).checked = .error cause := by
  rw [levelName_ofEnvironment]
  simp only [foreignNames, List.mem_cons, List.not_mem_nil, or_false] at foreign
  rcases foreign with named | named <;> rw [named]
  · exact ⟨.templateName, by decide⟩
  · exact ⟨.styleTable, by decide⟩

/-! ## Setting up -/

/-- What setting logging up does about the level that the environment names. -/
structure SetsLevel (environment : Environment) (force : Bool) (logging : Logging) :
    Prop where
  skipped : logging.isConfigured = true → force = false →
    setUp environment force logging = .ok [] logging
  /-- Whatever else the name is, setting up goes through, and the client's logger and
  its handler have the level that the name stands for; so has the root logger if it is
  to have the same handler. -/
  done : (logging.isConfigured = true → force = true) →
    namedLevel environment ∉ foreignNames → ∃ level entries next,
      Denotes (namedLevel environment) level ∧
      setUp environment force logging = .ok entries next ∧
      next.isConfigured = true ∧ next.level = level ∧
      next.clientHandlers = [handlerAt environment level] ∧
      (environment.switch "STOREFRONT_LOG_CAPTURE_ROOT" false = true →
        next.rootLevel = level ∧ next.rootHandlers = [handlerAt environment level])
  refused : (logging.isConfigured = true → force = true) →
    namedLevel environment ∈ foreignNames → ∃ cause,
      setUp environment force logging = .error cause logging

/-- Logging is set up with the level that the environment names, `info` if it names
none, and is refused only where the name belongs to something else. -/
theorem setUp_setsLevel (environment : Environment) (force : Bool) (logging : Logging) :
    SetsLevel environment force logging := by
  constructor
  · intro configured unforced
    have way := setUp_settingUp environment force logging
    generalize setUp environment force logging = outcome at way
    cases way with
    | skipped => rfl
    | refused due | done due =>
        rw [due configured] at unforced
        cases unforced
  · intro due free
    obtain ⟨level, denotes, named⟩ := exists_level free
    refine ⟨level, _, _, denotes, setUp_of_level due named, rfl, rfl, rfl, ?_⟩
    intro captures
    have asked : (Wishes.ofEnvironment environment).capturesRoot = true := captures
    exact ⟨if_pos asked, if_pos asked⟩
  · intro due foreign
    obtain ⟨cause, refusal⟩ := refusal_of_foreign foreign
    exact ⟨cause, setUp_of_refusal due refusal⟩

/-- The name of the standard template is refused instead of counting as unknown. -/
theorem template_name_refused :
    namedLevel [("STOREFRONT_LOG_LEVEL", "BASIC_FORMAT")] ∉ standardNames ∧
      setUp [("STOREFRONT_LOG_LEVEL", "BASIC_FORMAT")] false initial =
        .error .templateName initial ∧
      ¬∀ environment force logging, ∃ entries next,
        setUp environment force logging = .ok entries next := by
  have refusal : (NamedValue.ofName (Wishes.ofEnvironment
      [("STOREFRONT_LOG_LEVEL", "BASIC_FORMAT")]).levelName).checked =
        .error .templateName := by
    decide +kernel
  have refused : setUp [("STOREFRONT_LOG_LEVEL", "BASIC_FORMAT")] false initial =
      .error .templateName initial :=
    setUp_of_refusal (by decide) refusal
  refine ⟨by decide +kernel, refused, fun completes => ?_⟩
  obtain ⟨entries, next, done⟩ :=
    completes [("STOREFRONT_LOG_LEVEL", "BASIC_FORMAT")] false initial
  rw [refused] at done
  cases done

end AdminGate.Logging

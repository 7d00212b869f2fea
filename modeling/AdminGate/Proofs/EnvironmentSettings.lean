import AdminGate.Proofs.BaseAddresses
import AdminGate.Proofs.IntegerTexts

/-!
# Settings from the environment

Whatever the variables of the environment hold, each setting is read from its own
one and is usable: the time limit lies within its bounds, endpoints are paths or
addresses, names are not blank and the locale is one of the catalogue.  A variable
that is unset or blank leaves its setting at the default, and a setting that is
written back to its variable is read as it was.  Of all variables only the one of
the base address can hold something that is refused.
-/

namespace AdminGate

namespace Settings

variable {environment : Environment} {settings : Settings} {text fallback : String}

/-! ## The readings of single settings -/

/-- A path, or the address of one. -/
structure IsEndpoint (text : String) : Prop where
  trimmed : Text.Trimmed text.toList
  filled : text ≠ ""
  start : ∃ start ∈ ["/", "http://", "https://"], start.toList <+: text.toList

/-- A name that is not blank and has no blanks around it. -/
structure IsName (text : String) : Prop where
  trimmed : Text.Trimmed text.toList
  filled : text ≠ ""

theorem trimmed_of_trimmed (trimmed : Text.Trimmed text.toList) :
    Text.trimmed text = text := by
  rw [Text.trimmed, Text.trim_eq_self trimmed, String.ofList_toList]

theorem starts_iff (text : List Char) :
    ("http://".toList.isPrefixOf text || "https://".toList.isPrefixOf text ||
        text.head? == some '/') = true ↔
      ∃ start ∈ ["/", "http://", "https://"], start.toList <+: text := by
  have slash : ['/'] <+: text ↔ text.head? = some '/' := by
    cases text <;> simp [List.cons_prefix_cons, eq_comm]
  simp [slash, or_comm, or_assoc]

theorem endpoint_isEndpoint (input : String) (standing : IsEndpoint fallback) :
    IsEndpoint (endpoint input fallback) := by
  have trimmed := Text.trimmed_trim input.toList
  unfold endpoint
  simp only [List.isEmpty_iff]
  split
  · exact standing
  · rename_i filled
    split
    · rename_i starts
      exact ⟨by simpa using trimmed, by simpa using filled,
        by simpa using (starts_iff _).mp starts⟩
    · refine ⟨?_, by simp, "/", by simp, by simp [List.cons_prefix_cons]⟩
      rw [String.toList_ofList]
      refine ⟨by simp; decide, fun last ends => trimmed.2 last ?_⟩
      rwa [List.getLast?_cons_of_ne_nil filled] at ends

theorem endpoint_self (stands : IsEndpoint text) : endpoint text fallback = text := by
  have starts := (starts_iff text.toList).mpr stands.start
  unfold endpoint
  simp only [Text.trim_eq_self stands.trimmed, List.isEmpty_iff, starts, if_true,
    String.toList_eq_nil_iff, stands.filled, if_false, String.ofList_toList]

theorem name_isName (input : String) (standing : IsName fallback) :
    IsName (name (Text.trimmed input) fallback) := by
  unfold name
  split
  · exact standing
  · rename_i filled
    refine ⟨?_, by simpa using filled⟩
    rw [Text.trimmed, String.toList_ofList]
    exact Text.trimmed_trim _

theorem name_self (stands : IsName text) : name text fallback = text := by
  rw [name, if_neg (by simpa using stands.filled)]

theorem ofLocale_tag (language : Language) :
    Language.ofLocale (Text.trimmed language.tag) = language := by
  cases language <;> decide

theorem integer?_trim (text : List Char) :
    integer? (Text.trim text) = integer? text := by
  rw [integer?, Text.trim_trim, ← integer?]

/-! ## The settings of an environment -/

/-- The endpoint that is read from what a variable holds. -/
def readEndpoint (fallback : String) (found : Option String) : String :=
  endpoint (Text.trimmed (found.getD "")) fallback

/-- The name that is read from what a variable holds. -/
def readName (fallback : String) (found : Option String) : String :=
  name (Text.trimmed (found.getD fallback)) fallback

/-- The locale that is read from what a variable holds. -/
def readLocale (found : Option String) : String :=
  (Language.ofLocale (Text.trimmed (found.getD standard.locale))).tag

theorem readEndpoint_isEndpoint (standing : IsEndpoint fallback)
    (found : Option String) : IsEndpoint (readEndpoint fallback found) :=
  endpoint_isEndpoint _ standing

theorem readName_isName (standing : IsName fallback) (found : Option String) :
    IsName (readName fallback found) :=
  name_isName _ standing

theorem readLocale_mem (found : Option String) :
    readLocale found ∈ Language.all.map Language.tag := by
  unfold readLocale
  cases Language.ofLocale (Text.trimmed (found.getD standard.locale)) <;> decide

/-- The time limit that is read from what a variable holds. -/
def readLimit (found : Option String) : Int :=
  min 600000 (max 1 ((found.bind fun text => integer? text.toList).getD
    standard.timeoutMs))

/-- The settings of an environment, each read from what its variable holds, with a
base address. -/
def readFrom (environment : Environment) (baseUrl : String) : Settings where
  baseUrl
  timeoutMs := readLimit (environment.lookup "STOREFRONT_REQUEST_TIMEOUT_MS")
  tokenEndpoint := readEndpoint standard.tokenEndpoint
    (environment.lookup "STOREFRONT_CSRF_ENDPOINT")
  identityEndpoint := readEndpoint standard.identityEndpoint
    (environment.lookup "STOREFRONT_IDENTITY_ENDPOINT")
  tokenCookie := readName standard.tokenCookie
    (environment.lookup "STOREFRONT_CSRF_COOKIE")
  tokenHeader := readName standard.tokenHeader
    (environment.lookup "STOREFRONT_CSRF_HEADER")
  locale := readLocale (environment.lookup "STOREFRONT_LOCALE")

theorem integer_eq_readLimit (environment : Environment) (name : String) :
    environment.integer name standard.timeoutMs (some timeoutBounds.1)
        (some timeoutBounds.2) = readLimit (environment.lookup name) := by
  unfold Environment.integer Environment.value readLimit
  cases environment.lookup name with
  | none => decide
  | some text =>
      rw [Lenient.integer, Json.cleaned_text, Text.trimmed, String.toList_ofList,
        integer?_trim]
      rfl

/-- The base address alone is judged; all else is read whatever it is. -/
theorem ofEnvironment?_eq (environment : Environment) :
    ofEnvironment? environment =
      (baseUrl? (givenAddress environment)).map (readFrom environment) := by
  have given : baseUrl? (environment.text "STOREFRONT_BASE_URL" standard.baseUrl) =
      baseUrl? (givenAddress environment) :=
    baseUrl?_congr (cleanAddress_trimmed _)
  unfold ofEnvironment? readFrom
  rw [given, integer_eq_readLimit]
  cases baseUrl? (givenAddress environment) <;> rfl

theorem ofEnvironment?_eq_ok_iff :
    ofEnvironment? environment = .ok settings ↔
      baseUrl? (givenAddress environment) = .ok settings.baseUrl ∧
        settings = readFrom environment settings.baseUrl := by
  rw [ofEnvironment?_eq]
  cases baseUrl? (givenAddress environment) with
  | error cause => simp [Except.map]
  | ok url =>
      simp only [Except.map, Except.ok.injEq]
      constructor
      · rintro rfl
        exact ⟨rfl, rfl⟩
      · rintro ⟨rfl, same⟩
        exact same.symm

theorem ofEnvironment?_eq_error_iff {cause : SettingsError} :
    ofEnvironment? environment = .error cause ↔
      Judged (givenAddress environment) (.error cause) := by
  rw [judged_iff, ofEnvironment?_eq]
  cases baseUrl? (givenAddress environment) <;> simp [Except.map]

/-! ## What the readings have in common -/

/-- A variable is not set, or it holds blanks alone. -/
def IsUnset (found : Option String) : Prop :=
  ∀ text ∈ found, Text.trimmed text = ""

/-- What a reading makes of what its variable holds: the default where nothing is
set, and the same as before from what it has given itself. -/
structure Reading {α : Type} (read : Option String → α) (standing : α)
    (written : α → String) : Prop where
  unset : ∀ found, IsUnset found → read found = standing
  again : ∀ found, read (some (written (read found))) = read found

theorem trimmed_getD_of_isUnset {found : Option String} (unset : IsUnset found)
    (fallback : String) :
    Text.trimmed (found.getD fallback) = Text.trimmed fallback ∨
      Text.trimmed (found.getD fallback) = "" := by
  cases found with
  | none => exact .inl rfl
  | some text => exact .inr (unset text rfl)

theorem endpoint_reading (standing : IsEndpoint fallback) :
    Reading (readEndpoint fallback) fallback id where
  unset := by
    intro found unset
    have blank : Text.trimmed (found.getD "") = "" :=
      (trimmed_getD_of_isUnset unset "").elim id id
    rw [readEndpoint, blank]
    rfl
  again := by
    intro found
    have read := readEndpoint_isEndpoint standing found
    rw [readEndpoint, Option.getD_some, id, trimmed_of_trimmed read.trimmed,
      endpoint_self read]

theorem name_reading (standing : IsName fallback) :
    Reading (readName fallback) fallback id where
  unset := by
    intro found unset
    rcases trimmed_getD_of_isUnset unset fallback with default | blank
    · rw [readName, default, trimmed_of_trimmed standing.trimmed,
        name_self standing]
    · rw [readName, blank]
      rfl
  again := by
    intro found
    have read := readName_isName standing found
    rw [readName, Option.getD_some, id, trimmed_of_trimmed read.trimmed,
      name_self read]

theorem locale_reading : Reading readLocale standard.locale id where
  unset := by
    intro found unset
    rcases trimmed_getD_of_isUnset unset standard.locale with default | blank
    · rw [readLocale, default]
      decide
    · rw [readLocale, blank]
      decide
  again := by
    intro found
    rw [readLocale, Option.getD_some, id, readLocale, ofLocale_tag]

theorem integer?_eq_none_of_blank {text : String} (blank : Text.trimmed text = "") :
    integer? text.toList = none := by
  have nothing : Text.trim text.toList = [] := by
    simpa [Text.trimmed] using blank
  rw [← integer?_trim, nothing]
  decide

theorem limit_reading : Reading readLimit standard.timeoutMs
    (fun limit => String.ofList (Text.integerText limit)) where
  unset := by
    intro found unset
    cases found with
    | none => decide
    | some text =>
        rw [readLimit, Option.bind_some, integer?_eq_none_of_blank (unset text rfl)]
        decide
  again := by
    intro found
    have bounds : 1 ≤ readLimit found ∧ readLimit found ≤ 600000 := by
      unfold readLimit
      omega
    generalize readLimit found = limit at bounds
    have short : (Text.naturalText limit.natAbs).length ≤ digitLimit :=
      (Nat.length_toDigits_le_iff (by decide) (by decide)).mpr
        (Nat.lt_of_le_of_lt (show limit.natAbs ≤ 600000 by omega)
          (by decide +kernel))
    rw [readLimit, Option.bind_some, String.toList_ofList,
      integer?_integerText short, Option.getD_some]
    omega

/-! ## Range and independence -/

/-- Settings that a client can work with. -/
structure InRange (settings : Settings) : Prop where
  timeoutMs : 1 ≤ settings.timeoutMs ∧ settings.timeoutMs ≤ 600000
  tokenEndpoint : IsEndpoint settings.tokenEndpoint
  identityEndpoint : IsEndpoint settings.identityEndpoint
  tokenCookie : IsName settings.tokenCookie
  tokenHeader : IsName settings.tokenHeader
  locale : settings.locale ∈ Language.all.map Language.tag

/-- The time limit that a text stands for: that of an integer without too many
digits, moved within the bounds, and the default for any other text. -/
inductive TimeLimit (found : Option String) : Int → Prop where
  | given {text : String} {digits : List Nat} {value : Int} : found = some text →
      IntegerText (Text.trim text.toList) digits value →
      digits.length ≤ digitLimit → TimeLimit found (min 600000 (max 1 value))
  | standing : (∀ text digits value, found = some text →
      IntegerText (Text.trim text.toList) digits value →
      digitLimit < digits.length) → TimeLimit found standard.timeoutMs

/-- A setting that depends on one variable alone, with its default where nothing is
set. -/
structure ReadsAlone {α : Type} (field : Settings → α) (name : String) : Prop where
  alone : ∀ {first second one two}, ofEnvironment? first = .ok one →
    ofEnvironment? second = .ok two → first.lookup name = second.lookup name →
      field one = field two
  unset : ∀ {environment settings}, ofEnvironment? environment = .ok settings →
    IsUnset (environment.lookup name) → field settings = field standard

/-- Written back to its variable, such a setting is read as it was. -/
structure ReadsBack {α : Type} (field : Settings → α) (name : String)
    (written : α → String) : Prop extends ReadsAlone field name where
  again : ∀ {first second one two}, ofEnvironment? first = .ok one →
    ofEnvironment? second = .ok two →
      second.lookup name = some (written (field one)) → field two = field one

/-- Every setting has a variable of its own. -/
structure ReadsEach : Prop where
  baseUrl : ReadsAlone (·.baseUrl) "STOREFRONT_BASE_URL"
  timeoutMs : ReadsBack (·.timeoutMs) "STOREFRONT_REQUEST_TIMEOUT_MS"
    fun limit => String.ofList (Text.integerText limit)
  tokenEndpoint : ReadsBack (·.tokenEndpoint) "STOREFRONT_CSRF_ENDPOINT" id
  identityEndpoint : ReadsBack (·.identityEndpoint)
    "STOREFRONT_IDENTITY_ENDPOINT" id
  tokenCookie : ReadsBack (·.tokenCookie) "STOREFRONT_CSRF_COOKIE" id
  tokenHeader : ReadsBack (·.tokenHeader) "STOREFRONT_CSRF_HEADER" id
  locale : ReadsBack (·.locale) "STOREFRONT_LOCALE" id

theorem standard_inRange : InRange standard where
  timeoutMs := by decide
  tokenEndpoint :=
    ⟨Text.trim_eq_self_iff.mp (by decide), by decide, "/", by decide, by decide⟩
  identityEndpoint :=
    ⟨Text.trim_eq_self_iff.mp (by decide), by decide, "/", by decide, by decide⟩
  tokenCookie := ⟨Text.trim_eq_self_iff.mp (by decide), by decide⟩
  tokenHeader := ⟨Text.trim_eq_self_iff.mp (by decide), by decide⟩
  locale := by decide

theorem readFrom_inRange (environment : Environment) (baseUrl : String) :
    InRange (readFrom environment baseUrl) := by
  constructor <;> simp only [readFrom]
  · unfold readLimit
    omega
  · exact readEndpoint_isEndpoint standard_inRange.tokenEndpoint _
  · exact readEndpoint_isEndpoint standard_inRange.identityEndpoint _
  · exact readName_isName standard_inRange.tokenCookie _
  · exact readName_isName standard_inRange.tokenHeader _
  · exact readLocale_mem _

theorem readLimit_timeLimit (found : Option String) :
    TimeLimit found (readLimit found) := by
  cases read : found.bind fun text => integer? text.toList with
  | some value =>
      obtain ⟨text, given, read⟩ := Option.bind_eq_some_iff.mp read
      obtain ⟨digits, spelled, short⟩ := integer?_eq_some_iff.mp read
      rw [readLimit, given, Option.bind_some, read]
      exact .given rfl spelled short
  | none =>
      rw [readLimit, read]
      refine .standing fun text digits value given spelled => ?_
      by_contra short
      have counted : integer? text.toList = some value :=
        integer?_eq_some_iff.mpr ⟨digits, spelled, Nat.le_of_not_lt short⟩
      rw [given, Option.bind_some, counted] at read
      cases read

theorem ReadsBack.of_reading {α : Type} {field : Settings → α} {name : String}
    {read : Option String → α} {written : α → String}
    (reading : Reading read (field standard) written)
    (reads : ∀ environment baseUrl,
      field (readFrom environment baseUrl) = read (environment.lookup name)) :
    ReadsBack field name written := by
  have readOf {environment : Environment} {settings : Settings}
      (configured : ofEnvironment? environment = .ok settings) :
      field settings = read (environment.lookup name) := by
    rw [(ofEnvironment?_eq_ok_iff.mp configured).2, reads]
  refine ⟨⟨fun one two same => ?_, fun configured unset => ?_⟩,
    fun one two back => ?_⟩
  · rw [readOf one, readOf two, same]
  · rw [readOf configured, reading.unset _ unset]
  · rw [readOf two, back, readOf one, reading.again]

theorem baseUrl_readsAlone : ReadsAlone (·.baseUrl) "STOREFRONT_BASE_URL" where
  alone := by
    intro first second one two fromFirst fromSecond same
    have given : givenAddress first = givenAddress second := by
      rw [givenAddress, givenAddress, same]
    have accepted := (ofEnvironment?_eq_ok_iff.mp fromFirst).1
    rw [given, (ofEnvironment?_eq_ok_iff.mp fromSecond).1] at accepted
    exact (Except.ok.inj accepted).symm
  unset := by
    intro environment settings configured unset
    have accepted := (ofEnvironment?_eq_ok_iff.mp configured).1
    unfold givenAddress at accepted
    rw [← baseUrl?_congr (cleanAddress_trimmed _)] at accepted
    rcases trimmed_getD_of_isUnset unset standard.baseUrl with default | blank
    · rw [default, baseUrl?_congr (cleanAddress_trimmed _), baseUrl?_standard]
        at accepted
      exact (Except.ok.inj accepted).symm
    · rw [blank] at accepted
      exact (Except.ok.inj accepted).symm

theorem readsEach : ReadsEach where
  baseUrl := baseUrl_readsAlone
  timeoutMs := .of_reading limit_reading fun _ _ => by simp only [readFrom]
  tokenEndpoint :=
    .of_reading (endpoint_reading standard_inRange.tokenEndpoint)
      fun _ _ => by simp only [readFrom]
  identityEndpoint :=
    .of_reading (endpoint_reading standard_inRange.identityEndpoint)
      fun _ _ => by simp only [readFrom]
  tokenCookie :=
    .of_reading (name_reading standard_inRange.tokenCookie)
      fun _ _ => by simp only [readFrom]
  tokenHeader :=
    .of_reading (name_reading standard_inRange.tokenHeader)
      fun _ _ => by simp only [readFrom]
  locale := .of_reading locale_reading fun _ _ => by simp only [readFrom]

/-- The settings that an environment gives are in range, each is read from a
variable of its own, and they are refused for the base address alone. -/
theorem ofEnvironment?_inRange
    (configured : ofEnvironment? environment = .ok settings) :
    InRange settings ∧
      TimeLimit (environment.lookup "STOREFRONT_REQUEST_TIMEOUT_MS")
        settings.timeoutMs ∧
      ReadsEach ∧
      ∀ other cause, ofEnvironment? other = .error cause ↔
        Judged (givenAddress other) (.error cause) := by
  rw [(ofEnvironment?_eq_ok_iff.mp configured).2]
  exact ⟨readFrom_inRange _ _, readLimit_timeLimit _, readsEach,
    fun _ _ => ofEnvironment?_eq_error_iff⟩

/-- A time limit in Arabic digits that is far too long, a path without its slash, a
blank name, and a locale of its own spelling. -/
theorem ofEnvironment?_inRange_unkempt :
    ofEnvironment? [("STOREFRONT_REQUEST_TIMEOUT_MS", " +٩٩٩_٩٩٩ "),
        ("STOREFRONT_CSRF_ENDPOINT", "\tapi/token "), ("STOREFRONT_CSRF_HEADER", "\u2003"),
        ("STOREFRONT_LOCALE", "ZH_Hant")] =
      .ok { standard with
        timeoutMs := 600000, tokenEndpoint := "/api/token", locale := "zh" } ∧
    InRange { standard with
      timeoutMs := 600000, tokenEndpoint := "/api/token", locale := "zh" } ∧
    TimeLimit (some " +٩٩٩_٩٩٩ ") 600000 ∧
    ReadsEach ∧
    ∀ other cause, ofEnvironment? other = .error cause ↔
      Judged (givenAddress other) (.error cause) := by
  have configured : ofEnvironment?
      [("STOREFRONT_REQUEST_TIMEOUT_MS", " +٩٩٩_٩٩٩ "),
        ("STOREFRONT_CSRF_ENDPOINT", "\tapi/token "), ("STOREFRONT_CSRF_HEADER", "\u2003"),
        ("STOREFRONT_LOCALE", "ZH_Hant")] =
      .ok { standard with
        timeoutMs := 600000, tokenEndpoint := "/api/token", locale := "zh" } := by
    decide +kernel
  exact ⟨configured, ofEnvironment?_inRange configured⟩

end Settings

end AdminGate

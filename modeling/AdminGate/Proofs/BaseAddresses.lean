import Mathlib.Data.List.DropRight
import AdminGate.Proofs.NetworkLocations
import AdminGate.Proofs.Trimming
import AdminGate.Settings.Basic

/-!
# Base addresses

A text that is given as base address is cleaned, blanks at both ends first and
slashes at the end after that, and then judged.  What is accepted is an absolute
web address, the standard one for a blank text.  As the slashes go last, a blank
in front of them stays at the end: such an address is accepted, but it is not in
normal form, and judging it again leads elsewhere.
-/

namespace AdminGate.Settings

open Http (Splittable WebAddress checkLocation locationOf schemeOf)

variable {input url : String}

/-! ## Cleaning -/

/-- A text without blanks around it, and then without slashes at its end. -/
def cleanAddress (input : String) : List Char :=
  (Text.trim input.toList).rdropWhile (· == '/')

/-- In the trimmed text nothing but slashes stands behind some blank. -/
def SlashedBlank (input : String) : Prop :=
  ∃ front blank slashes, Text.trim input.toList = front ++ blank :: slashes ∧
    Text.isBlank blank = true ∧ ∀ slash ∈ slashes, slash = '/'

theorem cleanAddress_trimmed (input : String) :
    cleanAddress (Text.trimmed input) = cleanAddress input := by
  rw [cleanAddress, Text.trimmed, String.toList_ofList, Text.trim_trim,
    cleanAddress]

theorem head?_cleanAddress (input : String) :
    ∀ first ∈ (cleanAddress input).head?, Text.isBlank first = false := by
  intro first starts
  have front : cleanAddress input <+: Text.trim input.toList :=
    List.rdropWhile_prefix _ _
  obtain ⟨slashes, whole⟩ := front
  apply (Text.trimmed_trim input.toList).1
  rw [← whole, List.head?_append, starts, Option.some_or]
  rfl

theorem getLast?_cleanAddress (input : String) :
    (cleanAddress input).getLast? ≠ some '/' := by
  intro ends
  have filled : cleanAddress input ≠ [] := by
    intro missing
    rw [missing] at ends
    cases ends
  rw [List.getLast?_eq_some_getLast filled] at ends
  exact List.rdropWhile_last_not _ _ filled
    (beq_iff_eq.mpr (Option.some.inj ends))

/-- A blank is left at the end exactly when slashes have stood behind it. -/
theorem ends_blank_iff (input : String) :
    (∃ last ∈ (cleanAddress input).getLast?, Text.isBlank last = true) ↔
      SlashedBlank input := by
  constructor
  · rintro ⟨last, ends, blank⟩
    obtain ⟨front, clean⟩ := List.getLast?_eq_some_iff.mp ends
    refine ⟨front, last, (Text.trim input.toList).rtakeWhile (· == '/'), ?_, blank,
      ?_⟩
    · rw [List.append_cons, ← clean]
      exact List.rdropWhile_append_rtakeWhile.symm
    · intro slash member
      exact beq_iff_eq.mp (List.mem_rtakeWhile_imp (p := (· == '/')) member)
  · rintro ⟨front, blank, slashes, whole, isBlank, dropped⟩
    have inked : ¬(blank == '/') = true := by
      rintro slash
      rw [beq_iff_eq.mp slash] at isBlank
      exact absurd isBlank (by decide)
    have clean : cleanAddress input = front ++ [blank] := by
      rw [cleanAddress, whole, List.append_cons,
        Text.rdropWhile_append_of_pos (by simpa using dropped),
        List.rdropWhile_concat_neg (· == '/') front blank inked]
    exact ⟨blank, by simp [clean], isBlank⟩

/-- A text is clean already when there is neither a blank at one of its ends nor a
slash at the last one. -/
theorem cleanAddress_eq_self_iff :
    cleanAddress input = input.toList ↔
      Text.Trimmed input.toList ∧ input.toList.getLast? ≠ some '/' := by
  constructor
  · intro clean
    have unslashed := getLast?_cleanAddress input
    rw [clean] at unslashed
    have within : (cleanAddress input).Sublist (Text.trim input.toList) :=
      (List.rdropWhile_prefix _ _).sublist
    rw [clean] at within
    exact ⟨Text.trim_eq_self_iff.mp ((Text.trim_sublist _).antisymm within),
      unslashed⟩
  · rintro ⟨trimmed, unslashed⟩
    rw [cleanAddress, Text.trim_eq_self trimmed, List.rdropWhile_eq_self_iff]
    intro filled slash
    apply unslashed
    rw [List.getLast?_eq_some_getLast filled, beq_iff_eq.mp slash]

/-! ## Judging -/

/-- What becomes of a text that is given as base address. -/
inductive Judged (input : String) : Except SettingsError String → Prop where
  | blank : cleanAddress input = [] → Judged input (.ok standard.baseUrl)
  | accepted : WebAddress (cleanAddress input) (locationOf (cleanAddress input)) →
      Splittable (locationOf (cleanAddress input)) →
      Judged input (.ok (String.ofList (cleanAddress input)))
  | notAbsolute : cleanAddress input ≠ [] →
      ¬WebAddress (cleanAddress input) (locationOf (cleanAddress input)) →
      Splittable (locationOf (cleanAddress input)) →
      Judged input (.error .notAbsolute)
  | malformed {cause : Http.SplitError} :
      checkLocation (locationOf (cleanAddress input)) = .error cause →
      Judged input (.error (.malformed cause))

theorem baseUrl?_congr {other : String}
    (same : cleanAddress input = cleanAddress other) :
    baseUrl? input = baseUrl? other := by
  unfold cleanAddress List.rdropWhile at same
  unfold baseUrl?
  rw [same]

theorem webAddress_iff_parts {text : List Char} {parts : Http.SplitAddress}
    (scheme : parts.scheme = schemeOf text) (netloc : parts.netloc = locationOf text) :
    ((parts.scheme == "http".toList || parts.scheme == "https".toList) &&
        !parts.netloc.isEmpty) = true ↔ WebAddress text (locationOf text) := by
  rw [Http.webAddress_iff, ← scheme, ← netloc, Bool.and_eq_true, Bool.or_eq_true,
    beq_iff_eq, beq_iff_eq, Bool.not_eq_true', List.isEmpty_eq_false_iff]
  exact and_congr_right fun _ => (and_iff_right rfl).symm

theorem baseUrl?_judged (input : String) : Judged input (baseUrl? input) := by
  have clean : ((Text.trim input.toList).reverse.dropWhile (· == '/')).reverse =
      cleanAddress input := rfl
  unfold baseUrl?
  simp only [clean]
  split
  · rename_i blank
    exact .blank (List.isEmpty_iff.mp blank)
  · rename_i filled
    rw [List.isEmpty_iff] at filled
    rcases Http.splitAddress_cases (cleanAddress input) with
      ⟨cause, refused, parts⟩ | ⟨checked, parts, found, scheme, netloc⟩
    · simp only [parts]
      exact .malformed refused
    · have accepts := webAddress_iff_parts scheme netloc
      have passes := Http.checkLocation_eq_ok_iff.mp checked
      simp only [found]
      split
      · rename_i web
        exact .accepted (accepts.mp web) passes
      · rename_i other
        exact .notAbsolute filled (fun web => other (accepts.mpr web)) passes

theorem locationOf_nil : locationOf [] = [] := rfl

theorem Judged.unique {first second : Except SettingsError String}
    (one : Judged input first) (other : Judged input second) : first = second := by
  -- Only the blank text is not told from the others by what its case demands: it has
  -- no network location at all.
  have blank_unlocated (blank : cleanAddress input = []) :
      locationOf (cleanAddress input) = [] := by
    rw [blank, locationOf_nil]
  cases one with
  | blank nothing =>
      cases other with
      | blank => rfl
      | accepted web => exact absurd (blank_unlocated nothing) web.filled
      | notAbsolute filled => exact absurd nothing filled
      | malformed refused =>
          rw [blank_unlocated nothing] at refused
          cases refused
  | accepted web passes =>
      cases other with
      | blank nothing => exact absurd (blank_unlocated nothing) web.filled
      | accepted => rfl
      | notAbsolute _ other => exact absurd web other
      | malformed refused => exact absurd passes (Http.not_splittable_of_error refused)
  | notAbsolute filled relative passes =>
      cases other with
      | blank nothing => exact absurd nothing filled
      | accepted web => exact absurd web relative
      | notAbsolute => rfl
      | malformed refused => exact absurd passes (Http.not_splittable_of_error refused)
  | malformed refused =>
      cases other with
      | blank nothing =>
          rw [blank_unlocated nothing] at refused
          cases refused
      | accepted _ passes | notAbsolute _ _ passes =>
          exact absurd passes (Http.not_splittable_of_error refused)
      | malformed again =>
          rw [refused] at again
          cases again
          rfl

theorem judged_iff {judged : Except SettingsError String} :
    Judged input judged ↔ baseUrl? input = judged :=
  ⟨(baseUrl?_judged input).unique, fun same => same ▸ baseUrl?_judged input⟩

/-- What is accepted is the clean text, or the standard address if that is empty. -/
theorem Judged.clean (judged : Judged input (.ok url)) :
    (cleanAddress input = [] ∧ url = standard.baseUrl) ∨
      url.toList = cleanAddress input := by
  cases judged with
  | blank nothing => exact .inl ⟨nothing, rfl⟩
  | accepted => exact .inr String.toList_ofList

theorem Judged.webAddress (judged : Judged input (.ok url)) :
    ∃ location, WebAddress url.toList location := by
  cases judged with
  | blank =>
      have undivided : "localhost:8080".toList.all (!Http.endsNetloc ·) = true := by
        decide
      refine ⟨"localhost:8080".toList, ⟨"http".toList, [], ?_, .inl rfl, nofun⟩,
        by decide, by simpa using undivided⟩
      decide +kernel
  | accepted web =>
      rw [String.toList_ofList]
      exact ⟨_, web⟩

theorem malformed_iff :
    (∃ cause, Judged input (.error (.malformed cause))) ↔
      ¬Splittable (locationOf (cleanAddress input)) := by
  constructor
  · rintro ⟨cause, judged⟩
    cases judged with
    | malformed refused => exact Http.not_splittable_of_error refused
  · intro bars
    cases checked : checkLocation (locationOf (cleanAddress input)) with
    | error cause => exact ⟨cause, .malformed checked⟩
    | ok => exact absurd (Http.checkLocation_eq_ok_iff.mp checked) bars

/-! ## Addresses from the environment and in place of another one -/

/-- The text that an environment gives as base address. -/
def givenAddress (environment : Environment) : String :=
  (environment.lookup "STOREFRONT_BASE_URL").getD standard.baseUrl

theorem baseUrl_ofEnvironment? (environment : Environment) :
    (ofEnvironment? environment).map (·.baseUrl) =
      baseUrl? (givenAddress environment) := by
  have given : baseUrl? (environment.text "STOREFRONT_BASE_URL" standard.baseUrl) =
      baseUrl? (givenAddress environment) :=
    baseUrl?_congr (cleanAddress_trimmed _)
  unfold ofEnvironment?
  rw [given]
  cases baseUrl? (givenAddress environment) <;> rfl

theorem withBaseUrl?_eq (settings : Settings) (input : String) :
    settings.withBaseUrl? input =
      (baseUrl? input).map fun baseUrl => { settings with baseUrl } := by
  unfold withBaseUrl?
  cases baseUrl? input <;> rfl

theorem baseUrl_withBaseUrl? (settings : Settings) (input : String) :
    (settings.withBaseUrl? input).map (·.baseUrl) = baseUrl? input := by
  rw [withBaseUrl?_eq]
  cases baseUrl? input <;> rfl

theorem withBaseUrl?_self_iff {settings : Settings} :
    settings.withBaseUrl? settings.baseUrl = .ok settings ↔
      baseUrl? settings.baseUrl = .ok settings.baseUrl := by
  rw [withBaseUrl?_eq]
  cases baseUrl? settings.baseUrl with
  | error cause => exact ⟨nofun, nofun⟩
  | ok url =>
      constructor
      · intro same
        exact congrArg (Except.map (·.baseUrl)) same
      · intro same
        rw [Except.ok.inj same]
        rfl

/-- What is made of a text that is given as base address, wherever it is given. -/
structure JudgesAddress (environment : Environment) (settings : Settings)
    (input : String) : Prop where
  fromEnvironment : environment.lookup "STOREFRONT_BASE_URL" = some input →
    Judged input ((ofEnvironment? environment).map (·.baseUrl))
  override : Judged input ((settings.withBaseUrl? input).map (·.baseUrl))
  /-- No text is judged in two ways. -/
  unique : ∀ first second, Judged input first → Judged input second → first = second
  absolute : ∀ url, Judged input (.ok url) → ∃ location, WebAddress url.toList location
  malformed : (∃ cause, Judged input (.error (.malformed cause))) ↔
    ¬Splittable (locationOf (cleanAddress input))

theorem givenAddress_of_lookup {environment : Environment}
    (given : environment.lookup "STOREFRONT_BASE_URL" = some input) :
    givenAddress environment = input := by
  rw [givenAddress, given, Option.getD_some]

theorem judgesAddress (environment : Environment) (settings : Settings)
    (input : String) : JudgesAddress environment settings input where
  fromEnvironment := by
    intro given
    rw [baseUrl_ofEnvironment?, givenAddress_of_lookup given]
    exact baseUrl?_judged input
  override := by
    rw [baseUrl_withBaseUrl?]
    exact baseUrl?_judged input
  unique := fun _ _ => Judged.unique
  absolute := fun _ => Judged.webAddress
  malformed := malformed_iff

/-! ## Normal forms -/

theorem cleanAddress_standard :
    cleanAddress standard.baseUrl = standard.baseUrl.toList := by
  decide +kernel

theorem baseUrl?_standard : baseUrl? standard.baseUrl = .ok standard.baseUrl := by
  decide +kernel

theorem clean_of_accepted (accepted : baseUrl? input = .ok url) :
    (cleanAddress input = [] ∧ url = standard.baseUrl) ∨
      url.toList = cleanAddress input :=
  (judged_iff.mpr accepted).clean

theorem accepted_form (accepted : baseUrl? input = .ok url) :
    url.toList.getLast? ≠ some '/' ∧
      ∀ first ∈ url.toList.head?, Text.isBlank first = false := by
  rcases clean_of_accepted accepted with ⟨_, rfl⟩ | clean
  · obtain ⟨trimmed, unslashed⟩ := cleanAddress_eq_self_iff.mp cleanAddress_standard
    exact ⟨unslashed, trimmed.1⟩
  · rw [clean]
    exact ⟨getLast?_cleanAddress input, head?_cleanAddress input⟩

theorem accepted_inked_iff (accepted : baseUrl? input = .ok url) :
    (∀ last ∈ url.toList.getLast?, Text.isBlank last = false) ↔
      ¬SlashedBlank input := by
  rw [← ends_blank_iff]
  rcases clean_of_accepted accepted with ⟨blank, rfl⟩ | clean
  · have inked := (cleanAddress_eq_self_iff.mp cleanAddress_standard).1.2
    exact ⟨fun _ ⟨_, ends, _⟩ => by simp [blank] at ends, fun _ => inked⟩
  · simp [clean]

/-- An accepted address stays as it is when it is judged again, unless it ends
with a blank. -/
theorem baseUrl?_self_iff (accepted : baseUrl? input = .ok url) :
    baseUrl? url = .ok url ↔ ¬SlashedBlank input := by
  rw [← accepted_inked_iff accepted]
  constructor
  · intro again
    rcases clean_of_accepted again with ⟨_, rfl⟩ | clean
    · exact (cleanAddress_eq_self_iff.mp cleanAddress_standard).1.2
    · exact (cleanAddress_eq_self_iff.mp clean.symm).1.2
  · intro inked
    -- With no blank at its end either, the address is clean, and it is judged by what
    -- the text was judged by.
    obtain ⟨unslashed, unindented⟩ := accepted_form accepted
    have again : cleanAddress url = url.toList :=
      cleanAddress_eq_self_iff.mpr ⟨⟨unindented, inked⟩, unslashed⟩
    rcases clean_of_accepted accepted with ⟨_, rfl⟩ | clean
    · exact baseUrl?_standard
    · rw [baseUrl?_congr (again.trans clean), accepted]

/-- The texts that lead to settings, from the environment or in place of another
address. -/
inductive Accepts (input : String) : Settings → Prop where
  | environment {environment : Environment} {settings : Settings} :
      environment.lookup "STOREFRONT_BASE_URL" = some input →
      ofEnvironment? environment = .ok settings → Accepts input settings
  | override {before settings : Settings} :
      before.withBaseUrl? input = .ok settings → Accepts input settings

theorem Accepts.accepted {settings : Settings} (accepts : Accepts input settings) :
    baseUrl? input = .ok settings.baseUrl := by
  cases accepts with
  | environment given configured =>
      rw [← givenAddress_of_lookup given, ← baseUrl_ofEnvironment?, configured]
      rfl
  | override changed =>
      rw [← baseUrl_withBaseUrl?, changed]
      rfl

/-- What the base address that was made of a text looks like, and what becomes of
it when it is given again. -/
structure NormalForm (input : String) (settings : Settings) : Prop where
  unslashed : settings.baseUrl.toList.getLast? ≠ some '/'
  unindented : ∀ first ∈ settings.baseUrl.toList.head?, Text.isBlank first = false
  inked : (∀ last ∈ settings.baseUrl.toList.getLast?, Text.isBlank last = false) ↔
    ¬SlashedBlank input
  overrides : settings.withBaseUrl? settings.baseUrl = .ok settings ↔
    ¬SlashedBlank input
  rereads : ∀ environment : Environment,
    environment.lookup "STOREFRONT_BASE_URL" = some settings.baseUrl →
      ((ofEnvironment? environment).map (·.baseUrl) = .ok settings.baseUrl ↔
        ¬SlashedBlank input)

/-- A base address has no slash at its end and no blank at its start.  It has no
blank at its end either, and stays the same when it is given again, exactly when no
slashes alone stood behind a blank. -/
theorem baseUrl_normalForm {settings : Settings} (accepts : Accepts input settings) :
    NormalForm input settings := by
  obtain ⟨unslashed, unindented⟩ := accepted_form accepts.accepted
  refine ⟨unslashed, unindented, accepted_inked_iff accepts.accepted, ?_, ?_⟩
  · rw [withBaseUrl?_self_iff, baseUrl?_self_iff accepts.accepted]
  · intro environment given
    rw [baseUrl_ofEnvironment?, givenAddress_of_lookup given,
      baseUrl?_self_iff accepts.accepted]

/-- Blanks of several kinds and slashes around an address are lost. -/
theorem baseUrl_normalForm_padded :
    Accepts "\u2003 http://h/a//\n" { standard with baseUrl := "http://h/a" } ∧
      NormalForm "\u2003 http://h/a//\n" { standard with baseUrl := "http://h/a" } := by
  have cleaned : standard.withBaseUrl? "\u2003 http://h/a//\n" =
      .ok { standard with baseUrl := "http://h/a" } := by
    decide +kernel
  exact ⟨.override cleaned, baseUrl_normalForm (.override cleaned)⟩

/-- A blank in front of the last slash stays at the end, and the address is another
one when it is given again. -/
theorem blank_before_slash_stays :
    ¬∀ (input : String) (settings : Settings), Accepts input settings →
      (∀ last ∈ settings.baseUrl.toList.getLast?, Text.isBlank last = false) ∧
        settings.withBaseUrl? settings.baseUrl = .ok settings := by
  intro keeps
  have accepts : standard.withBaseUrl? "http://h /" =
      .ok { standard with baseUrl := "http://h " } := by
    decide +kernel
  have changed : { standard with baseUrl := "http://h " }.withBaseUrl? "http://h " =
      .ok { standard with baseUrl := "http://h" } := by
    decide +kernel
  have same := Except.ok.inj ((keeps _ _ (.override accepts)).2.symm.trans changed)
  exact absurd (congrArg Settings.baseUrl same) (by decide)

/-- Such an address can even be refused when it is given again. -/
example : baseUrl? "http:// /" = .ok "http:// " ∧
    baseUrl? "http:// " = .error .notAbsolute := by
  decide +kernel

end AdminGate.Settings

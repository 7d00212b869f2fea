import AdminGate.Client.Answer
import AdminGate.Proofs.Trimming
import AdminGate.Text.Ascii

/-!
# Where the error text of an answer comes from

An answer can say in three places what went wrong: in its error, in the message
of its error, and in its detail.  The error text is the first of these texts that
is not blank, with one exception.  When something stands before the detail that
counts as true and yet is no text to show, the detail is not looked at: the
answer then says nothing, and it does not turn a token down.
-/

namespace AdminGate

namespace Answer

def textUnder? (fields : Fields) (name : String) : Option String :=
  (fields.get? name).bind Json.text?

/-- The texts in which an answer can say what went wrong, in the order in which
they count: its error, the message of its error, its detail. -/
def errorTexts (answer : Fields) : List String :=
  (textUnder? answer "error").toList ++
    (((answer.get? "error").bind Json.fields?).bind
      (textUnder? · "message")).toList ++
    (textUnder? answer "detail").toList

/-- The first of them that is not blank, trimmed; blank when all are. -/
def firstErrorText (answer : Fields) : String :=
  (((errorTexts answer).map Text.trimmed).find? (· ≠ "")).getD ""

/-- What stands before the detail: the error, or its message when it is an
object. -/
def shownError (answer : Fields) : Json :=
  match answer.get? "error" with
  | some (.object error) => (Assoc.get? error "message").getD .null
  | some error => error
  | none => .null

/-- What stands before the detail counts as true, and is no text or a blank
one. -/
structure Obscured (answer : Fields) : Prop where
  truthy : (shownError answer).isTruthy = true
  unworded : ∀ text, shownError answer = .text text → Text.trimmed text = ""

variable {answer : Fields} {text : String}

/-! ## The places in their order -/

theorem textUnder?_eq_some_iff {fields : Fields} {name : String} :
    textUnder? fields name = some text ↔
      fields.get? name = some (.text text) := by
  unfold textUnder?
  cases fields.get? name with
  | none => simp
  | some value => cases value <;> simp [Json.text?]

theorem firstErrorText_eq_empty_iff (answer : Fields) :
    firstErrorText answer = "" ↔
      ∀ text ∈ errorTexts answer, Text.trimmed text = "" := by
  have unfound : firstErrorText answer = "" ↔
      ((errorTexts answer).map Text.trimmed).find? (· ≠ "") = none := by
    unfold firstErrorText
    cases found : ((errorTexts answer).map Text.trimmed).find? (· ≠ "") with
    | none => simp
    | some text =>
        have worded := List.find?_some found
        simpa using worded
  rw [unfound]
  simp

theorem errorTexts_eq (answer : Fields) :
    errorTexts answer =
      (shownError answer).text?.toList ++
        (textUnder? answer "detail").toList := by
  unfold errorTexts
  congr 1
  unfold shownError textUnder?
  cases answer.get? "error" with
  | none => rfl
  | some error =>
      cases error with
      | object fields =>
          -- An object is no text itself; its message takes its place.
          simp only [Option.bind_some, Json.text?, Json.fields?,
            Option.toList_none, List.nil_append]
          cases Assoc.get? fields "message" <;> rfl
      | _ => rfl

theorem rawError_of_detail {detail : String}
    (given : answer.get? "detail" = some (.text detail)) :
    rawError answer =
      if (shownError answer).isTruthy then shownError answer
      else .text detail := by
  unfold rawError shownError
  rw [given]
  cases answer.get? "error" with
  | none => rfl
  | some error => cases error <;> rfl

theorem rawError_of_no_detail
    (missing : ∀ detail, answer.get? "detail" ≠ some (.text detail)) :
    rawError answer = shownError answer := by
  unfold rawError shownError
  -- By `missing` the look at the detail takes its second branch.
  simp only []
  cases answer.get? "error" with
  | none => rfl
  | some error => cases error <;> rfl

/-- The detail is looked at when nothing that counts as true stands before it. -/
theorem rawError_eq (answer : Fields) :
    rawError answer =
      if (shownError answer).isTruthy then shownError answer
      else ((textUnder? answer "detail").map Json.text).getD
        (shownError answer) := by
  cases given : textUnder? answer "detail" with
  | some detail => exact rawError_of_detail (textUnder?_eq_some_iff.mp given)
  | none =>
      have missing : ∀ detail, answer.get? "detail" ≠ some (.text detail) := by
        intro detail found
        rw [textUnder?_eq_some_iff.mpr found] at given
        cases given
      simp [rawError_of_no_detail missing]

/-- A text that is not blank is the first one, wherever it stands before the
detail. -/
theorem firstErrorText_of_worded (shown : shownError answer = .text text)
    (worded : Text.trimmed text ≠ "") :
    firstErrorText answer = Text.trimmed text := by
  rw [firstErrorText, errorTexts_eq, shown]
  simp [Json.text?, worded]

theorem firstErrorText_of_unworded
    (unworded : ∀ text, shownError answer = .text text →
      Text.trimmed text = "") :
    firstErrorText answer =
      ((textUnder? answer "detail").map Text.trimmed).getD "" := by
  have passed : (shownError answer).text?.toList.map Text.trimmed =
      List.replicate (shownError answer).text?.toList.length "" := by
    cases shown : shownError answer with
    | text text => simp [Json.text?, unworded text shown]
    | _ => rfl
  have skipped (count : Nat) (texts : List String) :
      (List.replicate count "" ++ texts).find? (· ≠ "") =
        texts.find? (· ≠ "") := by
    simp
  rw [firstErrorText, errorTexts_eq, List.map_append, passed, skipped]
  cases textUnder? answer "detail" with
  | none => rfl
  | some detail =>
      by_cases blank : Text.trimmed detail = "" <;> simp [blank]

theorem errorText_eq (answer : Fields) :
    errorText answer =
      ((rawError answer).text?.map Text.trimmed).getD "" := by
  unfold errorText
  cases rawError answer <;> rfl

theorem errorText_of_obscured (obscured : Obscured answer) :
    errorText answer = "" := by
  rw [errorText_eq, rawError_eq, if_pos obscured.truthy]
  cases shown : shownError answer with
  | text text => exact obscured.unworded text shown
  | _ => rfl

theorem errorText_of_not_obscured (clear : ¬Obscured answer) :
    errorText answer = firstErrorText answer := by
  rw [errorText_eq, rawError_eq]
  by_cases truthy : (shownError answer).isTruthy = true
  · have worded : ∃ text, shownError answer = .text text ∧
        Text.trimmed text ≠ "" := by
      by_contra unworded
      exact clear ⟨truthy, fun text shown =>
        Classical.byContradiction fun worded => unworded ⟨text, shown, worded⟩⟩
    obtain ⟨text, shown, worded⟩ := worded
    rw [if_pos truthy, firstErrorText_of_worded shown worded, shown]
    rfl
  · have unworded : ∀ text, shownError answer = .text text →
        Text.trimmed text = "" := by
      intro text shown
      rw [shown] at truthy
      have empty : text = "" := by simpa [Json.isTruthy] using truthy
      rw [empty]
      decide
    rw [if_neg truthy, firstErrorText_of_unworded unworded]
    cases textUnder? answer "detail" with
    | some detail => rfl
    | none =>
        cases shown : shownError answer with
        | text text => exact unworded text shown
        | _ => rfl

/-- What gets lost is the detail, if what stands before it obscures it. -/
theorem lost_iff (answer : Fields) :
    errorText answer ≠ firstErrorText answer ↔
      Obscured answer ∧ ∃ detail, answer.get? "detail" = some (.text detail) ∧
        Text.trimmed detail ≠ "" := by
  by_cases obscured : Obscured answer
  · rw [errorText_of_obscured obscured,
      firstErrorText_of_unworded obscured.unworded]
    simp only [obscured, true_and, ← textUnder?_eq_some_iff]
    cases textUnder? answer "detail" with
    | none => simp
    | some detail =>
        constructor
        · intro lost
          exact ⟨detail, rfl, Ne.symm lost⟩
        · rintro ⟨_, same, worded⟩
          cases same
          exact Ne.symm worded
  · simp [obscured, errorText_of_not_obscured obscured]

/-! ## Turning a token down -/

theorem holds_iff_infix (part text : List Char) :
    holds part text = true ↔ part <:+: text := by
  induction text with
  | nil => simp [holds]
  | cons first rest ih =>
      rw [holds, Bool.or_eq_true, List.isPrefixOf_iff_prefix, ih,
        List.infix_cons_iff]

theorem isRejection_iff (status : Int) (answer : Fields) :
    isRejection status answer = true ↔
      status = 403 ∧
        "csrf".toList <:+: Text.lower (errorText answer).toList := by
  rw [isRejection, Bool.and_eq_true, beq_iff_eq, holds_iff_infix]
  rfl

/-- Any way to write the word makes it the word in lower case. -/
theorem infix_lower_of_spelling {spelling text : List Char}
    (spells : spelling.map Char.toLower = "csrf".toList)
    (inside : spelling <:+: text) : "csrf".toList <:+: Text.lower text := by
  have ascii : ∀ character ∈ spelling, character.toNat < 128 := by
    intro character member
    have small : "csrf".toList.all Text.isAscii = true := by decide
    rw [← spells] at small
    have ascii := List.all_eq_true.mp small _ (List.mem_map_of_mem member)
    exact Text.lt_of_toLower_lt (by simpa [Text.isAscii] using ascii)
  rw [← spells]
  exact Text.lower_ascii_infix ascii inside

/-- What an answer tells of its error. -/
structure TellsError (answer : Fields) : Prop where
  clear : ¬Obscured answer → errorText answer = firstErrorText answer
  obscured : Obscured answer → errorText answer = ""
  silent : errorText answer = "" ↔
    Obscured answer ∨ ∀ text ∈ errorTexts answer, Text.trimmed text = ""
  /-- Nothing but the detail gets lost, and only if something obscures it. -/
  lost : errorText answer ≠ firstErrorText answer ↔
    Obscured answer ∧ ∃ detail, answer.get? "detail" = some (.text detail) ∧
      Text.trimmed detail ≠ ""
  rejects : ∀ status, isRejection status answer = true ↔
    status = 403 ∧ ¬Obscured answer ∧
      "csrf".toList <:+: Text.lower (firstErrorText answer).toList
  /-- In whatever letters the first text has the word, the token is turned down
  unless the text is obscured. -/
  spelt : ∀ spelling, spelling.map Char.toLower = "csrf".toList →
    spelling <:+: (firstErrorText answer).toList → ¬Obscured answer →
      isRejection 403 answer = true

/-- The error text of every answer is its first text that is not blank, unless
what stands before the detail obscures it. -/
theorem errorText_told (answer : Fields) : TellsError answer where
  clear := errorText_of_not_obscured
  obscured := errorText_of_obscured
  silent := by
    by_cases obscured : Obscured answer
    · simp [obscured, errorText_of_obscured obscured]
    · rw [errorText_of_not_obscured obscured, firstErrorText_eq_empty_iff]
      simp [obscured]
  lost := lost_iff answer
  rejects := by
    intro status
    rw [isRejection_iff]
    by_cases obscured : Obscured answer
    · simp [obscured, errorText_of_obscured obscured, Text.lower_of_ascii]
    · simp [obscured, errorText_of_not_obscured obscured]
  spelt := by
    intro spelling spells inside clear
    rw [isRejection_iff, errorText_of_not_obscured clear]
    exact ⟨rfl, infix_lower_of_spelling spells inside⟩

end Answer

/-- An answer with a blank error before its detail. -/
def Sample.blankError : Fields :=
  [("error", .text " "), ("detail", .text "CSRF")]

namespace Answer

/-- A blank error hides the detail that tells of the token, so that the answer
does not turn it down. -/
theorem blank_error_hides_detail :
    errorTexts Sample.blankError = [" ", "CSRF"] ∧
      firstErrorText Sample.blankError = "CSRF" ∧
      errorText Sample.blankError = "" ∧
      isRejection 403 Sample.blankError = false := by
  decide +kernel

end Answer

end AdminGate

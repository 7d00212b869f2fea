import AdminGate.Proofs.NamedValues
import AdminGate.Proofs.Outcomes
import AdminGate.Proofs.Trimming

/-!
# Results and their envelopes

A result is an answer without its envelope, and it can be put into an envelope
again.  What a call returns loses nothing on this way: read as the body of an
answer, the envelope leads to the result that it was made of.
-/

namespace AdminGate

/-- An error text that can be shown: it is not blank, and trimmed. -/
structure Worded (error : String) : Prop where
  notBlank : error ≠ ""
  trimmed : Text.trimmed error = error

theorem Notice.message_worded (notice : Notice) (locale : String) :
    Worded (notice.message locale) := by
  unfold Notice.message
  cases notice <;> cases Language.ofLocale locale <;>
    exact ⟨by decide, by decide +kernel⟩

namespace Answer

theorem errorText_trimmed (answer : Fields) :
    Text.trimmed (errorText answer) = errorText answer := by
  unfold errorText
  split
  · exact Text.trimmed_trimmed _
  · decide

theorem errorOr_worded (answer : Fields) (locale : String) :
    Worded (errorOr answer locale) := by
  unfold errorOr
  by_cases blank : (errorText answer).isEmpty = true
  · simp only [blank, if_true]
    exact Notice.message_worded .requestFailed locale
  · simp only [blank]
    exact ⟨fun none => blank (String.isEmpty_iff.mpr none),
      errorText_trimmed answer⟩

end Answer

/-! ## Putting a result into an envelope -/

namespace ApiResult

/-- A result that can be told from its envelope: its other fields have names of
their own, and it fails exactly when it has an error. -/
structure Enveloped (result : ApiResult) : Prop where
  business : ∀ entry ∈ result.payload, entry.1 ≠ "success" ∧ entry.1 ≠ "error"
  error : result.success = true ↔ result.error = none
  failure : result.success = true ↔ result.failure = none
  worded : ∀ error, result.error = some error → Worded error

/-- The fields of an answer that are not part of the envelope, in their order. -/
theorem business_eq (answer : Fields) :
    business answer =
      answer.filter fun entry => entry.1 ≠ "success" ∧ entry.1 ≠ "error" := by
  unfold business Assoc.without
  apply List.filter_congr
  intro entry _
  simp [envelopeNames]

theorem mem_business {answer : Fields} {entry : String × Json}
    (member : entry ∈ business answer) :
    entry.1 ≠ "success" ∧ entry.1 ≠ "error" := by
  rw [business_eq] at member
  exact of_decide_eq_true (List.mem_filter.mp member).2

variable {result : ApiResult}

theorem enveloped_succeeded (answer : Fields) (status : Int) :
    Enveloped (.succeeded (business answer) status) where
  business := fun _ => mem_business
  error := by simp [succeeded]
  failure := by simp [succeeded]
  worded := nofun

theorem enveloped_failed {error : String} (worded : Worded error)
    (kind : FailureKind) (status : Option Int) {payload : Fields}
    (business : ∀ entry ∈ payload, entry.1 ≠ "success" ∧ entry.1 ≠ "error") :
    Enveloped (.failed error kind status payload) where
  business := business
  error := by simp [failed]
  failure := by simp [failed]
  worded := by
    rintro other same
    cases same
    exact worded

theorem Enveloped.toFields_eq (enveloped : Enveloped result) :
    result.toFields =
      result.payload ++ ("success", .bool result.success) ::
        result.error.toList.map fun error => ("error", .text error) := by
  have noSuccess : ∀ entry ∈ result.payload, entry.1 ≠ "success" :=
    fun entry member => (enveloped.business entry member).1
  have noError : ∀ entry ∈ result.payload ++
      [("success", Json.bool result.success)], entry.1 ≠ "error" := by
    intro entry member
    rcases List.mem_append.mp member with business | envelope
    · exact (enveloped.business entry business).2
    · simp [List.mem_singleton.mp envelope]
  unfold toFields
  rw [Assoc.insert_of_missing noSuccess]
  cases result.error with
  | none => rfl
  | some error =>
      simp only [Assoc.insert_of_missing noError, Option.toList_some,
        List.map_cons, List.map_nil, List.append_assoc, List.singleton_append]

theorem get?_toFields (result : ApiResult) (name : String) :
    result.toFields.get? name =
      if name = "error" ∧ result.error ≠ none then result.error.map .text
      else if name = "success" then some (.bool result.success)
      else result.payload.get? name := by
  unfold toFields
  cases result.error with
  | none => simp [Assoc.get?_insert]
  | some error => simp [Assoc.get?_insert]

theorem reportsSuccess_toFields (result : ApiResult) :
    Answer.reportsSuccess result.toFields = result.success := by
  simp [Answer.reportsSuccess, get?_toFields, Json.isTruthy]

/-- The envelope says what the error is, whatever else the result tells in
detail. -/
theorem errorText_toFields {error : String} (failed : result.error = some error)
    (worded : Worded error) : Answer.errorText result.toFields = error := by
  have found : result.toFields.get? "error" = some (.text error) := by
    simp [get?_toFields, failed]
  have truthy : (Json.text error).isTruthy = true := by
    simp [Json.isTruthy, worded.notBlank]
  have raw : Answer.rawError result.toFields = .text error := by
    simp only [Answer.rawError, found, Option.getD_some, truthy, if_true]
    split <;> rfl
  rw [Answer.errorText, raw]
  exact worded.trimmed

theorem Enveloped.business_toFields (enveloped : Enveloped result) :
    ApiResult.business result.toFields = result.payload := by
  rw [enveloped.toFields_eq, business_eq, List.filter_append]
  have kept : (result.payload.filter fun entry =>
      entry.1 ≠ "success" ∧ entry.1 ≠ "error") = result.payload := by
    apply List.filter_eq_self.mpr
    intro entry member
    exact decide_eq_true (enveloped.business entry member)
  rw [kept]
  cases result.error <;> simp

/-- The envelope of a result, read as the body of an answer that tells of success,
leads to the same success, the same error and the same fields. -/
theorem Enveloped.resultOfObject_toFields (enveloped : Enveloped result)
    (status : Int) (locale : String) :
    Answer.resultOfObject status true locale result.toFields =
      { result with
        status := some status
        failure := if result.success then none else some .server } := by
  have reports := reportsSuccess_toFields result
  have business := enveloped.business_toFields
  have error := enveloped.error
  cases success : result.success with
  | true =>
      rw [success] at reports
      simp [Answer.resultOfObject, reports, business, succeeded,
        error.mp success]
  | false =>
      rw [success] at reports error
      cases failed : result.error with
      | none => exact absurd (error.mpr failed) Bool.false_ne_true
      | some text =>
          have worded := enveloped.worded text failed
          have shown : Answer.errorOr result.toFields locale = text := by
            simp [Answer.errorOr, errorText_toFields failed worded,
              worded.notBlank]
          simp [Answer.resultOfObject, reports, business, ApiResult.failed,
            shown]

end ApiResult

/-! ## What calls return -/

namespace Answer

theorem result_enveloped (response : Http.Response) (locale : String) :
    (result response locale).Enveloped := by
  unfold result
  cases response.object? with
  | none =>
      apply ApiResult.enveloped_failed (Notice.message_worded _ locale)
      exact nofun
  | some answer =>
      simp only [resultOfObject]
      split
      · exact ApiResult.enveloped_succeeded answer response.status
      · exact ApiResult.enveloped_failed (errorOr_worded answer locale) .server
          _ fun _ => ApiResult.mem_business

theorem result_payload (response : Http.Response) (locale : String) :
    (result response locale).payload =
      ApiResult.business (response.object?.getD []) := by
  unfold result
  cases response.object? with
  | none => rfl
  | some answer =>
      simp only [resultOfObject]
      split <;> rfl

theorem isRejection_of_isSuccess {response : Http.Response}
    (success : response.isSuccess = true) (answer : Fields) :
    isRejection response.status answer = false := by
  simp only [Http.Response.isSuccess, Bool.and_eq_true, decide_eq_true_eq]
    at success
  have other : response.status ≠ rejectionStatus := by
    unfold rejectionStatus
    omega
  simp [isRejection, other]

end Answer

namespace Call

/-- The fields that come with an ending: those of the object with which the
request is answered. -/
def answered : Ending → Fields
  | .answered response => response.object?.getD []
  | _ => []

variable {call : Call} {settings : Settings} {jar : Http.CookieJar}
  {cell after : TokenCell} {what : Wait} {ending : Ending} {result : ApiResult}

/-- What a call returns can be put into an envelope, and its fields are those of
the last answer. -/
theorem Resumed.returns
    (resumed : Resumed call settings jar cell what ending after
      (.done (.ok result))) :
    result.Enveloped ∧ result.payload = ApiResult.business (answered ending) := by
  generalize returned : Next.done (.ok result) = next at resumed
  cases resumed with
  | issued | unissued | unfetched | retried | unnamed | faulted =>
      cases returned
  | late late =>
      cases returned
      refine ⟨ApiResult.enveloped_failed (Notice.message_worded _ _) _ _ nofun,
        ?_⟩
      cases ending with
      | answered response =>
          exact absurd late (Ending.not_timedOut_answered response)
      | failed | expired => rfl
  | unreachable network =>
      cases returned
      refine ⟨ApiResult.enveloped_failed (Notice.message_worded _ _) _ _ nofun,
        ?_⟩
      cases ending with
      | answered response =>
          exact absurd network (Ending.not_networkFailed_answered response)
      | failed | expired => rfl
  | finished shallow final =>
      cases returned
      exact ⟨Answer.result_enveloped _ _, Answer.result_payload _ _⟩
  | rejectedAgain object rejection =>
      cases returned
      refine ⟨ApiResult.enveloped_failed (Answer.errorOr_worded _ _) _ _
        fun _ => ApiResult.mem_business, ?_⟩
      simp [ApiResult.failed, answered, object]

/-- The envelope of a result, as the body of an answer that tells of success,
ends any call with that result. -/
theorem resume_toFields (enveloped : result.Enveloped) (call : Call)
    (settings : Settings) (jar : Http.CookieJar) (cell : TokenCell)
    (attempt : Attempt) (headers : Http.Headers) {response : Http.Response}
    (success : response.isSuccess = true)
    (object : response.object? = some result.toFields) :
    (call.resume settings jar cell (.answer attempt headers)
        (.answered response)).next =
      .done (.ok { result with
        status := some response.status
        failure := if result.success then none else some .server }) := by
  have read := Ending.read_answered (Ending.shallow_of_object? object)
  have accepted := Answer.isRejection_of_isSuccess success result.toFields
  have again := enveloped.resultOfObject_toFields response.status settings.locale
  simp only [resume, read, afterAnswer, object, accepted, Bool.false_eq_true,
    if_false, finish, Answer.result, success, again]

end Call

namespace Traffic

/-- What a call returns stands in this relation to its last request, and to the
envelope that can be made of it. -/
structure ReturnsEnvelope (ends : List (Wait × Ending)) (result : ApiResult) :
    Prop where
  /-- The fields of the last answer are returned, all but those of its
  envelope. -/
  payload : ∀ what response body,
    ends.getLast? = some (what, .answered response) →
    response.object? = some body →
      result.payload =
        body.filter fun entry => entry.1 ≠ "success" ∧ entry.1 ≠ "error"
  error : result.success = true ↔ result.error = none
  failure : result.success = true ↔ result.failure = none
  fields : result.toFields =
    result.payload ++ ("success", .bool result.success) ::
      result.error.toList.map fun error => ("error", .text error)
  /-- The envelope is read as the success, the error and the fields that it was
  made of. -/
  read : ∀ status locale,
    Answer.resultOfObject status true locale result.toFields =
      { result with
        status := some status
        failure := if result.success then none else some .server }
  /-- Whoever answers a request with the envelope ends the call with them. -/
  again : ∀ (call : Call) settings jar cell attempt headers response,
    response.isSuccess = true →
    response.object? = some result.toFields →
      (call.resume settings jar cell (.answer attempt headers)
          (.answered response)).next =
        .done (.ok { result with
          status := some response.status
          failure := if result.success then none else some .server })

variable {client : Client} {cell : TokenCell} {jar : Http.CookieJar}
  {moves : List Move} {traffic : Traffic} {index : Nat} {call : Call}
  {result : ApiResult}

theorem returnsEnvelope_of_recorded {asks : List Wait}
    {ends : List (Wait × Ending)}
    (recorded : Recorded call client.settings asks ends (.done (.ok result))) :
    ReturnsEnvelope ends result := by
  cases recorded with
  | done history concludes =>
      obtain ⟨jar, cell, after, resumed⟩ := concludes
      obtain ⟨enveloped, payload⟩ := resumed.returns
      constructor
      · intro what response body last object
        rw [List.getLast?_concat] at last
        cases last
        rw [payload, Call.answered, object, Option.getD_some,
          ApiResult.business_eq]
      · exact enveloped.error
      · exact enveloped.failure
      · exact enveloped.toFields_eq
      · exact enveloped.resultOfObject_toFields
      · intro call settings jar cell attempt headers response success object
        exact call.resume_toFields enveloped settings jar cell attempt headers
          success object

/-- Whatever a call returns, in any run, survives its envelope. -/
theorem run_returnsEnvelope
    (ran : run? client (initial cell jar) moves = some traffic)
    (found : traffic.calls[index]? = some ⟨call, .done (.ok result)⟩) :
    ReturnsEnvelope
      ((trail client (initial cell jar) moves index).filterMap Stage.ended?)
      result :=
  returnsEnvelope_of_recorded (course_recorded (run_course ran found))

end Traffic

/-- An answer that refuses a request and says why in detail. -/
def Sample.refusing : Http.Response :=
  ⟨409, [], bytes "\x7b\"detail\":\" late \",\"left\":1\x7d"⟩

namespace Traffic

/-- The detail of a refusal becomes the error of the result, and stays among its
fields. -/
theorem run_returnsEnvelope_refused : ∃ traffic result,
    run? Sample.client (initial (.holding "v" .cached) [])
        (Sample.exchanges 0 [Sample.refusing]) = some traffic ∧
      traffic.calls[0]? = some ⟨Sample.write, .done (.ok result)⟩ ∧
      result.error = some "late" ∧
      result.payload.map Prod.fst = ["detail", "left"] ∧
      ReturnsEnvelope ((trail Sample.client
        (initial (.holding "v" .cached) [])
        (Sample.exchanges 0 [Sample.refusing]) 0).filterMap Stage.ended?)
        result := by
  have completes : (run? Sample.client (initial (.holding "v" .cached) [])
      (Sample.exchanges 0 [Sample.refusing])).any (fun traffic =>
        ((traffic.stage? 0).bind Stage.outcome?).any fun outcome =>
          outcome.toOption.any fun result =>
            result.error = some "late" ∧
              result.payload.map Prod.fst = ["detail", "left"]) = true := by
    decide +kernel
  obtain ⟨traffic, ran, reached⟩ := (Option.any_eq_true _ _).mp completes
  obtain ⟨outcome, reached, returned⟩ := (Option.any_eq_true _ _).mp reached
  obtain ⟨result, returned, evaluated⟩ := (Option.any_eq_true _ _).mp returned
  obtain ⟨error, payload⟩ := of_decide_eq_true evaluated
  have found := run_found ran (by rfl) (outcome?_eq_some_iff.mp reached)
  cases outcome with
  | error failure => cases returned
  | ok same =>
      cases returned
      exact ⟨traffic, result, ran, found, error, payload,
        run_returnsEnvelope ran found⟩

end Traffic

end AdminGate

import AdminGate.Identity.Loader
import AdminGate.Proofs.CallWindows
import AdminGate.Proofs.NamedValues
import AdminGate.Proofs.WorldSteps

/-!
# The last answer

Of the replies to the requests of a call only the last one counts, and only when it
is an answer that comes in time.  `Stage.Heard` says how much of the replies a call
has taken in that waits for no token: what it returns brings an admin exactly when
the last answer does.
-/

namespace AdminGate

/-! ## Answers in time -/

theorem Reply.within_of_due {reply : Reply} {window delay : Nat}
    {result : Except Http.TransportFailure Http.Response}
    (due : reply.due? = some (delay, result)) (inTime : delay < window) :
    reply.within window = some result := by
  cases reply <;> cases due <;> simp [Reply.within, inTime]

theorem Reply.within_of_late {reply : Reply} {window : Nat}
    (late : ∀ due ∈ reply.due?, window ≤ due.1) :
    reply.within window = none := by
  cases reply with
  | silence => rfl
  | answer response delay | failure cause delay =>
      have := late _ rfl
      simp [Reply.within, Nat.not_lt.mpr this]

/-- The last of the replies is an answer in time, and this is how it is read. -/
def AnsweredLast (window : Nat) (replies : List Reply) (plain : Http.Response) :
    Prop :=
  ∃ raw, replies.getLast?.bind (Reply.within window) = some (.ok raw) ∧
    raw.decoded? = some plain

variable {window : Nat} {replies : List Reply} {plain other : Http.Response}

theorem AnsweredLast.eq (answered : AnsweredLast window replies plain)
    (again : AnsweredLast window replies other) : plain = other := by
  obtain ⟨raw, last, decoded⟩ := answered
  obtain ⟨another, lastAgain, decodedAgain⟩ := again
  cases last.symm.trans lastAgain
  exact Option.some.inj (decoded.symm.trans decodedAgain)

namespace Answer

/-- An answer that brings an admin: its status tells of success, its body is an
object that does not deny it, and under `admin` there is an object. -/
def BringsAdmin (response : Http.Response) (admin : Fields) : Prop :=
  response.isSuccess = true ∧ ∃ answer, response.object? = some answer ∧
    (∀ value, answer.get? "success" = some value → value.isTruthy = true) ∧
    answer.get? "admin" = some (.object admin)

theorem admin?_result {response : Http.Response} {locale : String}
    {admin : Fields} :
    IdentityLoader.admin? (result response locale) = some admin ↔
      BringsAdmin response admin := by
  unfold result BringsAdmin
  cases object : response.object? with
  | none => simp [IdentityLoader.admin?, ApiResult.failed]
  | some answer =>
      have kept : (ApiResult.business answer).get? "admin" =
          answer.get? "admin" := Assoc.get?_without answer (by decide)
      have isObject : ∀ value : Json,
          value.fields? = some admin ↔ value = .object admin := by
        intro value
        cases value <;> simp [Json.fields?]
      simp only [resultOfObject, Option.some.injEq, exists_eq_left']
      rw [← reportsSuccess_iff]
      cases response.isSuccess <;> cases reportsSuccess answer <;>
        simp [IdentityLoader.admin?, ApiResult.failed, ApiResult.succeeded, kept,
          isObject, Option.bind_eq_some_iff]

theorem Rejects.isSuccess {response : Http.Response}
    (rejects : Rejects response) : response.isSuccess = false := by
  simp [Http.Response.isSuccess, rejects.status]

end Answer

/-! ## What a call has heard -/

/-- A request has ended in keeping with the last reply: it is answered only with
this, and an answer that tells of success is not passed over unless reading it
fails in a way that no caller expects. -/
structure Ending.Heard (window : Nat) (replies : List Reply) (ending : Ending) :
    Prop where
  answered : ∀ plain, ending = .answered plain →
    AnsweredLast window replies plain
  kept : ∀ plain, AnsweredLast window replies plain → plain.isSuccess = true →
    ending = .answered plain ∨ ∃ failure, ending.Faulted failure

/-- An outcome brings an admin exactly when the last reply does. -/
def Outcome.Heard (window : Nat) (replies : List Reply) (outcome : Outcome) :
    Prop :=
  ∀ result, outcome = .ok result → ∀ admin,
    IdentityLoader.admin? result = some admin ↔
      ∃ plain, AnsweredLast window replies plain ∧
        Answer.BringsAdmin plain admin

/-- What a call that waits for no token has taken in of the replies so far, which
are those to its own requests. -/
inductive Stage.Heard (window : Nat) (replies : List Reply) : Stage → Prop where
  | asked {what : Wait} {since : Nat} (transmits : what.transmits = true)
      (unanswered : ∀ plain, AnsweredLast window replies plain →
        plain.isSuccess = false) :
      Stage.Heard window replies (.asked what since)
  | inFlight {what : Wait} {since number : Nat} {request : Http.Request}
      (transmits : what.transmits = true) (last : number + 1 = replies.length) :
      Stage.Heard window replies (.inFlight what since number request)
  | ended {what : Wait} {ending : Ending} (transmits : what.transmits = true)
      (heard : ending.Heard window replies) :
      Stage.Heard window replies (.ended what ending)
  | done {outcome : Outcome} (heard : Outcome.Heard window replies outcome) :
      Stage.Heard window replies (.done outcome)

namespace Ending

theorem heard_of_unanswered {ending : Ending}
    (unanswered : ∀ plain, AnsweredLast window replies plain →
      plain.isSuccess = false)
    (noAnswer : ∀ plain, ending ≠ .answered plain) :
    ending.Heard window replies := by
  refine ⟨fun plain same => absurd same (noAnswer plain), ?_⟩
  intro plain answered success
  rw [unanswered plain answered] at success
  cases success

theorem heard_of_within {ending : Ending}
    {result : Except Http.TransportFailure Http.Response}
    (last : replies.getLast?.bind (Reply.within window) = some result)
    (reads : OfResult result ending) : ending.Heard window replies := by
  cases reads with
  | answered decoded =>
      have answered : AnsweredLast window replies _ := ⟨_, last, decoded⟩
      refine ⟨fun plain same => ?_, fun plain again _ => .inl ?_⟩
      · cases same
        exact answered
      · rw [answered.eq again]
  | spoiled spoiled =>
      refine ⟨nofun, fun plain answered success => .inr ?_⟩
      obtain ⟨raw, lastAgain, decoded⟩ := answered
      cases last.symm.trans lastAgain
      exact ⟨_, rfl, spoiled plain decoded success⟩
  | failed =>
      refine ⟨nofun, fun plain answered _ => ?_⟩
      obtain ⟨raw, lastAgain, _⟩ := answered
      cases last.symm.trans lastAgain

theorem heard_of_silence
    (last : replies.getLast?.bind (Reply.within window) = none) :
    expired.Heard window replies := by
  refine ⟨nofun, fun plain answered _ => ?_⟩
  obtain ⟨raw, lastAgain, _⟩ := answered
  cases last.symm.trans lastAgain

/-- A request that has ended neither with an answer nor with a fault brings no
admin. -/
theorem Heard.failed {ending : Ending} {result : ApiResult}
    (heard : ending.Heard window replies)
    (noAnswer : ∀ plain, ending ≠ .answered plain)
    (noFault : ∀ failure, ¬ending.Faulted failure)
    (fails : result.success = false) :
    Outcome.Heard window replies (.ok result) := by
  rintro _ ⟨⟩ admin
  simp only [IdentityLoader.admin?, fails, Bool.false_eq_true, if_false,
    reduceCtorEq, false_iff, not_exists, not_and]
  intro plain answered brings
  rcases heard.kept plain answered brings.1 with same | ⟨failure, fault⟩
  · exact noAnswer plain same
  · exact noFault failure fault

end Ending

theorem Ending.Heard.resumed {call : Call} {settings : Settings}
    {jar : Http.CookieJar} {cell after : TokenCell} {what : Wait}
    {ending : Ending} {next : Next} (heard : ending.Heard window replies)
    (now : Nat) (transmits : what.transmits = true)
    (reads : call.descriptor.isRead = true)
    (resumed : call.Resumed settings jar cell what ending after next) :
    (Traffic.stageOf now next).Heard window replies := by
  cases resumed with
  | issued | unissued | unfetched => cases transmits
  | late late =>
      refine .done (heard.failed ?_ (fun _ => late.not_faulted) rfl)
      rintro plain rfl
      exact Ending.not_timedOut_answered plain late
  | unreachable network =>
      refine .done (heard.failed ?_ (fun _ => network.not_faulted) rfl)
      rintro plain rfl
      exact Ending.not_networkFailed_answered plain network
  | faulted | unnamed => exact .done nofun
  | finished shallow final =>
      refine .done ?_
      rintro _ ⟨⟩ admin
      rw [Answer.admin?_result]
      constructor
      · exact fun brings => ⟨_, heard.answered _ rfl, brings⟩
      · rintro ⟨plain, answered, brings⟩
        rwa [(heard.answered _ rfl).eq answered]
  | retried rejects named attempted =>
      refine .asked (attempted.fits reads) fun plain answered => ?_
      rw [← (heard.answered _ rfl).eq answered]
      exact rejects.isSuccess
  | rejectedAgain object rejection =>
      refine .done ?_
      rintro _ ⟨⟩ admin
      simp only [IdentityLoader.admin?, ApiResult.failed, Bool.false_eq_true,
        if_false, reduceCtorEq, false_iff, not_exists, not_and]
      intro plain answered brings
      have rejects : Answer.Rejects plain := by
        rw [← (heard.answered _ rfl).eq answered]
        exact ⟨_, object, rejection⟩
      have success := brings.1
      rw [rejects.isSuccess] at success
      cases success

end AdminGate

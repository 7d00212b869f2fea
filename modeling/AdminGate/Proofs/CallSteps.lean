import AdminGate.Proofs.FailureKinds
import AdminGate.Proofs.HeaderFields

/-!
# What one step of a call does

`Readied`, `Attempted` and `Resumed` list the ways in which a call finds a token,
starts an attempt and goes on after a request, each with the cell that it leaves
behind.  The equations of the machine are opened here once; proofs about calls
go by cases on these relations.
-/

namespace AdminGate

/-- The name of the anti-forgery field as header fields are looked up. -/
def Settings.tokenKey (settings : Settings) : String :=
  Text.basicLowercased settings.tokenHeader

namespace TokenCell

def holding (token : String) (provenance : Provenance) : TokenCell :=
  ⟨some ⟨token, provenance⟩⟩

@[simp] theorem token?_holding (token : String) (provenance : Provenance) :
    (holding token provenance).token? = some token :=
  rfl

@[simp] theorem token?_empty : empty.token? = none :=
  rfl

theorem eq_empty_of_token?_eq_none {cell : TokenCell}
    (none : cell.token? = none) : cell = empty := by
  obtain ⟨_ | held⟩ := cell
  · rfl
  · simp [token?] at none

theorem drop_fst (cell : TokenCell) (token : String) :
    (cell.drop token).1 = if cell.token? = some token then empty else cell := by
  unfold drop
  split <;> rfl

theorem drop_eq_self {cell : TokenCell} {token : String}
    (other : cell.token? ≠ some token) : (cell.drop token).1 = cell := by
  rw [drop_fst, if_neg other]

theorem drop_eq_empty {cell : TokenCell} {token : String}
    (held : cell.token? = some token) : (cell.drop token).1 = empty := by
  rw [drop_fst, if_pos held]

end TokenCell

/-- An answer that turns the token down. -/
def Answer.Rejects (response : Http.Response) : Prop :=
  ∃ answer, response.object? = some answer ∧
    Answer.isRejection response.status answer = true

instance (response : Http.Response) : Decidable (Answer.Rejects response) :=
  decidable_of_iff
    (response.object?.any (Answer.isRejection response.status) = true)
    (by cases object : response.object? <;> simp [Answer.Rejects, object])

theorem Answer.Rejects.status {response : Http.Response}
    (rejects : Rejects response) : response.status = 403 := by
  obtain ⟨answer, _, rejection⟩ := rejects
  simp only [isRejection, rejectionStatus, Bool.and_eq_true, beq_iff_eq]
    at rejection
  exact rejection.1

namespace Ending

/-- The answer to the request turns the token down. -/
def Rejects (ending : Ending) : Prop :=
  ∃ response, ending = .answered response ∧ Answer.Rejects response

/-- The time of the request was up, for its caller or for the transport. -/
def TimedOut (ending : Ending) : Prop :=
  ending = .expired ∨ ∃ failure, ending = .failed failure ∧ failure.IsTimeout

def NetworkFailed (ending : Ending) : Prop :=
  ∃ failure, ending = .failed failure ∧ failure.IsNetwork

/-- The request, or the reading of its answer, failed in a way that no caller
expects. -/
def Faulted (ending : Ending) (failure : Http.Failure) : Prop :=
  ending.read = .failed failure ∧ failure.IsForeign

theorem read_answered {response : Http.Response}
    (shallow : Http.Response.bodyNesting? response.body = none) :
    (answered response).read = answered response := by
  simp [read, shallow]

theorem shallow_of_object? {response : Http.Response} {answer : Fields}
    (object : response.object? = some answer) :
    Http.Response.bodyNesting? response.body = none := by
  unfold Http.Response.object? Http.Response.bodyObject? at object
  split at object
  · rename_i blank
    rw [List.isEmpty_iff.mp blank]
    decide
  · unfold Http.Response.bodyNesting?
    unfold Json.ofBytes? at object
    cases read : Json.read response.body with
    | ok value => rfl
    | error fault =>
        rw [read] at object
        simp [Except.toOption] at object

theorem not_timedOut_answered (response : Http.Response) :
    ¬(answered response).TimedOut := by
  simp [TimedOut]

theorem not_networkFailed_answered (response : Http.Response) :
    ¬(answered response).NetworkFailed := by
  simp [NetworkFailed]

theorem not_faulted_of_shallow {response : Http.Response}
    (shallow : Http.Response.bodyNesting? response.body = none)
    (failure : Http.Failure) : ¬(answered response).Faulted failure := by
  simp [Faulted, read_answered shallow]

/-- The ways in which the end of a request is read.  An answer that is nested too
deeply counts as a failure. -/
theorem read_cases (ending : Ending) :
    (ending.read = .expired ∧ ending.TimedOut) ∨
      (∃ failure, ending.read = .failed failure ∧
        failure.IsTimeout ∧ ending.TimedOut) ∨
      (∃ failure, ending.read = .failed failure ∧
        failure.IsNetwork ∧ ending.NetworkFailed) ∨
      (∃ failure, ending.read = .failed failure ∧
        failure.IsForeign ∧ ending.Faulted failure) ∨
      ∃ response, ending = .answered response ∧
        Http.Response.bodyNesting? response.body = none := by
  cases ending with
  | expired => exact .inl ⟨rfl, .inl rfl⟩
  | failed failure =>
      rcases failure.kind_cases with late | network | foreign
      · exact .inr (.inl ⟨failure, rfl, late, .inr ⟨failure, rfl, late⟩⟩)
      · exact .inr (.inr (.inl ⟨failure, rfl, network, failure, rfl, network⟩))
      · exact .inr (.inr (.inr (.inl ⟨failure, rfl, foreign, rfl, foreign⟩)))
  | answered response =>
      cases nesting : Http.Response.bodyNesting? response.body with
      | some depth =>
          have deep : (answered response).read = .failed (.tooDeep depth) := by
            simp [read, nesting]
          exact .inr (.inr (.inr (.inl
            ⟨_, deep, .tooDeep depth, deep, .tooDeep depth⟩)))
      | none => exact .inr (.inr (.inr (.inr ⟨response, rfl, nesting⟩)))

end Ending

/-- The body of an answer that turns the token down can be read. -/
theorem Answer.Rejects.shallow {response : Http.Response}
    (rejects : Answer.Rejects response) :
    Http.Response.bodyNesting? response.body = none := by
  obtain ⟨answer, object, _⟩ := rejects
  exact Ending.shallow_of_object? object

namespace Call

/-- The name of the field that names a call, as header fields are looked up. -/
def requestIdKey : String :=
  Text.basicLowercased requestIdHeader

/-- A call takes over the fields of its descriptor, and its caller names it. -/
theorem open?_eq_ok {descriptor : Descriptor} {freshId : String} {call : Call}
    (opened : open? descriptor freshId = .ok call) :
    call.descriptor = descriptor ∧
      call.headers = (descriptor.headers.getD []).map
        fun pair => ⟨pair.1, pair.2⟩ := by
  obtain ⟨headers, taken, opened⟩ := Http.bind_eq_ok_iff.mp opened
  obtain ⟨given, _, opened⟩ := Http.bind_eq_ok_iff.mp opened
  cases opened
  exact ⟨rfl, Http.Headers.eq_of_ofCaller? (Http.mapError_eq_ok_iff.mp taken)⟩

theorem headersWith_values_token (call : Call) (settings : Settings)
    (token : String) :
    (call.headersWith settings (some token)).values settings.tokenKey =
      [token] :=
  Http.Headers.values_set_same _ settings.tokenHeader token

theorem headersWith_values_other (call : Call) (settings : Settings)
    (token : Option String) {key : String} (other : key ≠ settings.tokenKey) :
    (call.headersWith settings token).values key =
      (call.headers.set requestIdHeader call.context.requestId).values key := by
  cases token with
  | none => rfl
  | some token => exact Http.Headers.values_set_other other

theorem headersWith_values_requestId (call : Call) {settings : Settings}
    (token : Option String) (other : requestIdKey ≠ settings.tokenKey) :
    (call.headersWith settings token).values requestIdKey =
      [call.context.requestId] := by
  rw [headersWith_values_other call settings token other]
  exact Http.Headers.values_set_same call.headers requestIdHeader _

/-- The ways in which a token is found without asking for one: the token that is
held, else the one of the cookie, in both cases unless it has been turned
down. -/
inductive Readied (settings : Settings) (jar : Http.CookieJar) (cell : TokenCell)
    (rejected : Option String) : TokenCell → Option String → Prop where
  | held {token : String} (held : cell.token? = some token)
      (allowed : some token ≠ rejected) :
      Readied settings jar cell rejected cell (some token)
  | cookie {value : String}
      (unusable : ∀ token, cell.token? = some token → some token = rejected)
      (found : jar.find settings.tokenCookie = .single value)
      (notBlank : Text.trimmed value ≠ "")
      (allowed : some (Text.trimmed value) ≠ rejected) :
      Readied settings jar cell rejected
        (.holding (Text.trimmed value) .cookie) (some (Text.trimmed value))
  | missing
      (unusable : ∀ token, cell.token? = some token → some token = rejected)
      (unoffered : ∀ token, (cookieToken settings jar).1 = some token →
        some token = rejected) :
      Readied settings jar cell rejected cell none

theorem cookieToken_eq_some_iff {settings : Settings} {jar : Http.CookieJar}
    {token : String} :
    (cookieToken settings jar).1 = some token ↔
      ∃ value, jar.find settings.tokenCookie = .single value ∧
        Text.trimmed value = token ∧ token ≠ "" := by
  unfold cookieToken
  cases jar.find settings.tokenCookie with
  | absent => simp
  | ambiguous => simp
  | single value =>
      by_cases blank : Text.trimmed value = ""
      · simp only [String.isEmpty_iff, blank, if_true, reduceCtorEq, false_iff]
        rintro ⟨_, found, rfl, notBlank⟩
        cases found
        exact notBlank blank
      · simp only [String.isEmpty_iff, blank, if_false, Option.some.injEq]
        constructor
        · rintro rfl
          exact ⟨value, rfl, rfl, blank⟩
        · rintro ⟨_, found, same, _⟩
          cases found
          exact same

theorem readyToken?_readied (settings : Settings) (jar : Http.CookieJar)
    (cell : TokenCell) (rejected : Option String) :
    Readied settings jar cell rejected
      (readyToken? settings jar cell rejected).1
      (readyToken? settings jar cell rejected).2.2 := by
  unfold readyToken?
  split
  · rename_i token usable
    obtain ⟨held, allowed⟩ := Option.filter_eq_some_iff.mp usable
    exact .held held (by simpa using allowed)
  · rename_i unheld
    have unusable : ∀ token, cell.token? = some token →
        some token = rejected := by
      intro token held
      rw [held] at unheld
      simpa [Option.filter] using unheld
    cases offer : cookieToken settings jar with
    | mk offered entries =>
        have offeredEq : (cookieToken settings jar).1 = offered := by
          rw [offer]
        cases usable : offered.filter fun token => some token != rejected with
        | some token =>
            obtain ⟨isOffered, allowed⟩ := Option.filter_eq_some_iff.mp usable
            rw [isOffered] at offeredEq
            obtain ⟨value, found, rfl, notBlank⟩ :=
              cookieToken_eq_some_iff.mp offeredEq
            simp only [usable]
            exact .cookie unusable found notBlank (by simpa using allowed)
        | none =>
            simp only [usable]
            apply Readied.missing unusable
            intro token isOffered
            rw [← offeredEq, isOffered] at usable
            simpa [Option.filter] using usable

/-- The ways in which an attempt starts: a reading call sends its request, a
writing one sends it with a token or asks for one. -/
inductive Attempted (call : Call) (settings : Settings) (jar : Http.CookieJar)
    (cell : TokenCell) (attempt : Attempt) : TokenCell → Wait → Prop where
  | reading (reads : call.descriptor.isRead = true) :
      Attempted call settings jar cell attempt cell
        (.answer attempt (call.headersWith settings none))
  | ready {after : TokenCell} {token : String}
      (writes : call.descriptor.isRead = false)
      (found : Readied settings jar cell attempt.rejected after (some token)) :
      Attempted call settings jar cell attempt after
        (.answer attempt (call.headersWith settings (some token)))
  | unready {after : TokenCell}
      (writes : call.descriptor.isRead = false)
      (found : Readied settings jar cell attempt.rejected after none) :
      Attempted call settings jar cell attempt after (.token attempt)

theorem attempt_attempted (call : Call) (settings : Settings)
    (jar : Http.CookieJar) (cell : TokenCell) (attempt : Attempt) :
    ∃ what, (call.attempt settings jar cell attempt).next = .wait what ∧
      Attempted call settings jar cell attempt
        (call.attempt settings jar cell attempt).cell what := by
  unfold Call.attempt
  cases reads : call.descriptor.isRead with
  | true => exact ⟨_, rfl, .reading reads⟩
  | false =>
      have found := readyToken?_readied settings jar cell attempt.rejected
      cases ready : readyToken? settings jar cell attempt.rejected with
      | mk after rest =>
          obtain ⟨entries, token⟩ := rest
          rw [ready] at found
          cases token with
          | some token => exact ⟨_, rfl, .ready reads found⟩
          | none => exact ⟨_, rfl, .unready reads found⟩

theorem Attempted.of_held {call : Call} {settings : Settings}
    {jar : Http.CookieJar} {cell after : TokenCell} {attempt : Attempt}
    {token : String} {what : Wait}
    (attempted : Attempted call settings jar cell attempt after what)
    (held : cell.token? = some token) (allowed : some token ≠ attempt.rejected) :
    after = cell ∧ what = .answer attempt (call.headersWith settings
      (if call.descriptor.isRead then none else some token)) := by
  cases attempted with
  | reading reads => exact ⟨rfl, by rw [if_pos reads]⟩
  | ready writes found =>
      cases found with
      | held other _ =>
          rw [held] at other
          cases other
          exact ⟨rfl, by simp [writes]⟩
      | cookie unusable => exact absurd (unusable token held) allowed
  | unready writes found =>
      cases found with
      | missing unusable => exact absurd (unusable token held) allowed

/-- The ways in which a call goes on when the request that it waits for has
ended. -/
inductive Resumed (call : Call) (settings : Settings) (jar : Http.CookieJar)
    (cell : TokenCell) : Wait → Ending → TokenCell → Next → Prop where
  | issued {attempt : Attempt} {response : Http.Response} {token : String}
      (issues : Answer.issuedToken? response = some token) :
      Resumed call settings jar cell (.token attempt) (.answered response)
        (.holding token .serverIssued)
        (call.transmit settings attempt (some token))
  | unissued {attempt : Attempt} {response : Http.Response}
      (shallow : Http.Response.bodyNesting? response.body = none)
      (missing : Answer.issuedToken? response = none) :
      Resumed call settings jar cell (.token attempt) (.answered response) cell
        (call.transmit settings attempt none)
  | unfetched {attempt : Attempt} {ending : Ending}
      (network : ending.NetworkFailed) :
      Resumed call settings jar cell (.token attempt) ending cell
        (call.transmit settings attempt none)
  | late {what : Wait} {ending : Ending} (late : ending.TimedOut) :
      Resumed call settings jar cell what ending cell
        (giveUp settings .timedOut .timeout)
  | finished {attempt : Attempt} {headers : Http.Headers}
      {response : Http.Response}
      (shallow : Http.Response.bodyNesting? response.body = none)
      (final : ¬Answer.Rejects response) :
      Resumed call settings jar cell (.answer attempt headers)
        (.answered response) cell
        (.done (.ok (Answer.result response settings.locale)))
  | retried {headers : Http.Headers} {response : Http.Response}
      {rejected : Option String} {after : TokenCell} {what : Wait}
      (rejects : Answer.Rejects response)
      (named : headers.get? settings.tokenHeader = .ok rejected)
      (attempted : Attempted call settings jar
        (cell.drop (rejected.getD "")).1 (.second rejected) after what) :
      Resumed call settings jar cell (.answer .first headers)
        (.answered response) after (.wait what)
  | unnamed {headers : Http.Headers} {response : Http.Response}
      {run : Text.NonAscii}
      (rejects : Answer.Rejects response)
      (unnamed : headers.get? settings.tokenHeader = .error run) :
      Resumed call settings jar cell (.answer .first headers)
        (.answered response) cell (.done (.error (.notAscii run)))
  | rejectedAgain {rejected : Option String} {headers : Http.Headers}
      {response : Http.Response} {answer : Fields}
      (object : response.object? = some answer)
      (rejection : Answer.isRejection response.status answer = true) :
      Resumed call settings jar cell (.answer (.second rejected) headers)
        (.answered response) cell
        (.done (.ok (.failed (Answer.errorOr answer settings.locale)
          .tokenRejected (some response.status) (ApiResult.business answer))))
  | unreachable {attempt : Attempt} {headers : Http.Headers} {ending : Ending}
      (network : ending.NetworkFailed) :
      Resumed call settings jar cell (.answer attempt headers) ending cell
        (giveUp settings .networkFailed .network)
  | faulted {what : Wait} {ending : Ending} {failure : Http.Failure}
      (fault : ending.Faulted failure) :
      Resumed call settings jar cell what ending cell
        (.done (.error failure))

variable (call : Call) (settings : Settings) (jar : Http.CookieJar)
  (cell : TokenCell)

private theorem afterToken_resumed (attempt : Attempt) (ending : Ending) :
    Resumed call settings jar cell (.token attempt) ending
      (call.afterToken settings cell attempt ending.read).cell
      (call.afterToken settings cell attempt ending.read).next := by
  rcases ending.read_cases with
    ⟨read, late⟩ | ⟨failure, read, timeout, late⟩ |
    ⟨failure, read, lost, network⟩ | ⟨failure, read, foreign, fault⟩ |
    ⟨response, rfl, shallow⟩
  · simp only [read, afterToken]
    exact .late late
  · rw [read, afterToken_of_isTimeout timeout]
    exact .late late
  · rw [read, afterToken_of_isNetwork lost]
    exact .unfetched network
  · rw [read, afterToken_of_isForeign foreign]
    exact .faulted fault
  · rw [Ending.read_answered shallow]
    cases issued : Answer.issuedToken? response with
    | some token =>
        simp only [afterToken, issued]
        exact .issued issued
    | none =>
        simp only [afterToken, issued]
        exact .unissued shallow issued

private theorem retry_resumed {headers : Http.Headers} {response : Http.Response}
    (rejects : Answer.Rejects response) :
    Resumed call settings jar cell (.answer .first headers)
      (.answered response) (call.retry settings jar cell headers).cell
      (call.retry settings jar cell headers).next := by
  unfold retry
  cases named : headers.get? settings.tokenHeader with
  | error run => exact .unnamed rejects named
  | ok rejected =>
      obtain ⟨what, waits, attempted⟩ := attempt_attempted call settings jar
        (cell.drop (rejected.getD "")).1 (.second rejected)
      simp only [waits]
      exact .retried rejects named attempted

private theorem afterAnswer_resumed (attempt : Attempt) (headers : Http.Headers)
    (ending : Ending) :
    Resumed call settings jar cell (.answer attempt headers) ending
      (call.afterAnswer settings jar cell attempt headers ending.read).cell
      (call.afterAnswer settings jar cell attempt headers ending.read).next := by
  rcases ending.read_cases with
    ⟨read, late⟩ | ⟨failure, read, timeout, late⟩ |
    ⟨failure, read, lost, network⟩ | ⟨failure, read, foreign, fault⟩ |
    ⟨response, rfl, shallow⟩
  · simp only [read, afterAnswer]
    exact .late late
  · rw [read, afterAnswer_of_isTimeout timeout]
    exact .late late
  · rw [read, afterAnswer_of_isNetwork lost]
    exact .unreachable network
  · rw [read, afterAnswer_of_isForeign foreign]
    exact .faulted fault
  · rw [Ending.read_answered shallow]
    cases object : response.object? with
    | none =>
        simp only [afterAnswer, object]
        apply Resumed.finished shallow
        rintro ⟨answer, found, _⟩
        rw [object] at found
        cases found
    | some answer =>
        cases rejection : Answer.isRejection response.status answer with
        | true =>
            cases attempt with
            | first =>
                simp only [afterAnswer, object, rejection, if_true]
                exact retry_resumed call settings jar cell
                  ⟨answer, object, rejection⟩
            | second rejected =>
                simp only [afterAnswer, object, rejection, if_true]
                exact .rejectedAgain object rejection
        | false =>
            simp only [afterAnswer, object, rejection]
            apply Resumed.finished shallow
            rintro ⟨other, found, rejects⟩
            rw [object] at found
            cases found
            rw [rejection] at rejects
            cases rejects

variable {call : Call} {settings : Settings} {jar : Http.CookieJar}
  {cell : TokenCell}

/-- A call that is turned down at first starts a second attempt if it can tell
with which token, and otherwise it ends. -/
theorem Resumed.of_rejected {headers : Http.Headers} {response : Http.Response}
    {after : TokenCell} {next : Next}
    (resumed : Resumed call settings jar cell (.answer .first headers)
      (.answered response) after next)
    (rejects : Answer.Rejects response) :
    (∃ rejected what, headers.get? settings.tokenHeader = .ok rejected ∧
        next = .wait what ∧
        Attempted call settings jar (cell.drop (rejected.getD "")).1
          (.second rejected) after what) ∨
      ∃ run, headers.get? settings.tokenHeader = .error run ∧
        next = .done (.error (.notAscii run)) := by
  cases resumed with
  | late late => exact absurd late (Ending.not_timedOut_answered response)
  | finished shallow final => exact absurd rejects final
  | retried _ named attempted => exact .inl ⟨_, _, named, rfl, attempted⟩
  | unnamed _ unnamed => exact .inr ⟨_, unnamed, rfl⟩
  | unreachable network =>
      exact absurd network (Ending.not_networkFailed_answered response)
  | faulted fault =>
      exact absurd fault (Ending.not_faulted_of_shallow rejects.shallow _)

theorem Resumed.retries {headers : Http.Headers} {response : Http.Response}
    {rejected : Option String} {after : TokenCell} {next : Next}
    (resumed : Resumed call settings jar cell (.answer .first headers)
      (.answered response) after next)
    (rejects : Answer.Rejects response)
    (named : headers.get? settings.tokenHeader = .ok rejected) :
    ∃ what, next = .wait what ∧
      Attempted call settings jar (cell.drop (rejected.getD "")).1
        (.second rejected) after what := by
  rcases resumed.of_rejected rejects with
    ⟨other, what, otherwise, waits, attempted⟩ | ⟨run, unnamed, _⟩
  · rw [named] at otherwise
    cases otherwise
    exact ⟨what, waits, attempted⟩
  · rw [named] at unnamed
    cases unnamed

variable (call : Call) (settings : Settings) (jar : Http.CookieJar)
  (cell : TokenCell)

theorem resume_resumed (what : Wait) (ending : Ending) :
    Resumed call settings jar cell what ending
      (call.resume settings jar cell what ending).cell
      (call.resume settings jar cell what ending).next := by
  cases what with
  | token attempt =>
      exact afterToken_resumed call settings jar cell attempt ending
  | answer attempt headers =>
      exact afterAnswer_resumed call settings jar cell attempt headers ending

end Call

end AdminGate

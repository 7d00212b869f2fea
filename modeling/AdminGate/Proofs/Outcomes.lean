import AdminGate.Proofs.Histories

/-!
# How a call ends

The outcome of a call is determined by its last request: which one that was and
how it ended.  `Classified` goes through the outcomes one by one and says for
each of them exactly when it is the one; `Continues` says when there is no
outcome yet because the call asks for something more.
-/

namespace AdminGate

namespace Answer

/-- An answer that amounts to success: its status says so, and its body is empty
or an object that does not deny it. -/
def Accepts (response : Http.Response) : Prop :=
  (200 ≤ response.status ∧ response.status ≤ 299) ∧
    (response.body = [] ∨ ∃ answer, response.object? = some answer ∧
      ∀ value, answer.get? "success" = some value → value.isTruthy = true)

theorem reportsSuccess_iff {answer : Fields} :
    reportsSuccess answer = true ↔
      ∀ value, answer.get? "success" = some value → value.isTruthy = true := by
  unfold reportsSuccess
  cases answer.get? "success" <;> simp

theorem accepts_iff {response : Http.Response} :
    Accepts response ↔ response.isSuccess = true ∧
      ∃ answer, response.object? = some answer ∧ reportsSuccess answer = true := by
  simp only [Accepts, Http.Response.isSuccess, Bool.and_eq_true,
    decide_eq_true_eq, reportsSuccess_iff]
  refine and_congr_right fun _ => ⟨?_, .inr⟩
  rintro (blank | object)
  · refine ⟨[], ?_, ?_⟩
    · simp [Http.Response.object?, Http.Response.bodyObject?, blank]
    · intro value found
      cases found
  · exact object

theorem shallow_of_issues {response : Http.Response} {token : String}
    (issues : issuedToken? response = some token) :
    Http.Response.bodyNesting? response.body = none := by
  cases object : response.object? with
  | some answer => exact Ending.shallow_of_object? object
  | none =>
      simp only [issuedToken?, object] at issues
      cases issues

theorem not_rejects_of_accepts {response : Http.Response}
    (accepts : Accepts response) : ¬Rejects response := by
  intro rejects
  have bound := accepts.1.2
  have status := rejects.status
  omega

theorem Accepts.shallow {response : Http.Response} (accepts : Accepts response) :
    Http.Response.bodyNesting? response.body = none := by
  obtain ⟨_, answer, object, _⟩ := accepts_iff.mp accepts
  exact Ending.shallow_of_object? object

/-- A final answer amounts to success or to a failure of the server. -/
theorem result_cases (response : Http.Response) (locale : String) :
    (Accepts response ∧ ∃ payload,
        result response locale = .succeeded payload response.status) ∨
      (¬Accepts response ∧ ∃ error payload,
        result response locale =
          .failed error .server (some response.status) payload) := by
  rw [accepts_iff]
  unfold result
  cases object : response.object? with
  | none => exact .inr ⟨by simp, _, _, rfl⟩
  | some answer =>
      by_cases accepted :
          (response.isSuccess && reportsSuccess answer) = true
      · refine .inl ⟨?_, _, if_pos accepted⟩
        rw [Bool.and_eq_true] at accepted
        exact ⟨accepted.1, answer, rfl, accepted.2⟩
      · refine .inr ⟨?_, _, _, if_neg accepted⟩
        rintro ⟨success, other, same, reports⟩
        cases same
        exact accepted (by rw [success, reports]; rfl)

end Answer

namespace Ending

variable {ending : Ending} {failure : Http.Failure}

theorem TimedOut.not_networkFailed (late : ending.TimedOut) :
    ¬ending.NetworkFailed := by
  rintro ⟨other, rfl, network⟩
  rcases late with expired | ⟨same, failed, timeout⟩
  · cases expired
  · cases failed
    exact timeout.not_isNetwork network

theorem TimedOut.not_faulted (late : ending.TimedOut) :
    ¬ending.Faulted failure := by
  rintro ⟨read, foreign⟩
  rcases late with rfl | ⟨same, rfl, timeout⟩
  · cases read
  · cases read
    exact timeout.not_isForeign foreign

theorem NetworkFailed.not_faulted (network : ending.NetworkFailed) :
    ¬ending.Faulted failure := by
  rintro ⟨read, foreign⟩
  obtain ⟨same, rfl, network⟩ := network
  cases read
  exact network.not_isForeign foreign

theorem TimedOut.not_rejects (late : ending.TimedOut) : ¬ending.Rejects := by
  rintro ⟨response, rfl, _⟩
  exact not_timedOut_answered response late

theorem NetworkFailed.not_rejects (network : ending.NetworkFailed) :
    ¬ending.Rejects := by
  rintro ⟨response, rfl, _⟩
  exact not_networkFailed_answered response network

/-- An answer that cannot be read to its end does not turn the token down. -/
theorem Faulted.not_rejects (fault : ending.Faulted failure) :
    ¬ending.Rejects := by
  rintro ⟨response, rfl, rejects⟩
  exact not_faulted_of_shallow rejects.shallow failure fault

theorem Faulted.eq {other : Http.Failure} (fault : ending.Faulted failure)
    (again : ending.Faulted other) : failure = other := by
  have same := fault.1.symm.trans again.1
  cases same
  rfl

end Ending

namespace Call

/-- A request that has ended in this way is not the last one of its call. -/
def Continues : Wait → Ending → Prop
  | .token _, ending => ¬ending.TimedOut ∧ ∀ failure, ¬ending.Faulted failure
  | .answer .first _, ending => ending.Rejects
  | .answer (.second _) _, _ => False

/-- A call returns a failure of a kind. -/
def FailsAs (outcome : Outcome) (kind : FailureKind) : Prop :=
  ∃ result, outcome = .ok result ∧ result.failure = some kind

instance (outcome : Outcome) (kind : FailureKind) :
    Decidable (FailsAs outcome kind) :=
  decidable_of_iff (∃ result ∈ outcome.toOption, result.failure = some kind)
    (by cases outcome <;> simp [FailsAs, Except.toOption])

def Succeeds (outcome : Outcome) : Prop :=
  ∃ result, outcome = .ok result ∧ result.success = true

/-- A second transmission that is turned down ends the call and leaves the cell
alone. -/
theorem Resumed.rejected_second {call : Call} {settings : Settings}
    {jar : Http.CookieJar} {cell after : TokenCell} {rejected : Option String}
    {headers : Http.Headers} {ending : Ending} {next : Next}
    (resumed : Resumed call settings jar cell
      (.answer (.second rejected) headers) ending after next)
    (rejects : ending.Rejects) :
    after = cell ∧ ∃ outcome, next = .done outcome ∧
      FailsAs outcome .tokenRejected := by
  cases resumed with
  | rejectedAgain object rejection => exact ⟨rfl, _, rfl, _, rfl, rfl⟩
  | finished shallow final =>
      obtain ⟨_, same, rejects⟩ := rejects
      cases same
      exact absurd rejects final
  | late late => exact absurd rejects late.not_rejects
  | unreachable network => exact absurd rejects network.not_rejects
  | faulted fault => exact absurd rejects fault.not_rejects

/-- What a result says besides its kind: a status when there is an answer, and
that of the answer. -/
def Described (ending : Ending) (result : ApiResult) : Prop :=
  match result.failure with
  | some .timeout | some .network =>
      result.success = false ∧ result.status = none ∧ result.payload = []
  | some .tokenRejected => result.success = false ∧ result.status = some 403
  | some .server =>
      result.success = false ∧ ∃ response, ending = .answered response ∧
        result.status = some response.status
  | none =>
      result.success = true ∧ ∃ response, ending = .answered response ∧
        result.status = some response.status

/-- A call that has asked for all of this has this outcome because the last
request has ended in this way. -/
structure Classified (asks : List Wait) (what : Wait) (ending : Ending)
    (outcome : Outcome) : Prop where
  timeout : FailsAs outcome .timeout ↔ ending.TimedOut
  network : FailsAs outcome .network ↔
    what.transmits = true ∧ ending.NetworkFailed
  tokenRejected : FailsAs outcome .tokenRejected ↔
    what.transmits = true ∧ asks.countP Wait.transmits = 2 ∧ ending.Rejects
  success : Succeeds outcome ↔
    what.transmits = true ∧
      ∃ response, ending = .answered response ∧ Answer.Accepts response
  server : FailsAs outcome .server ↔
    what.transmits = true ∧
      ∃ response, ending = .answered response ∧
        Http.Response.bodyNesting? response.body = none ∧
        ¬Answer.Accepts response ∧ ¬Answer.Rejects response
  raises : ∀ failure, outcome = .error failure ↔ ending.Faulted failure
  described : ∀ result, outcome = .ok result → Described ending result

variable {call : Call} {settings : Settings} {asks : List Wait} {what : Wait}
  {ending : Ending}

theorem classified_late (late : ending.TimedOut) (error : String) :
    Classified asks what ending (.ok (.failed error .timeout none [])) := by
  have noNetwork := late.not_networkFailed
  have noFault : ∀ failure, ¬ending.Faulted failure := fun _ => late.not_faulted
  have noAnswer : ∀ response, ending ≠ .answered response := by
    rintro response rfl
    exact Ending.not_timedOut_answered response late
  constructor <;>
    simp [FailsAs, Succeeds, Described, ApiResult.failed, late, late.not_rejects,
      noNetwork, noFault, noAnswer]

theorem classified_unreachable (transmits : what.transmits = true)
    (network : ending.NetworkFailed) (error : String) :
    Classified asks what ending (.ok (.failed error .network none [])) := by
  have notLate : ¬ending.TimedOut := fun late => late.not_networkFailed network
  have noFault : ∀ failure, ¬ending.Faulted failure :=
    fun _ => network.not_faulted
  have noAnswer : ∀ response, ending ≠ .answered response := by
    rintro response rfl
    exact Ending.not_networkFailed_answered response network
  constructor <;>
    simp [FailsAs, Succeeds, Described, ApiResult.failed, transmits, network,
      network.not_rejects, notLate, noFault, noAnswer]

theorem classified_faulted {failure : Http.Failure}
    (fault : ending.Faulted failure) :
    Classified asks what ending (.error failure) := by
  have notLate : ¬ending.TimedOut := fun late => late.not_faulted fault
  have noNetwork : ¬ending.NetworkFailed :=
    fun network => network.not_faulted fault
  -- an answer that cannot be read to its end is none of those that count
  have deep : ∀ response, ending = .answered response →
      Http.Response.bodyNesting? response.body ≠ none := by
    rintro response rfl shallow
    exact Ending.not_faulted_of_shallow shallow failure fault
  have noSuccess : ∀ response, ending = .answered response →
      ¬Answer.Accepts response :=
    fun response answered accepts => deep response answered accepts.shallow
  constructor
  · simp [FailsAs, notLate]
  · simp [FailsAs, noNetwork]
  · simp [FailsAs, fault.not_rejects]
  · simpa [Succeeds] using fun _ => noSuccess
  · simp only [FailsAs, reduceCtorEq, false_and, exists_const, false_iff]
    rintro ⟨_, response, answered, shallow, _⟩
    exact deep response answered shallow
  · intro other
    rw [Except.error.injEq]
    constructor
    · rintro rfl
      exact fault
    · exact fault.eq
  · intro result returns
    cases returns

theorem classified_final {response : Http.Response} (transmits : what.transmits = true)
    (shallow : Http.Response.bodyNesting? response.body = none)
    (final : ¬Answer.Rejects response) (locale : String) :
    Classified asks what (.answered response)
      (.ok (Answer.result response locale)) := by
  have notLate := Ending.not_timedOut_answered response
  have noNetwork := Ending.not_networkFailed_answered response
  have noFault := Ending.not_faulted_of_shallow shallow
  have noRejection : ¬(Ending.answered response).Rejects := by
    rintro ⟨_, same, rejects⟩
    cases same
    exact final rejects
  rcases Answer.result_cases response locale with
    ⟨accepts, payload, resultEq⟩ | ⟨fails, error, payload, resultEq⟩
  · rw [resultEq]
    constructor <;>
      simp [FailsAs, Succeeds, Described, ApiResult.succeeded, transmits,
        notLate, noNetwork, noFault, noRejection, accepts]
  · rw [resultEq]
    constructor <;>
      simp [FailsAs, Succeeds, Described, ApiResult.failed, transmits, notLate,
        noNetwork, noFault, noRejection, fails, shallow, final]

theorem classified_rejectedAgain {response : Http.Response} {answer : Fields}
    (transmits : what.transmits = true)
    (second : asks.countP Wait.transmits = 2)
    (object : response.object? = some answer)
    (rejection : Answer.isRejection response.status answer = true)
    (error : String) (payload : Fields) :
    Classified asks what (.answered response)
      (.ok (.failed error .tokenRejected (some response.status) payload)) := by
  have rejects : Answer.Rejects response := ⟨answer, object, rejection⟩
  have notLate := Ending.not_timedOut_answered response
  have noNetwork := Ending.not_networkFailed_answered response
  have noFault := Ending.not_faulted_of_shallow rejects.shallow
  have noSuccess : ¬Answer.Accepts response :=
    fun accepts => Answer.not_rejects_of_accepts accepts rejects
  have status := rejects.status
  constructor <;>
    simp [FailsAs, Succeeds, Described, ApiResult.failed, Ending.Rejects,
      transmits, second, status, notLate, noNetwork, noFault, noSuccess, rejects]

theorem not_continues_answer {attempt : Attempt} {headers : Http.Headers}
    (final : ¬ending.Rejects) : ¬Continues (.answer attempt headers) ending := by
  cases attempt with
  | first => exact final
  | second rejected => exact id

/-- What follows a request is determined by how it has ended: the call asks for
something more, or it ends as classified. -/
theorem resumed_classified {past : List (Wait × Ending)} {jar : Http.CookieJar}
    {cell after : TokenCell} {next : Next}
    (ascii : Http.Headers.IsAsciiName settings.tokenHeader)
    (history : History call settings past what)
    (resumed : Resumed call settings jar cell what ending after next) :
    (Continues what ending ∧ ∃ asked, next = .wait asked) ∨
      (¬Continues what ending ∧ ∃ outcome, next = .done outcome ∧
        Classified (past.map Prod.fst ++ [what]) what ending outcome) := by
  cases resumed with
  | issued issues =>
      exact .inl ⟨⟨Ending.not_timedOut_answered _,
        Ending.not_faulted_of_shallow (Answer.shallow_of_issues issues)⟩, _, rfl⟩
  | unissued shallow missing =>
      exact .inl ⟨⟨Ending.not_timedOut_answered _,
        Ending.not_faulted_of_shallow shallow⟩, _, rfl⟩
  | unfetched network =>
      exact .inl ⟨⟨fun late => late.not_networkFailed network,
        fun _ => network.not_faulted⟩, _, rfl⟩
  | late late =>
      refine .inr ⟨?_, _, rfl, classified_late late _⟩
      cases what with
      | token attempt => exact fun continues => continues.1 late
      | answer attempt headers => exact not_continues_answer late.not_rejects
  | finished shallow final =>
      refine .inr ⟨not_continues_answer ?_, _, rfl,
        classified_final rfl shallow final _⟩
      rintro ⟨response, same, rejects⟩
      cases same
      exact final rejects
  | retried rejects named attempted => exact .inl ⟨⟨_, rfl, rejects⟩, _, rfl⟩
  | unnamed rejects unnamed =>
      rw [Http.Headers.get?_of_ascii _ ascii] at unnamed
      cases unnamed
  | rejectedAgain object rejection =>
      refine .inr ⟨id, _, rfl, ?_⟩
      exact classified_rejectedAgain rfl history.countP_transmits object
        rejection _ _
  | unreachable network =>
      exact .inr ⟨not_continues_answer network.not_rejects, _, rfl,
        classified_unreachable rfl network _⟩
  | faulted fault =>
      refine .inr ⟨?_, _, rfl, classified_faulted fault⟩
      cases what with
      | token attempt => exact fun continues => continues.2 _ fault
      | answer attempt headers => exact not_continues_answer fault.not_rejects

theorem open?_of_ascii {descriptor : Descriptor} (freshId : String)
    (ascii : ∀ pair ∈ descriptor.headers.getD [],
      Http.Headers.IsAsciiName pair.1 ∧ Http.Headers.IsAsciiName pair.2) :
    ∃ call, open? descriptor freshId = .ok call ∧
      call.descriptor = descriptor := by
  have named : Http.Headers.IsAsciiName requestIdHeader := by decide +kernel
  unfold open?
  rw [Http.mapError_eq_ok_iff.mpr (Http.Headers.ofCaller?_of_ascii ascii)]
  simp only [bind, Except.bind]
  rw [Http.mapError_eq_ok_iff.mpr (Http.Headers.get?_of_ascii _ named)]
  exact ⟨_, rfl, rfl⟩

end Call

namespace Traffic

/-- What the requests of a call say about its outcome. -/
structure Determined (client : Client) (traffic : Traffic) (index : Nat)
    (asks : List Wait) (ends : List (Wait × Ending)) (stage : Stage) :
    Prop where
  /-- A call that is done has the outcome to which its last request has led. -/
  done : ∀ {outcome}, stage = .done outcome → ∃ what ending,
    asks.getLast? = some what ∧ ends.getLast? = some (what, ending) ∧
      ¬Call.Continues what ending ∧
        Call.Classified asks what ending outcome
  /-- A call whose request has ended can go on, and then either asks for
  something more or is done, depending on how the request has ended. -/
  ended : ∀ {what ending}, stage = .ended what ending →
    asks.getLast? = some what ∧ ends.getLast? = some (what, ending) ∧
      ∃ next, step client traffic (.resume index) = some next ∧
        ((Call.Continues what ending ∧ ∃ asked,
            next.stage? index = some (.asked asked traffic.now)) ∨
          (¬Call.Continues what ending ∧ ∃ outcome,
            next.stage? index = some (.done outcome) ∧
              Call.Classified asks what ending outcome))

variable {client : Client} {call : Call} {traffic : Traffic} {index : Nat}

theorem resume_isSome {what : Wait} {ending : Ending}
    (found : traffic.calls[index]? = some ⟨call, .ended what ending⟩) :
    ∃ next, step client traffic (.resume index) = some next := by
  simp [step, resume, found]

theorem done_classified {asks : List Wait}
    {ends : List (Wait × Ending)} {outcome : Outcome}
    (ascii : Http.Headers.IsAsciiName client.settings.tokenHeader)
    (recorded : Recorded call client.settings asks ends (.done outcome)) :
    ∃ what ending, asks.getLast? = some what ∧
      ends.getLast? = some (what, ending) ∧ ¬Call.Continues what ending ∧
        Call.Classified asks what ending outcome := by
  cases recorded with
  | done history concludes =>
      rename_i past what ending
      obtain ⟨jar, cell, after, resumed⟩ := concludes
      refine ⟨what, ending, List.getLast?_concat, List.getLast?_concat, ?_⟩
      rcases Call.resumed_classified ascii history resumed with
        ⟨_, asked, waits⟩ | ⟨final, other, same, classified⟩
      · cases waits
      · cases same
        exact ⟨final, classified⟩

theorem ended_classified {asks : List Wait}
    {ends : List (Wait × Ending)} {what : Wait} {ending : Ending}
    (ascii : Http.Headers.IsAsciiName client.settings.tokenHeader)
    (recorded : Recorded call client.settings asks ends (.ended what ending))
    (found : traffic.calls[index]? = some ⟨call, .ended what ending⟩) :
    asks.getLast? = some what ∧ ends.getLast? = some (what, ending) ∧
      ∃ next, step client traffic (.resume index) = some next ∧
        ((Call.Continues what ending ∧ ∃ asked,
            next.stage? index = some (.asked asked traffic.now)) ∨
          (¬Call.Continues what ending ∧ ∃ outcome,
            next.stage? index = some (.done outcome) ∧
              Call.Classified asks what ending outcome)) := by
  cases recorded with
  | ended history =>
      have enabled : ∃ next, step client traffic (.resume index) = some next :=
        resume_isSome found
      obtain ⟨next, taken⟩ := enabled
      obtain ⟨after, resumed, stage⟩ := resumed_of_step taken found
      refine ⟨List.getLast?_concat, List.getLast?_concat, next, taken, ?_⟩
      rcases Call.resumed_classified ascii history resumed with
        ⟨continues, asked, rfl⟩ | ⟨final, outcome, rfl, classified⟩
      · exact .inl ⟨continues, asked, stage⟩
      · exact .inr ⟨final, outcome, stage, classified⟩

/-- A descriptor whose header fields are ASCII can be sent, and whatever happens
to its requests and to the other calls, the last of them determines the outcome. -/
theorem run_determined {descriptor : Descriptor} (freshId : String)
    (asciiName : Http.Headers.IsAsciiName client.settings.tokenHeader)
    (asciiHeaders : ∀ pair ∈ descriptor.headers.getD [],
      Http.Headers.IsAsciiName pair.1 ∧ Http.Headers.IsAsciiName pair.2) :
    ∃ call, Call.open? descriptor freshId = .ok call ∧
      ∀ {cell jar moves traffic index stage},
        run? client (initial cell jar) moves = some traffic →
        traffic.calls[index]? = some ⟨call, stage⟩ →
          Determined client traffic index
            ((trail client (initial cell jar) moves index).filterMap
              Stage.asked?)
            ((trail client (initial cell jar) moves index).filterMap
              Stage.ended?)
            stage := by
  obtain ⟨call, opened, _⟩ := Call.open?_of_ascii freshId asciiHeaders
  refine ⟨call, opened, ?_⟩
  intro cell jar moves traffic index stage ran found
  have recorded := course_recorded (run_course ran found)
  constructor
  · rintro outcome rfl
    exact done_classified asciiName recorded
  · rintro what ending rfl
    exact ended_classified asciiName recorded found

/-- A call that is found to be turned down for good when its run is evaluated. -/
theorem exists_rejected_of_any (found : Option Traffic) (Holds : Traffic → Prop)
    [DecidablePred Holds] (index : Nat)
    (evaluated : found.any (fun traffic => Holds traffic ∧
      ((traffic.stage? index).bind Stage.outcome?).any fun outcome =>
        Call.FailsAs outcome .tokenRejected) = true) :
    ∃ traffic outcome, found = some traffic ∧ Holds traffic ∧
      traffic.stage? index = some (.done outcome) ∧
      Call.FailsAs outcome .tokenRejected := by
  obtain ⟨traffic, ran, evaluated⟩ := (Option.any_eq_true _ _).mp evaluated
  obtain ⟨holds, rejected⟩ := of_decide_eq_true evaluated
  obtain ⟨outcome, reached, fails⟩ := (Option.any_eq_true _ _).mp rejected
  exact ⟨traffic, outcome, ran, holds, outcome?_eq_some_iff.mp reached,
    of_decide_eq_true fails⟩

end Traffic

/-- Seven writes ask for a token at the same time.  Their requests run out of time,
fail in several ways, and are answered. -/
def Sample.sevenWrites : List Move :=
  List.replicate 7 (.begin write) ++ (List.range 5).map .launch ++
    [.fail 1 .readTimeout, .resume 1,
      .fail 2 .connect, .resume 2, .launch 2, .fail 2 .remoteProtocol, .resume 2,
      .fail 3 .runtime, .resume 3,
      .fail 4 .invalidUrl, .resume 4, .launch 4] ++
    answers 5 [issuing, turnedDown, issuing, turnedDown] ++
    answers 6 [issuing, fine] ++
    [.pass 30000000, .expire 0, .resume 0, .expire 4, .resume 4]

def Sample.sevenEnds : List (Except Http.Failure (Option FailureKind)) :=
  [.ok (some .timeout), .ok (some .timeout), .ok (some .network),
    .error (.transport .runtime), .ok (some .timeout),
    .ok (some .tokenRejected), .ok none]

namespace Traffic

/-- Each of seven writes ends as its last request says. -/
theorem run_determined_seven : ∃ traffic,
    run? Sample.client (initial .empty (.ofPairs [])) Sample.sevenWrites =
        some traffic ∧
      ∀ index ending, Sample.sevenEnds[index]? = some ending → ∃ outcome,
        traffic.calls[index]? = some ⟨Sample.write, .done outcome⟩ ∧
          outcome.map (·.failure) = ending ∧
          Determined Sample.client traffic index
            ((trail Sample.client (initial .empty (.ofPairs []))
              Sample.sevenWrites index).filterMap Stage.asked?)
            ((trail Sample.client (initial .empty (.ofPairs []))
              Sample.sevenWrites index).filterMap Stage.ended?)
            (.done outcome) := by
  obtain ⟨call, opened, determined⟩ := @run_determined Sample.client
    Sample.write.descriptor "1" (by decide +kernel) (by decide +kernel)
  have same : Call.open? Sample.write.descriptor "1" = .ok Sample.write := by
    rfl
  cases opened.symm.trans same
  have evaluated : (run? Sample.client (initial .empty (.ofPairs []))
      Sample.sevenWrites).any (fun traffic =>
        traffic.calls.map (fun entry => entry.stage.outcome?.map
          fun outcome => outcome.map (·.failure)) =
            Sample.sevenEnds.map some) = true := by
    decide +kernel
  obtain ⟨traffic, ran, ends⟩ := (Option.any_eq_true _ _).mp evaluated
  refine ⟨traffic, ran, fun index ending listed => ?_⟩
  have place := congrArg (·[index]?) (of_decide_eq_true ends)
  simp only [List.getElem?_map, listed, Option.map_some] at place
  obtain ⟨⟨call, stage⟩, found, reached⟩ := Option.map_eq_some_iff.mp place
  obtain ⟨outcome, done, kind⟩ := Option.map_eq_some_iff.mp reached
  have writes : Sample.sevenWrites.filterMap begun? =
      List.replicate 7 Sample.write := rfl
  have begun := List.mem_of_getElem? (run_call ran found)
  rw [writes] at begun
  obtain rfl := List.eq_of_mem_replicate begun
  cases stage with
  | done final =>
      cases done
      exact ⟨outcome, found, kind, determined ran found⟩
  | asked | inFlight | ended => cases done

end Traffic

end AdminGate

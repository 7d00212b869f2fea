import AdminGate.Proofs.Histories
import AdminGate.Proofs.RequestFields

/-!
# Bounded retry

A call sends its descriptor at most twice, the second time only because the
first time was turned down, and then it sends the same thing again: only the
token and the cookies may differ.  These bounds hold in any surroundings, since
they follow from the history of the call alone.
-/

namespace AdminGate

namespace Call

/-- A call asks for its first transmission and then for the second one, for each
of them perhaps with a token before it, and it may stop anywhere. -/
def Planned (asks : List Wait) : Prop :=
  ∃ first headers second rejected resent,
    (first = [] ∨ first = [.token .first]) ∧
    (second = [] ∨ second = [.token (.second rejected)]) ∧
      asks <+: first ++ .answer .first headers ::
        (second ++ [.answer (.second rejected) resent])

variable {call : Call} {settings : Settings} {past : List (Wait × Ending)}
  {what : Wait}

theorem History.planned_first {headers : Http.Headers}
    (history : History call settings past (.answer .first headers)) :
    past.map Prod.fst = [] ∨ past.map Prod.fst = [.token .first] := by
  rcases history.answer_first with rfl | ⟨ending, rfl⟩
  · exact .inl rfl
  · exact .inr rfl

theorem History.planned (history : History call settings past what) :
    Planned (past.map Prod.fst ++ [what]) := by
  match what with
  | .token .first =>
      rw [history.token_first]
      exact ⟨[.token .first], [], [], none, [], .inr rfl, .inl rfl, by simp⟩
  | .answer .first headers =>
      exact ⟨past.map Prod.fst, headers, [], none, [], history.planned_first,
        .inl rfl, by simp⟩
  | .token (.second rejected) =>
      obtain ⟨headers, earlier, rejects, named⟩ := history.token_second
      exact ⟨_, headers, [.token (.second rejected)], rejected, [],
        earlier.planned_first, .inr rfl, by simp⟩
  | .answer (.second rejected) resent =>
      rcases history.answer_second with
        ⟨headers, earlier, rejects, named⟩ |
        ⟨_, ending, ⟨headers, earlier, rejects, named⟩, rfl⟩
      · exact ⟨_, headers, [], rejected, resent, earlier.planned_first, .inl rfl,
          by simp⟩
      · exact ⟨_, headers, [.token (.second rejected)], rejected, resent,
          earlier.planned_first, .inr rfl, by simp⟩

theorem Planned.transmissions {asks : List Wait} (planned : Planned asks) :
    asks.countP Wait.transmits ≤ 2 := by
  obtain ⟨first, headers, second, rejected, resent, firstEq, secondEq,
    initial⟩ := planned
  apply Nat.le_trans initial.sublist.countP_le
  rcases firstEq with rfl | rfl <;> rcases secondEq with rfl | rfl <;>
    simp [List.countP_cons, Wait.transmits]

theorem Planned.tokenRequests {asks : List Wait} (planned : Planned asks) :
    asks.countP Wait.fetches ≤ 2 := by
  obtain ⟨first, headers, second, rejected, resent, firstEq, secondEq,
    initial⟩ := planned
  apply Nat.le_trans initial.sublist.countP_le
  rcases firstEq with rfl | rfl <;> rcases secondEq with rfl | rfl <;>
    simp [Wait.fetches, Wait.transmits]

/-- Two transmissions of a call: the same but for the token and the cookies. -/
structure Resent (call : Call) (settings : Settings)
    (first second : Http.Request) : Prop where
  method : first.method = second.method
  url : first.url = second.url
  firstBody : first.body = call.descriptor.sentBody
  secondBody : second.body = call.descriptor.sentBody
  firstName : first.headers.values requestIdKey = [call.context.requestId]
  secondName : second.headers.values requestIdKey = [call.context.requestId]
  headers : Http.Request.AgreeBeside settings.tokenKey first.headers
    second.headers

theorem composed_requestId {base : Http.Url} {jar : Http.CookieJar}
    {attempt : Attempt} {token : Option String} {request : Http.Request}
    (composed : Http.Request.Composed base jar
      (call.inquiry settings (.answer attempt (call.headersWith settings token)))
      request)
    (other : requestIdKey ≠ settings.tokenKey) :
    request.headers.values requestIdKey = [call.context.requestId] := by
  have given := call.headersWith_values_requestId token other
  have notCredentials : requestIdKey ≠ "authorization" := by decide +kernel
  have carried : request.headers.values requestIdKey =
      (call.headersWith settings token).values requestIdKey :=
    composed.values_of_given (by simp [inquiry, given])
      (absurd · notCredentials)
  rw [carried, given]

theorem composed_resent {base : Http.Url} {firstJar secondJar : Http.CookieJar}
    {firstAttempt secondAttempt : Attempt} {firstToken secondToken : Option String}
    {first second : Http.Request}
    (firstComposed : Http.Request.Composed base firstJar
      (call.inquiry settings
        (.answer firstAttempt (call.headersWith settings firstToken))) first)
    (secondComposed : Http.Request.Composed base secondJar
      (call.inquiry settings
        (.answer secondAttempt (call.headersWith settings secondToken))) second)
    (other : requestIdKey ≠ settings.tokenKey) :
    Resent call settings first second := by
  have agree : Http.Request.AgreeBeside settings.tokenKey
      (call.headersWith settings firstToken)
      (call.headersWith settings secondToken) := by
    intro key notToken notCookie
    rw [call.headersWith_values_other settings firstToken notToken,
      call.headersWith_values_other settings secondToken notToken]
  obtain ⟨url, body, headers⟩ :=
    firstComposed.agreeBeside secondComposed rfl rfl agree
  exact
    { method := firstComposed.method.trans secondComposed.method.symm
      url := url
      firstBody := firstComposed.body
      secondBody := secondComposed.body
      firstName := composed_requestId firstComposed other
      secondName := composed_requestId secondComposed other
      headers := headers }

end Call

namespace Traffic

/-- The bounds on what a call asks for, in what it has asked for, what of it has
reached the transport, and what of it has ended. -/
structure BoundedRetry (client : Client) (call : Call) (asks : List Wait)
    (launches : List (Wait × Http.Request)) (ends : List (Wait × Ending))
    (stage : Stage) : Prop where
  planned : Call.Planned asks
  /-- At most two transmissions, and at most two requests for tokens. -/
  transmissions : asks.countP Wait.transmits ≤ 2
  tokenRequests : asks.countP Wait.fetches ≤ 2
  /-- Nothing reaches the transport that is not asked for, or twice. -/
  launchedOnce : (launches.map Prod.fst).Sublist asks
  /-- What is asked for reaches the transport, if it can be put together and
  there is any time for it, and all of it has ended when the call is done. -/
  settled : ∀ {outcome}, stage = .done outcome → ends.map Prod.fst = asks
  delivered : ∀ ended ∈ ends, Delivered client call launches ended.1 ended.2
  readsFetchNothing : call.descriptor.isRead = true →
    asks.countP Wait.fetches = 0
  secondOnlyIfRejected : ∀ what ∈ asks, what.attempt ≠ .first →
    ∃ headers response,
      (.answer .first headers, .answered response) ∈ ends ∧
        Answer.Rejects response
  /-- A transmission that ends in another way is the last request. -/
  silentAfterwards : ∀ {attempt headers ending},
    (.answer attempt headers, ending) ∈ ends →
      ¬(attempt = .first ∧ ending.Rejects) →
        ∃ before, asks = before ++ [.answer attempt headers]
  /-- A rejected first transmission is followed by a second one, unless the
  request for a token fails in between or the rejected token cannot be looked up
  under a name outside ASCII. -/
  resent : ∀ {outcome headers response}, stage = .done outcome →
    (.answer .first headers, .answered response) ∈ ends →
    Answer.Rejects response →
      (∃ rejected again, .answer (.second rejected) again ∈ asks) ∨
      (call.descriptor.isRead = false ∧ ∃ rejected ending,
        (.token (.second rejected), ending) ∈ ends ∧
          (ending.TimedOut ∨ ∃ failure, ending.Faulted failure)) ∨
      (¬Http.Headers.IsAsciiName client.settings.tokenHeader ∧
        ∃ run, headers.get? client.settings.tokenHeader = .error run ∧
          outcome = .error (.notAscii run))
  identical : ∀ first ∈ launches, ∀ second ∈ launches,
    first.1.transmits = true → second.1.transmits = true →
      call.Resent client.settings first.2 second.2

variable {client : Client} {call : Call} {settings : Settings}
  {asks : List Wait} {launches : List (Wait × Http.Request)}
  {ends : List (Wait × Ending)} {stage : Stage}

theorem Recorded.planned (recorded : Recorded call settings asks ends stage) :
    Call.Planned asks := by
  obtain ⟨past, what, history, rfl, _⟩ := recorded.history
  exact history.planned

theorem Recorded.settled {outcome : Outcome}
    (recorded : Recorded call settings asks ends stage)
    (done : stage = .done outcome) : ends.map Prod.fst = asks := by
  subst done
  cases recorded with
  | done history concludes => rw [List.map_append, List.map_singleton]

theorem Recorded.readsFetchNothing
    (recorded : Recorded call settings asks ends stage)
    (reads : call.descriptor.isRead = true) :
    asks.countP Wait.fetches = 0 := by
  rw [List.countP_eq_zero]
  intro what member fetches
  obtain ⟨before, _, history⟩ := recorded.of_mem member
  cases what with
  | token attempt =>
      have writes := history.writes
      rw [reads] at writes
      cases writes
  | answer attempt headers => cases fetches

theorem Recorded.secondOnlyIfRejected {what : Wait}
    (recorded : Recorded call settings asks ends stage) (member : what ∈ asks)
    (second : what.attempt ≠ .first) :
    ∃ headers response,
      (.answer .first headers, .answered response) ∈ ends ∧
        Answer.Rejects response := by
  obtain ⟨before, inside, history⟩ := recorded.of_mem member
  obtain ⟨headers, response, ended, rejects⟩ := history.rejects_of_second second
  exact ⟨headers, response, inside ended, rejects⟩

theorem Recorded.silentAfterwards {attempt : Attempt} {headers : Http.Headers}
    {ending : Ending} (recorded : Recorded call settings asks ends stage)
    (member : (.answer attempt headers, ending) ∈ ends)
    (final : ¬(attempt = .first ∧ ending.Rejects)) :
    ∃ before, asks = before ++ [.answer attempt headers] := by
  obtain ⟨past, what, history, rfl, endsEq⟩ := recorded.history
  rcases endsEq with rfl | ⟨last, rfl⟩
  · exact absurd (history.rejects_of_mem member) final
  · rcases List.mem_append.mp member with member | member
    · exact absurd (history.rejects_of_mem member) final
    · cases List.mem_singleton.mp member
      exact ⟨_, rfl⟩

/-- Nothing but its own failure keeps a request for a token from being followed
by a transmission. -/
theorem concludes_token {attempt : Attempt} {ending : Ending} {outcome : Outcome}
    (concludes : call.Concludes settings (.token attempt) ending outcome) :
    ending.TimedOut ∨ ∃ failure, ending.Faulted failure := by
  obtain ⟨jar, cell, after, resumed⟩ := concludes
  generalize next : Next.done outcome = done at resumed
  cases resumed with
  | issued | unissued | unfetched => cases next
  | late late => exact .inl late
  | faulted fault => exact .inr ⟨_, fault⟩

/-- A rejected first transmission ends a call only when the call cannot tell
with which token it was turned down. -/
theorem concludes_rejected {headers : Http.Headers} {response : Http.Response}
    {outcome : Outcome} (rejects : Answer.Rejects response)
    (concludes : call.Concludes settings (.answer .first headers)
      (.answered response) outcome) :
    ¬Http.Headers.IsAsciiName settings.tokenHeader ∧
      ∃ run, headers.get? settings.tokenHeader = .error run ∧
        outcome = .error (.notAscii run) := by
  obtain ⟨jar, cell, after, resumed⟩ := concludes
  rcases resumed.of_rejected rejects with
    ⟨rejected, what, _, waits, _⟩ | ⟨run, unnamed, ends⟩
  · cases waits
  · cases ends
    refine ⟨?_, run, unnamed, rfl⟩
    intro ascii
    rw [Http.Headers.get?_of_ascii headers ascii] at unnamed
    cases unnamed

theorem Recorded.resent {outcome : Outcome} {headers : Http.Headers}
    {response : Http.Response}
    (recorded : Recorded call settings asks ends (.done outcome))
    (member : (.answer .first headers, .answered response) ∈ ends)
    (rejects : Answer.Rejects response) :
    (∃ rejected again, .answer (.second rejected) again ∈ asks) ∨
      (call.descriptor.isRead = false ∧ ∃ rejected ending,
        (.token (.second rejected), ending) ∈ ends ∧
          (ending.TimedOut ∨ ∃ failure, ending.Faulted failure)) ∨
      (¬Http.Headers.IsAsciiName settings.tokenHeader ∧
        ∃ run, headers.get? settings.tokenHeader = .error run ∧
          outcome = .error (.notAscii run)) := by
  cases recorded with
  | done history concludes =>
      rename_i past what ending
      match what with
      | .token .first =>
          rw [history.token_first] at member
          cases List.mem_singleton.mp member
      | .answer .first again =>
          rcases List.mem_append.mp member with member | member
          · rcases history.answer_first with rfl | ⟨earlier, rfl⟩
            · cases member
            · cases List.mem_singleton.mp member
          · cases List.mem_singleton.mp member
            exact .inr (.inr (concludes_rejected rejects concludes))
      | .token (.second rejected) =>
          exact .inr (.inl ⟨history.writes, rejected, ending, by simp,
            concludes_token concludes⟩)
      | .answer (.second rejected) again =>
          exact .inl ⟨rejected, again, by simp⟩

/-- What a call transmits is put together from its fields and some token. -/
theorem composed_of_launched {launch : Wait × Http.Request}
    (recorded : Recorded call client.settings asks ends stage)
    (transported : Transported client call asks launches ends stage)
    (launched : launch ∈ launches) (transmits : launch.1.transmits = true) :
    ∃ jar attempt token, Http.Request.Composed client.base jar
      (call.inquiry client.settings
        (.answer attempt (call.headersWith client.settings token)))
      launch.2 := by
  obtain ⟨what, request⟩ := launch
  have asked : what ∈ asks :=
    transported.underway.sublist.subset (List.mem_map_of_mem launched)
  obtain ⟨jar, composed⟩ := transported.composed _ launched
  obtain ⟨before, _, history⟩ := recorded.of_mem asked
  cases what with
  | token attempt => cases transmits
  | answer attempt headers =>
      obtain ⟨token, rfl⟩ := history.headers_eq
      exact ⟨jar, attempt, token, Http.Request.compose?_composed composed⟩

theorem identical (recorded : Recorded call client.settings asks ends stage)
    (transported : Transported client call asks launches ends stage)
    (otherName : Call.requestIdKey ≠ client.settings.tokenKey)
    {first second : Wait × Http.Request}
    (firstLaunched : first ∈ launches) (secondLaunched : second ∈ launches)
    (firstTransmits : first.1.transmits = true)
    (secondTransmits : second.1.transmits = true) :
    call.Resent client.settings first.2 second.2 := by
  obtain ⟨firstJar, _, _, firstComposed⟩ :=
    composed_of_launched recorded transported firstLaunched firstTransmits
  obtain ⟨secondJar, _, _, secondComposed⟩ :=
    composed_of_launched recorded transported secondLaunched secondTransmits
  exact Call.composed_resent firstComposed secondComposed otherName

/-- Every call of every run keeps within the bounds. -/
theorem run_boundedRetry {cell : TokenCell} {jar : Http.CookieJar}
    {moves : List Move} {traffic : Traffic} {index : Nat}
    (otherName : Call.requestIdKey ≠ client.settings.tokenKey)
    (ran : run? client (initial cell jar) moves = some traffic)
    (found : traffic.calls[index]? = some ⟨call, stage⟩) :
    BoundedRetry client call
      ((trail client (initial cell jar) moves index).filterMap Stage.asked?)
      ((trail client (initial cell jar) moves index).filterMap Stage.launched?)
      ((trail client (initial cell jar) moves index).filterMap Stage.ended?)
      stage := by
  have course := run_course ran found
  have recorded := course_recorded course
  have transported := course_transported course
  exact
    { planned := recorded.planned
      transmissions := recorded.planned.transmissions
      tokenRequests := recorded.planned.tokenRequests
      launchedOnce := transported.underway.sublist
      settled := recorded.settled
      delivered := transported.delivered
      readsFetchNothing := recorded.readsFetchNothing
      secondOnlyIfRejected := fun what => recorded.secondOnlyIfRejected
      silentAfterwards := recorded.silentAfterwards
      resent := by
        rintro outcome headers response rfl member rejects
        exact recorded.resent member rejects
      identical := fun first firstLaunched second secondLaunched =>
        identical recorded transported otherName firstLaunched secondLaunched }

/-- The second of two overlapping writes is transmitted twice, and keeps within
the bounds. -/
theorem run_boundedRetry_overlap : ∃ traffic stage,
    run? Sample.client (initial .empty Sample.staleJar) Sample.settled =
        some traffic ∧
      traffic.calls[1]? = some ⟨Sample.write, stage⟩ ∧
      (((trail Sample.client (initial .empty Sample.staleJar) Sample.settled
        1).filterMap Stage.launched?).map Prod.fst).countP Wait.transmits = 2 ∧
      BoundedRetry Sample.client Sample.write
        ((trail Sample.client (initial .empty Sample.staleJar) Sample.settled
          1).filterMap Stage.asked?)
        ((trail Sample.client (initial .empty Sample.staleJar) Sample.settled
          1).filterMap Stage.launched?)
        ((trail Sample.client (initial .empty Sample.staleJar) Sample.settled
          1).filterMap Stage.ended?)
        stage := by
  have runs : (run? Sample.client (initial .empty Sample.staleJar)
      Sample.settled).isSome = true := by
    decide +kernel
  have twice : (((trail Sample.client (initial .empty Sample.staleJar)
      Sample.settled 1).filterMap Stage.launched?).map Prod.fst).countP
        Wait.transmits = 2 := by
    decide +kernel
  obtain ⟨traffic, ran⟩ := Option.isSome_iff_exists.mp runs
  have second : (traffic.calls.map OpenCall.call)[1]? = some Sample.write := by
    rw [run_calls ran]
    rfl
  rw [List.getElem?_map] at second
  obtain ⟨⟨call, stage⟩, found, rfl⟩ := Option.map_eq_some_iff.mp second
  exact ⟨traffic, stage, ran, found, twice,
    run_boundedRetry (by decide +kernel) ran found⟩

/-- A reading call of a client whose anti-forgery field has a name outside ASCII
is turned down, and is not sent again. -/
theorem rejected_read_not_resent : ∃ traffic failure,
    run? Sample.foreignClient (initial .empty []) Sample.rejectedRead =
        some traffic ∧
      traffic.stage? 0 = some (.done (.error failure)) ∧
      Sample.read.descriptor.isRead = true ∧
      (trail Sample.foreignClient (initial .empty []) Sample.rejectedRead
        0).filterMap Stage.asked? =
          [.answer .first
            (Sample.read.headersWith Sample.foreignClient.settings none)] ∧
      (.answer .first
          (Sample.read.headersWith Sample.foreignClient.settings none),
        .answered Sample.turnedDown) ∈
          (trail Sample.foreignClient (initial .empty []) Sample.rejectedRead
            0).filterMap Stage.ended? ∧
      Answer.Rejects Sample.turnedDown := by
  have raises : (run? Sample.foreignClient (initial .empty [])
      Sample.rejectedRead).any (fun traffic =>
        ((traffic.stage? 0).bind Stage.outcome?).any fun outcome =>
          !outcome.isOk) = true := by
    decide +kernel
  obtain ⟨traffic, ran, raises⟩ := (Option.any_eq_true _ _).mp raises
  obtain ⟨outcome, reached, raises⟩ := (Option.any_eq_true _ _).mp raises
  rw [outcome?_eq_some_iff] at reached
  cases outcome with
  | ok result => cases raises
  | error failure =>
      exact ⟨traffic, failure, ran, reached, by decide +kernel, by decide +kernel,
        by decide +kernel, by decide +kernel⟩

end Traffic

end AdminGate

import AdminGate.Proofs.Histories
import AdminGate.Proofs.RequestFields

/-!
# Where tokens come from

The cell says of its token where it came from, and what it says is true: the
token was there from the start, or it was read off the jar or out of an answer of
the token endpoint when it was stored.  What a write says under the name of the
token is likewise traced back to the cell, or to the caller when there was no
token to be found.
-/

namespace AdminGate

/-- An answer issues a token: it is an object that reports success in so many
words, with this token in its clean form. -/
structure Answer.Issues (response : Http.Response) (token : String) : Prop where
  reported : ∃ answer, response.object? = some answer ∧
    (∃ success, answer.get? "success" = some success ∧
      success.isTruthy = true) ∧
    ∃ value, answer.get? "token" = some value ∧ value.cleaned = token
  notBlank : token ≠ ""

theorem Answer.issuedToken?_eq_some_iff {response : Http.Response}
    {token : String} :
    issuedToken? response = some token ↔ Issues response token := by
  simp only [issuedToken?, String.isEmpty_iff, Option.ite_none_left_eq_some,
    Option.some.injEq]
  constructor
  · rintro ⟨notBlank, rfl⟩
    refine ⟨?_, notBlank⟩
    cases object : response.object? with
    | none => simp [object, Assoc.get?, Json.isTruthy] at notBlank
    | some answer =>
        simp only [object, Option.getD_some] at notBlank ⊢
        cases success : answer.get? "success" with
        | none => simp [success, Json.isTruthy] at notBlank
        | some value =>
            cases truthy : value.isTruthy with
            | false => simp [success, truthy] at notBlank
            | true =>
                simp only [success, Option.getD_some, truthy, if_true]
                  at notBlank ⊢
                cases field : answer.get? "token" with
                | none =>
                    simp [field, Json.cleaned, Json.isTruthy] at notBlank
                | some text =>
                    exact ⟨answer, rfl, ⟨value, success, truthy⟩, text, field,
                      rfl⟩
  · rintro ⟨⟨answer, object, ⟨success, reports, truthy⟩, value, field, rfl⟩,
      notBlank⟩
    simp [object, reports, truthy, field, notBlank]

/-- What a cell holds that is made from a value is the value in its clean
form. -/
theorem TokenCell.initial_held {value : Json} {cell : TokenCell}
    {held : HeldToken} (started : initial value = .ok cell)
    (holds : cell.held = some held) :
    value.isTruthy = true ∧ held = ⟨value.cleaned, .cached⟩ := by
  unfold initial at started
  split at started
  · rename_i truthy
    refine ⟨truthy, ?_⟩
    simp only [remember] at started
    split at started
    · cases started
    · cases started
      exact (Option.some.inj holds).symm
  · cases started
    cases holds

/-- The end of a token request yields no token. -/
def Ending.Fruitless (ending : Ending) : Prop :=
  ∀ response, ending = .answered response →
    ∀ token, ¬Answer.Issues response token

namespace Call

variable {call : Call} {settings : Settings} {jar : Http.CookieJar}
  {cell after : TokenCell} {what : Wait} {ending : Ending}

theorem Attempted.cell_cases {attempt : Attempt}
    (attempted : Attempted call settings jar cell attempt after what) :
    after = cell ∨ ∃ value, jar.find settings.tokenCookie = .single value ∧
      after = .holding (Text.trimmed value) .cookie := by
  cases attempted with
  | reading reads => exact .inl rfl
  | ready writes found =>
      cases found with
      | held held allowed => exact .inl rfl
      | cookie unusable found => exact .inr ⟨_, found, rfl⟩
  | unready writes found =>
      cases found
      exact .inl rfl

/-- A call that goes on leaves the cell alone or empties it, or it stores the
cookie or a token that has been issued to it. -/
theorem Resumed.cell_cases {next : Next}
    (resumed : Resumed call settings jar cell what ending after next) :
    (after = cell ∨ after = .empty) ∨
      (∃ value, jar.find settings.tokenCookie = .single value ∧
        after = .holding (Text.trimmed value) .cookie) ∨
      ∃ attempt response token, what = .token attempt ∧
        ending = .answered response ∧ Answer.Issues response token ∧
        after = .holding token .serverIssued := by
  cases resumed with
  | issued issues =>
      exact .inr (.inr ⟨_, _, _, rfl, rfl,
        Answer.issuedToken?_eq_some_iff.mp issues, rfl⟩)
  | retried rejects named attempted =>
      rename_i rejected next
      rcases attempted.cell_cases with same | cookie
      · refine .inl ?_
        rw [same, TokenCell.drop_fst]
        split
        · exact .inr rfl
        · exact .inl rfl
      · exact .inr (.inl cookie)
  | unissued | unfetched | late | finished | unnamed | rejectedAgain
  | unreachable | faulted => exact .inl (.inl rfl)

theorem Resumed.cell_of_fruitless {attempt : Attempt} {next : Next}
    (resumed : Resumed call settings jar cell (.token attempt) ending after
      next) (fruitless : ending.Fruitless) : after = cell := by
  cases resumed with
  | issued issues =>
      exact absurd (Answer.issuedToken?_eq_some_iff.mp issues)
        (fruitless _ rfl _)
  | unissued | unfetched | late | faulted => rfl

end Call

namespace Traffic

/-! ## What is on record -/

/-- The token endpoint answers the request of a call for a token, and the answer
is read as this response. -/
def AnswersToken (client : Client) (index : Nat) (call : Call)
    (attempt : Attempt) (response : Http.Response) (traffic : Traffic)
    (move : Move) : Prop :=
  ∃ raw since number request, move = .answer index raw ∧
    traffic.calls[index]? =
      some ⟨call, .inFlight (.token attempt) since number request⟩ ∧
    (∃ jar, Http.Request.compose? client.base jar
      ⟨"GET", client.settings.tokenEndpoint, [], none⟩ = .ok request) ∧
    (request.receive client.year client.second traffic.jar raw).result =
      .ok response

/-- The token cookie that the jar holds goes into the cell, trimmed. -/
def StoresCookie (client : Client) (token : String) (traffic : Traffic)
    (move : Move) : Prop :=
  ∃ value next, traffic.jar.find client.settings.tokenCookie = .single value ∧
    Text.trimmed value = token ∧ step client traffic move = some next ∧
    next.cell = .holding token .cookie

/-- The token that a response issues goes into the cell when the call goes on
that has asked for it. -/
def StoresIssued (client : Client) (index : Nat) (call : Call)
    (attempt : Attempt) (response : Http.Response) (token : String)
    (traffic : Traffic) (move : Move) : Prop :=
  ∃ next, move = .resume index ∧
    traffic.calls[index]? =
      some ⟨call, .ended (.token attempt) (.answered response)⟩ ∧
    Answer.Issues response token ∧ step client traffic move = some next ∧
    next.cell = .holding token .serverIssued

/-- Where a token in the cell can have come from, and what the cell then says
about it. -/
inductive Origin (client : Client) (start : Traffic) (moves : List Move) :
    HeldToken → Prop where
  | inherited {held : HeldToken} (inherited : start.cell.held = some held) :
      Origin client start moves held
  | cookie {token : String}
      (stored : Sometime client (StoresCookie client token) start moves) :
      Origin client start moves ⟨token, .cookie⟩
  | issued {index : Nat} {call : Call} {attempt : Attempt}
      {response : Http.Response} {token : String}
      (answered : Sometime client
        (AnswersToken client index call attempt response) start moves)
      (stored : Sometime client
        (StoresIssued client index call attempt response token) start moves) :
      Origin client start moves ⟨token, .serverIssued⟩

/-- A call asks for a token when neither the cell nor the jar offers one that it
may use. -/
def AsksToken (client : Client) (index : Nat) (call : Call) (attempt : Attempt)
    (traffic : Traffic) (move : Move) : Prop :=
  ∃ since next, step client traffic move = some next ∧
    next.calls[index]? = some ⟨call, .asked (.token attempt) since⟩ ∧
    (∀ token, next.cell.token? = some token →
      some token = attempt.rejected) ∧
    ∀ token, (Call.cookieToken client.settings traffic.jar).1 = some token →
      some token = attempt.rejected

/-- A call decides on these fields for its transmission while the cell holds this
token. -/
def SetsToken (client : Client) (index : Nat) (call : Call) (attempt : Attempt)
    (headers : Http.Headers) (token : String) (traffic : Traffic)
    (move : Move) : Prop :=
  ∃ since next, step client traffic move = some next ∧
    next.calls[index]? = some ⟨call, .asked (.answer attempt headers) since⟩ ∧
    next.cell.token? = some token

/-- A call decides on these fields for its transmission after a token request
that has not come to a token. -/
def SetsNone (client : Client) (index : Nat) (call : Call) (attempt : Attempt)
    (headers : Http.Headers) (traffic : Traffic) (move : Move) : Prop :=
  ∃ ending since next, move = .resume index ∧
    traffic.calls[index]? = some ⟨call, .ended (.token attempt) ending⟩ ∧
    ending.Fruitless ∧ step client traffic move = some next ∧
    next.calls[index]? = some ⟨call, .asked (.answer attempt headers) since⟩

/-- How the token of a transmission was chosen. -/
inductive Chosen (client : Client) (start : Traffic) (moves : List Move)
    (index : Nat) (call : Call) (attempt : Attempt) (headers : Http.Headers) :
    Prop where
  | token {token : String}
      (carries : headers.values client.settings.tokenKey = [token])
      (held : Sometime client
        (SetsToken client index call attempt headers token) start moves)
  | none
      (carries : headers.values client.settings.tokenKey =
        call.headers.values client.settings.tokenKey)
      (sought : Sometime client (AsksToken client index call attempt) start
        moves)
      (missing : Sometime client
        (SetsNone client index call attempt headers) start moves)

/-- A step of a call whose token request has yielded no token, or has not ended
yet, leaves the cell alone. -/
def SparesCell (client : Client) (traffic : Traffic) (move : Move) : Prop :=
  ∀ index call stage attempt next, traffic.mover move = some index →
    traffic.calls[index]? = some ⟨call, stage⟩ →
    (∃ since, stage = .asked (.token attempt) since) ∨
      (∃ since number request,
        stage = .inFlight (.token attempt) since number request) ∨
      (∃ ending, stage = .ended (.token attempt) ending ∧
        ending.Fruitless) →
    step client traffic move = some next → next.cell = traffic.cell

/-- What is told about tokens in a run is true. -/
structure Authentic (client : Client) (cell : TokenCell) (jar : Http.CookieJar)
    (moves : List Move) (traffic : Traffic) : Prop where
  origin : ∀ held, traffic.cell.held = some held →
    Origin client (initial cell jar) moves held
  /-- A cell that is made for the client holds the token that it is made
  from. -/
  constructed : ∀ value held, TokenCell.initial value = .ok cell →
    cell.held = some held →
      value.isTruthy = true ∧ held = ⟨value.cleaned, .cached⟩
  chosen : ∀ index call stage attempt headers request,
    traffic.calls[index]? = some ⟨call, stage⟩ →
    call.descriptor.isRead = false →
    (.answer attempt headers, request) ∈
      (trail client (initial cell jar) moves index).filterMap
        Stage.launched? →
      Chosen client (initial cell jar) moves index call attempt headers
  /-- The transport is given what was chosen, unless the field is not up to the
  call. -/
  carried : ∀ index call stage attempt headers request,
    traffic.calls[index]? = some ⟨call, stage⟩ →
    (.answer attempt headers, request) ∈
      (trail client (initial cell jar) moves index).filterMap
        Stage.launched? →
      ¬request.Fills headers client.settings.tokenKey →
        request.headers.values client.settings.tokenKey =
          headers.values client.settings.tokenKey
  /-- The fields of a caller are those of the descriptor. -/
  supplied : ∀ descriptor freshId call,
    Call.open? descriptor freshId = .ok call →
      call.headers =
        (descriptor.headers.getD []).map fun pair => ⟨pair.1, pair.2⟩
  fruitless : Throughout client (SparesCell client) (initial cell jar) moves

variable {client : Client} {cell : TokenCell} {jar : Http.CookieJar}
  {moves : List Move} {traffic next : Traffic} {move : Move} {index : Nat}
  {call : Call} {attempt : Attempt} {headers : Http.Headers}

/-! ## The cell -/

/-- A step leaves the cell alone or empties it, or it stores a token. -/
theorem cell_of_step (taken : step client traffic move = some next) :
    (next.cell = traffic.cell ∨ next.cell = .empty) ∨
      (∃ token, next.cell = .holding token .cookie ∧
        StoresCookie client token traffic move) ∨
      ∃ index call attempt response token,
        next.cell = .holding token .serverIssued ∧
          StoresIssued client index call attempt response token traffic
            move := by
  cases step_stepped taken with
  | begun attempted jar calls =>
      rcases attempted.cell_cases with same | ⟨value, found, stored⟩
      · exact .inl (.inl same)
      · exact .inr (.inl ⟨_, stored, value, next, found, rfl, taken, stored⟩)
  | moved mover found step calls =>
      generalize nextJar : next.jar = jar, nextCell : next.cell = after at step
      cases step with
      | launched | unfit | answered | failed | windowless | expired =>
          exact .inl (.inl rfl)
      | resumed resumed =>
          rcases resumed.cell_cases with
            kept | ⟨value, offered, stored⟩ |
            ⟨attempt, response, token, rfl, rfl, issues, stored⟩
          · exact .inl kept
          · exact .inr (.inl ⟨_, stored, value, next, offered, rfl, taken,
              nextCell.trans stored⟩)
          · exact .inr (.inr ⟨_, _, attempt, response, token, stored, next,
              rfl, found, issues, taken, nextCell.trans stored⟩)
  | passed cell jar calls => exact .inl (.inl cell)

/-- A request for a token that has just ended with an answer has been answered by
the token endpoint. -/
theorem answersToken_of_step {stage : Stage} {response : Http.Response}
    {nextJar : Http.CookieJar} {nextCell : TokenCell}
    (ran : run? client (initial cell jar) moves = some traffic)
    (found : traffic.calls[index]? = some ⟨call, stage⟩)
    (step : StageStep client traffic call index move stage nextJar nextCell
      (.ended (.token attempt) (.answered response))) :
    AnswersToken client index call attempt response traffic move := by
  generalize ended : Stage.ended (.token attempt) (.answered response) = after
    at step
  cases step with
  | launched | unfit | failed | windowless | expired => cases ended
  | resumed resumed =>
      rename_i following
      cases following <;> cases ended
  | answered =>
      rename_i what since number request raw
      obtain ⟨rfl, answered⟩ := Stage.ended.inj ended
      have read := Ending.ofResult_eq_answered_iff.mp answered.symm
      have transported := course_transported (run_course ran found)
      obtain ⟨composedJar, composed⟩ :=
        transported.composed _ transported.underway.1
      exact ⟨raw, since, number, request, rfl, found, ⟨composedJar, composed⟩,
        read⟩

/-- An answer with which a token request has ended came from the token
endpoint. -/
theorem run_answersToken {stage : Stage} {response : Http.Response}
    (ran : run? client (initial cell jar) moves = some traffic)
    (found : traffic.calls[index]? = some ⟨call, stage⟩)
    (ended : stage = .ended (.token attempt) (.answered response)) :
    Sometime client (AnswersToken client index call attempt response)
      (initial cell jar) moves := by
  refine run_induction (fun moves traffic => ∀ {stage},
    traffic.calls[index]? = some ⟨call, stage⟩ →
      stage = .ended (.token attempt) (.answered response) →
        Sometime client (AnswersToken client index call attempt response)
          (initial cell jar) moves) ?_ ?_ ran found ended
  · intro stage found
    cases found
  · intro moves traffic move next ran earlier taken stage found ended
    rw [sometime_concat_iff ran]
    cases stage_origin taken found with
    | kept other before => exact .inl (earlier before ended)
    | begun begins => cases ended
    | moved mover before step =>
        rw [ended] at step
        exact .inr (answersToken_of_step ran before step)

theorem run_origin {held : HeldToken}
    (ran : run? client (initial cell jar) moves = some traffic)
    (holds : traffic.cell.held = some held) :
    Origin client (initial cell jar) moves held := by
  refine run_induction (fun moves traffic => ∀ {held},
    traffic.cell.held = some held → Origin client (initial cell jar) moves held)
    .inherited ?_ ran holds
  intro moves traffic move next ran earlier taken held holds
  rcases cell_of_step taken with
    (same | emptied) | ⟨token, stored, stores⟩ |
    ⟨index, call, attempt, response, token, stored, stores⟩
  · rw [same] at holds
    cases earlier holds with
    | inherited inherited => exact .inherited inherited
    | cookie stored => exact .cookie (stored.extend [move])
    | issued answered stored =>
        exact .issued (answered.extend [move]) (stored.extend [move])
  · rw [emptied] at holds
    cases holds
  · rw [stored] at holds
    cases holds
    exact .cookie ((sometime_concat_iff ran).mpr (.inr stores))
  · rw [stored] at holds
    cases holds
    obtain ⟨_, _, found, _⟩ := id stores
    exact .issued ((run_answersToken ran found rfl).extend [move])
      ((sometime_concat_iff ran).mpr (.inr stores))

theorem sparesCell (traffic : Traffic) (move : Move) :
    SparesCell client traffic move := by
  intro index call stage attempt next mover found waits taken
  cases step_stepped taken with
  | begun attempted jar calls =>
      obtain rfl := Option.some.inj mover
      simp at found
  | moved here before step calls =>
      obtain rfl := Option.some.inj (here.symm.trans mover)
      cases found.symm.trans before
      generalize next.jar = jar, next.cell = after at step
      cases step with
      | launched | unfit | answered | failed | windowless | expired => rfl
      | resumed resumed =>
          rcases waits with ⟨_, same⟩ | ⟨_, _, _, same⟩ | ⟨ending, same, fruitless⟩
          · cases same
          · cases same
          · cases same
            exact resumed.cell_of_fruitless fruitless
  | passed => cases mover

/-! ## The fields -/

theorem attempted_chosen {after : TokenCell} {settings : Settings}
    (attempted : call.Attempted settings jar cell attempt after
      (.answer attempt headers)) (writes : call.descriptor.isRead = false) :
    ∃ token, headers.values settings.tokenKey = [token] ∧
      after.token? = some token := by
  cases attempted with
  | reading reads =>
      rw [writes] at reads
      cases reads
  | ready _ found =>
      refine ⟨_, call.headersWith_values_token settings _, ?_⟩
      cases found with
      | held held allowed => exact held
      | cookie => rfl

theorem resumed_chosen {after : TokenCell} {settings : Settings} {what : Wait}
    {ending : Ending} {step : Next}
    (resumed : call.Resumed settings jar cell what ending after step)
    (asks : step = .wait (.answer attempt headers))
    (writes : call.descriptor.isRead = false) :
    (∃ token, headers.values settings.tokenKey = [token] ∧
      after.token? = some token) ∨
      (what = .token attempt ∧ ending.Fruitless ∧
        headers = call.headersWith settings none) := by
  cases resumed with
  | issued issues =>
      cases asks
      exact .inl ⟨_, call.headersWith_values_token settings _, rfl⟩
  | unissued shallow missing =>
      cases asks
      refine .inr ⟨rfl, ?_, rfl⟩
      rintro response ⟨⟩ token issues
      rw [Answer.issuedToken?_eq_some_iff.mpr issues] at missing
      cases missing
  | unfetched network =>
      cases asks
      refine .inr ⟨rfl, ?_, rfl⟩
      rintro response rfl
      exact absurd network (Ending.not_networkFailed_answered response)
  | retried rejects named attempted =>
      cases asks
      cases attempted.asks
      exact .inl (attempted_chosen attempted writes)
  | late | finished | unnamed | rejectedAgain | unreachable | faulted =>
      cases asks

/-- When a write decides on its fields, it takes the token that is in the cell
then, or it has just failed to get one. -/
theorem chosen_of_visits {since : Nat}
    (writes : call.descriptor.isRead = false)
    (visits : Visits client index call (.asked (.answer attempt headers) since)
      traffic move) :
    (∃ token, headers.values client.settings.tokenKey = [token] ∧
      SetsToken client index call attempt headers token traffic move) ∨
      (headers = call.headersWith client.settings none ∧
        SetsNone client index call attempt headers traffic move) := by
  obtain ⟨mover, next, taken, found⟩ := visits
  generalize asked : Stage.asked (.answer attempt headers) since = stage at found
  cases stage_origin taken found with
  | kept other => exact absurd mover other
  | begun begins absent here attempted =>
      cases asked
      cases attempted.asks
      obtain ⟨token, carries, held⟩ := attempted_chosen attempted writes
      exact .inl ⟨token, carries, _, next, taken, found, held⟩
  | moved here before step =>
      generalize next.jar = jar, nextCell : next.cell = after at step
      cases step with
      | launched | unfit | answered | failed | windowless | expired => cases asked
      | resumed resumed =>
          obtain ⟨asks, rfl⟩ := stageOf_eq_asked_iff.mp asked.symm
          rw [← asked] at found
          rcases resumed_chosen resumed asks writes with
            ⟨token, carries, held⟩ | ⟨rfl, fruitless, dressed⟩
          · rw [← nextCell] at held
            exact .inl ⟨token, carries, _, next, taken, found, held⟩
          · exact .inr ⟨dressed, _, _, next, rfl, before, fruitless, taken,
              found⟩

theorem attempted_unready {after : TokenCell} {settings : Settings}
    (attempted : call.Attempted settings jar cell attempt after
      (.token attempt)) :
    (∀ token, after.token? = some token → some token = attempt.rejected) ∧
      ∀ token, (Call.cookieToken settings jar).1 = some token →
        some token = attempt.rejected := by
  cases attempted with
  | unready writes found =>
      cases found with
      | missing unusable unoffered => exact ⟨unusable, unoffered⟩

theorem asksToken_of_visits {since : Nat}
    (visits : Visits client index call (.asked (.token attempt) since)
      traffic move) : AsksToken client index call attempt traffic move := by
  obtain ⟨mover, next, taken, found⟩ := visits
  generalize asked : Stage.asked (.token attempt) since = stage at found
  cases stage_origin taken found with
  | kept other => exact absurd mover other
  | begun begins absent here attempted =>
      cases asked
      cases attempted.asks
      exact ⟨_, next, taken, found, attempted_unready attempted⟩
  | moved here before step =>
      refine ⟨since, next, taken, asked ▸ found, ?_⟩
      generalize next.jar = jar, next.cell = after at step
      cases step with
      | launched | unfit | answered | failed | windowless | expired => cases asked
      | resumed resumed =>
          obtain ⟨asks, rfl⟩ := stageOf_eq_asked_iff.mp asked.symm
          cases resumed with
          | retried rejects named attempted =>
              cases asks
              cases attempted.asks
              exact attempted_unready attempted
          | issued | unissued | unfetched | late | finished | unnamed
          | rejectedAgain | unreachable | faulted => cases asks

theorem run_asked {stage : Stage} {what : Wait}
    (ran : run? client (initial cell jar) moves = some traffic)
    (found : traffic.calls[index]? = some ⟨call, stage⟩)
    (asked : what ∈ (trail client (initial cell jar) moves index).filterMap
      Stage.asked?) :
    ∃ since, Sometime client (Visits client index call (.asked what since))
      (initial cell jar) moves := by
  obtain ⟨visited, member, asks⟩ := List.mem_filterMap.mp asked
  cases visited with
  | asked other since =>
      obtain rfl := Option.some.inj asks
      exact ⟨since, run_visits ran found member⟩
  | inFlight | ended | done => cases asks

/-- Whatever reaches the transport has been asked for at a move of the run. -/
theorem asked_of_launched {stage : Stage} {what : Wait} {request : Http.Request}
    (ran : run? client (initial cell jar) moves = some traffic)
    (found : traffic.calls[index]? = some ⟨call, stage⟩)
    (launched : (what, request) ∈
      (trail client (initial cell jar) moves index).filterMap
        Stage.launched?) :
    ∃ before move after middle next since, moves = before ++ move :: after ∧
      run? client (initial cell jar) before = some middle ∧
      middle.mover move = some index ∧
      step client middle move = some next ∧
      next.calls[index]? = some ⟨call, .asked what since⟩ := by
  have transported := course_transported (run_course ran found)
  have asked := transported.underway.sublist.subset
    (List.mem_map_of_mem launched)
  obtain ⟨since, visits⟩ := run_asked ran found asked
  obtain ⟨before, move, after, middle, split, ranBefore, mover, next, taken,
    asks⟩ := visits.exists
  exact ⟨before, move, after, middle, next, since, split, ranBefore, mover,
    taken, asks⟩

/-- A write that has failed to get a token had looked for one. -/
theorem asksToken_of_setsNone
    (sets : Sometime client (SetsNone client index call attempt headers)
      (initial cell jar) moves) :
    Sometime client (AsksToken client index call attempt) (initial cell jar)
      moves := by
  obtain ⟨before, move, after, traffic, rfl, ran, _, _, _, _, found, _⟩ :=
    sets.exists
  have asked : Wait.token attempt ∈
      (trail client (initial cell jar) before index).filterMap
        Stage.asked? := by
    have recorded := course_recorded (run_course ran found)
    generalize (trail client (initial cell jar) before index).filterMap
      Stage.asked? = asks at recorded ⊢
    generalize (trail client (initial cell jar) before index).filterMap
      Stage.ended? = ends at recorded
    cases recorded with
    | ended history => simp
  obtain ⟨since, visits⟩ := run_asked ran found asked
  exact (visits.imp fun _ _ => asksToken_of_visits).extend (move :: after)

/-- The token of a transmission is one that was in the cell when it was chosen,
or there was none to be found. -/
theorem run_chosen {stage : Stage} {request : Http.Request}
    (otherName : Call.requestIdKey ≠ client.settings.tokenKey)
    (ran : run? client (initial cell jar) moves = some traffic)
    (found : traffic.calls[index]? = some ⟨call, stage⟩)
    (writes : call.descriptor.isRead = false)
    (launched : (.answer attempt headers, request) ∈
      (trail client (initial cell jar) moves index).filterMap
        Stage.launched?) :
    Chosen client (initial cell jar) moves index call attempt headers := by
  obtain ⟨before, move, after, middle, next, since, rfl, ranBefore, mover, taken,
    decides⟩ := asked_of_launched ran found launched
  have visit : Visits client index call (.asked (.answer attempt headers) since)
      middle move := ⟨mover, next, taken, decides⟩
  have moment : ∀ {event : Traffic → Move → Prop}, event middle move →
      Sometime client event (initial cell jar) (before ++ move :: after) := by
    intro event happens
    have now := (sometime_concat_iff ranBefore).mpr (.inr happens)
    simpa using now.extend after
  rcases chosen_of_visits writes visit with
    ⟨token, carries, sets⟩ | ⟨dressed, sets⟩
  · exact .token carries (moment sets)
  · refine .none ?_ (asksToken_of_setsNone (moment sets)) (moment sets)
    rw [dressed]
    exact Http.Headers.values_set_other (Ne.symm otherName)

theorem run_carried {stage : Stage} {request : Http.Request}
    (ran : run? client (initial cell jar) moves = some traffic)
    (found : traffic.calls[index]? = some ⟨call, stage⟩)
    (launched : (.answer attempt headers, request) ∈
      (trail client (initial cell jar) moves index).filterMap Stage.launched?)
    (free : ¬request.Fills headers client.settings.tokenKey) :
    request.headers.values client.settings.tokenKey =
      headers.values client.settings.tokenKey := by
  have transported := course_transported (run_course ran found)
  obtain ⟨composedJar, composed⟩ := transported.composed _ launched
  exact (Http.Request.compose?_composed composed).values_eq free

/-- What is told about tokens is true in every run of any number of calls. -/
theorem run_authentic
    (otherName : Call.requestIdKey ≠ client.settings.tokenKey)
    (ran : run? client (initial cell jar) moves = some traffic) :
    Authentic client cell jar moves traffic where
  origin := fun _ holds => run_origin ran holds
  constructed := fun _ _ => TokenCell.initial_held
  chosen := fun _ _ _ _ _ _ found writes launched =>
    run_chosen otherName ran found writes launched
  carried := fun _ _ _ _ _ _ found launched free =>
    run_carried ran found launched free
  supplied := fun _ _ _ opened => (Call.open?_eq_ok opened).2
  fruitless := .of_forall sparesCell moves

/-- Two writes overlap, and the token that one of them has been issued is in the
cell. -/
theorem run_authentic_overlap : ∃ traffic,
    run? Sample.client (initial .empty Sample.staleJar) Sample.overlap =
        some traffic ∧
      traffic.cell = .holding "v" .serverIssued ∧
      Authentic Sample.client .empty Sample.staleJar Sample.overlap traffic := by
  have runs : (run? Sample.client (initial .empty Sample.staleJar)
      Sample.overlap).any (fun traffic =>
        decide (traffic.cell = .holding "v" .serverIssued)) = true := by
    decide +kernel
  obtain ⟨traffic, ran, cell⟩ := (Option.any_eq_true _ _).mp runs
  exact ⟨traffic, ran, of_decide_eq_true cell,
    run_authentic (by decide +kernel) ran⟩

/-- Credentials of the address stand where the token was to be: the cell holds
one token all the time, the caller gives none, and the write carries neither that
token nor none. -/
theorem credentials_replace_token : ∃ traffic what request,
    run? Sample.credentialClient (initial (.holding "v" .cached) [])
        [.begin Sample.write, .launch 0] = some traffic ∧
      Throughout Sample.credentialClient
        (fun traffic _ => traffic.cell = .holding "v" .cached)
        (initial (.holding "v" .cached) []) [.begin Sample.write, .launch 0] ∧
      (traffic.stage? 0).bind Stage.launched? = some (what, request) ∧
      what.transmits = true ∧
      Sample.write.headers.values
        Sample.credentialClient.settings.tokenKey = [] ∧
      request.headers.values Sample.credentialClient.settings.tokenKey =
        ["Basic dTpw"] := by
  obtain ⟨traffic, what, request, ran, launched, transmits, carries⟩ :=
    exists_launched_of_any (run? Sample.credentialClient
      (initial (.holding "v" .cached) []) [.begin Sample.write, .launch 0]) 0
      (fun what request => what.transmits = true ∧ request.headers.values
        Sample.credentialClient.settings.tokenKey = ["Basic dTpw"])
      (by decide +kernel)
  exact ⟨traffic, what, request, ran, by decide +kernel, launched, transmits,
    by decide +kernel, carries⟩

end Traffic

end AdminGate

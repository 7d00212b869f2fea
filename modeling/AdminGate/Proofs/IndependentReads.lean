import AdminGate.Proofs.BoundedRetry
import AdminGate.Proofs.CellDiscipline
import AdminGate.Proofs.ReadStages
import AdminGate.Proofs.UnreadFields

/-!
# Reads do not depend on tokens

Two runs of one client may differ in everything that concerns tokens: in what the
cell holds at first, in the other calls and in the order of all steps.  As long
as the transport answers each request by itself, a read sends the same requests
in both and comes to the same.  The two calls are twins: they differ at most in
the names that were made up for them, which nobody reads.
-/

namespace AdminGate

namespace Call

/-- A call has the name that its caller gives it, or else the one made up for
it. -/
theorem open?_requestId {descriptor : Descriptor} {freshId : String}
    {call : Call} (opened : open? descriptor freshId = .ok call) :
    call.context.requestId =
      if call.IsNamed then
        Text.trimmed (", ".intercalate (call.headers.values requestIdKey))
      else freshId := by
  have ascii : Http.Headers.IsAsciiName requestIdHeader := by decide +kernel
  obtain ⟨headers, taken, opened⟩ := Http.bind_eq_ok_iff.mp opened
  obtain ⟨given, named, opened⟩ := Http.bind_eq_ok_iff.mp opened
  rw [Http.mapError_eq_ok_iff, Http.Headers.get?_of_ascii headers ascii] at named
  cases opened
  have offered : given.getD "" =
      ", ".intercalate (headers.values requestIdKey) := by
    rw [← Except.ok.inj named]
    cases values : headers.values requestIdKey with
    | nil =>
        rw [requestIdKey] at values
        simp [values]
    | cons value rest =>
        rw [requestIdKey] at values
        simp [values]
  by_cases blank : Text.trimmed
      (", ".intercalate (headers.values requestIdKey)) = "" <;>
    simp [IsNamed, offered, blank]

end Call

namespace Traffic

/-- Two reads that differ in the names that were made up for them, if at all. -/
structure Twins (first second : Call) : Prop where
  descriptor : first.descriptor = second.descriptor
  headers : first.headers = second.headers
  names : first.context.requestId = second.context.requestId ∨
    (¬first.IsNamed ∧
      Http.Headers.IsAsciiName first.context.requestId ∧
      Http.Headers.IsAsciiName second.context.requestId)

variable {client : Client} {jar : Http.CookieJar} {transport : Transport}
  {call first second : Call}

theorem twins_of_open {descriptor : Descriptor} {firstId secondId : String}
    {first second : Call}
    (firstAscii : Http.Headers.IsAsciiName firstId)
    (secondAscii : Http.Headers.IsAsciiName secondId)
    (firstOpened : Call.open? descriptor firstId = .ok first)
    (secondOpened : Call.open? descriptor secondId = .ok second) :
    Twins first second := by
  obtain ⟨firstDescriptor, firstHeaders⟩ := Call.open?_eq_ok firstOpened
  obtain ⟨secondDescriptor, secondHeaders⟩ := Call.open?_eq_ok secondOpened
  have headers : first.headers = second.headers :=
    firstHeaders.trans secondHeaders.symm
  refine ⟨firstDescriptor.trans secondDescriptor.symm, headers, ?_⟩
  have firstName := Call.open?_requestId firstOpened
  have secondName := Call.open?_requestId secondOpened
  have alike : second.IsNamed ↔ first.IsNamed := by
    unfold Call.IsNamed
    rw [headers]
  by_cases named : first.IsNamed
  · rw [if_pos named, headers] at firstName
    rw [if_pos (alike.mpr named)] at secondName
    exact .inl (firstName.trans secondName.symm)
  · rw [if_neg named] at firstName
    rw [if_neg (mt alike.mp named)] at secondName
    rw [firstName, secondName]
    exact .inr ⟨named, firstAscii, secondAscii⟩

theorem readRequest?_masked (call : Call)
    (ascii : Http.Headers.IsAsciiName call.context.requestId) :
    (readRequest? client jar call).map
        (Http.Request.masked Call.requestIdKey) =
      Http.Request.compose? client.base jar
        ⟨call.descriptor.method, call.descriptor.url,
          (call.headersWith client.settings none).masked Call.requestIdKey,
          call.descriptor.sentBody⟩ := by
  have given : (call.headersWith client.settings none).values
      Call.requestIdKey = [call.context.requestId] :=
    Http.Headers.values_set_same _ Call.requestIdHeader _
  refine (Http.Request.compose?_masked (by decide +kernel) ?_).symm
  intro value member
  rw [given] at member
  rwa [List.mem_singleton.mp member]

theorem readRequest?_values {request : Http.Request}
    (composed : readRequest? client jar call = .ok request) :
    request.headers.values Call.requestIdKey = [call.context.requestId] := by
  have given : (call.headersWith client.settings none).values
      Call.requestIdKey = [call.context.requestId] :=
    Http.Headers.values_set_same _ Call.requestIdHeader _
  have other : Call.requestIdKey ≠ "authorization" := by decide +kernel
  rw [← given]
  apply (Http.Request.compose?_composed composed).values_of_given
  · simp [given]
  · exact fun same => absurd same other

/-- Twins have the same requests but for their own names, and neither the rule of
the transport nor the reading of an answer can tell them apart. -/
inductive Indistinct (client : Client) (jar : Http.CookieJar)
    (first second : Call) : Prop where
  | refused {failure : Http.Failure}
      (firstRefused : readRequest? client jar first = .error failure)
      (secondRefused : readRequest? client jar second = .error failure) :
      Indistinct client jar first second
  | composed {firstRequest secondRequest : Http.Request}
      (firstComposed : readRequest? client jar first = .ok firstRequest)
      (secondComposed : readRequest? client jar second = .ok secondRequest)
      (bare : first.bare firstRequest = second.bare secondRequest)
      (received : ∀ response,
        firstRequest.receive client.year client.second jar response =
          secondRequest.receive client.year client.second jar response) :
      Indistinct client jar first second

theorem bare_of_masked (unnamed : ¬call.IsNamed) (request : Http.Request) :
    call.bare request =
      call.bare (request.masked Call.requestIdKey) := by
  simp only [Call.bare, if_neg unnamed, Http.Request.masked]
  rw [Http.Headers.filter_masked_ne]

theorem Twins.isNamed_iff (twins : Twins first second) :
    second.IsNamed ↔ first.IsNamed := by
  unfold Call.IsNamed
  rw [twins.headers]

theorem Twins.symm (twins : Twins first second) : Twins second first where
  descriptor := twins.descriptor.symm
  headers := twins.headers.symm
  names := by
    rcases twins.names with same | ⟨unnamed, firstAscii, secondAscii⟩
    · exact .inl same.symm
    · exact .inr ⟨mt twins.isNamed_iff.mp unnamed, secondAscii, firstAscii⟩

theorem Twins.bare_eq (twins : Twins first second) (request : Http.Request) :
    first.bare request = second.bare request := by
  unfold Call.bare
  by_cases named : first.IsNamed
  · rw [if_pos named, if_pos (twins.isNamed_iff.mpr named)]
  · rw [if_neg named, if_neg (mt twins.isNamed_iff.mp named)]

theorem Twins.masked_eq (twins : Twins first second) :
    (first.headersWith client.settings none).masked Call.requestIdKey =
      (second.headersWith client.settings none).masked Call.requestIdKey := by
  simp only [Call.headersWith, twins.headers]
  exact Http.Headers.masked_set_same _ _ _

/-- Requests that differ in a name that nobody reads are told apart by no one. -/
theorem indistinct_of_masked {firstRequest secondRequest : Http.Request}
    (twins : Twins first second) (unnamed : ¬first.IsNamed)
    (firstAscii : Http.Headers.IsAsciiName first.context.requestId)
    (secondAscii : Http.Headers.IsAsciiName second.context.requestId)
    (firstComposed : readRequest? client jar first = .ok firstRequest)
    (secondComposed : readRequest? client jar second = .ok secondRequest)
    (same : firstRequest.masked Call.requestIdKey =
      secondRequest.masked Call.requestIdKey) :
    Indistinct client jar first second := by
  have unread : Http.Request.IsUnread Call.requestIdKey := by decide +kernel
  have firstValues : ∀ value ∈ firstRequest.headers.values Call.requestIdKey,
      Http.Headers.IsAsciiName value := by
    simpa [readRequest?_values firstComposed] using firstAscii
  have secondValues : ∀ value ∈ secondRequest.headers.values Call.requestIdKey,
      Http.Headers.IsAsciiName value := by
    simpa [readRequest?_values secondComposed] using secondAscii
  refine .composed firstComposed secondComposed ?_ ?_
  · rw [bare_of_masked unnamed, same, twins.bare_eq,
      ← bare_of_masked (mt twins.isNamed_iff.mp unnamed)]
  · intro response
    rw [← Http.Request.receive_masked unread firstValues, same,
      Http.Request.receive_masked unread secondValues]

theorem Twins.indistinct (twins : Twins first second) :
    Indistinct client jar first second := by
  rcases twins.names with same | ⟨unnamed, firstAscii, secondAscii⟩
  · have requests : readRequest? client jar first =
        readRequest? client jar second := by
      simp only [readRequest?, Call.headersWith, twins.descriptor,
        twins.headers, same]
    cases composed : readRequest? client jar second with
    | error failure => exact .refused (requests.trans composed) composed
    | ok request =>
        exact .composed (requests.trans composed) composed
          (twins.bare_eq request) fun _ => rfl
  · have masked : (readRequest? client jar first).map
          (Http.Request.masked Call.requestIdKey) =
        (readRequest? client jar second).map
          (Http.Request.masked Call.requestIdKey) := by
      rw [readRequest?_masked first firstAscii,
        readRequest?_masked second secondAscii, twins.descriptor,
        twins.masked_eq]
    cases firstComposed : readRequest? client jar first with
    | error failure =>
        rw [firstComposed] at masked
        cases secondComposed : readRequest? client jar second with
        | error other =>
            rw [secondComposed] at masked
            cases masked
            exact .refused firstComposed secondComposed
        | ok request =>
            rw [secondComposed] at masked
            cases masked
    | ok firstRequest =>
        rw [firstComposed] at masked
        cases secondComposed : readRequest? client jar second with
        | error failure =>
            rw [secondComposed] at masked
            cases masked
        | ok secondRequest =>
            rw [secondComposed] at masked
            exact indistinct_of_masked twins unnamed firstAscii secondAscii
              firstComposed secondComposed (Except.ok.inj masked)

theorem Twins.readSent_eq (twins : Twins first second) :
    (readSent client jar first).map first.bare =
      (readSent client jar second).map second.bare := by
  unfold readSent
  split
  · simp only [List.map_nil]
  · have indistinct : Indistinct client jar first second := twins.indistinct
    cases indistinct with
    | refused firstRefused secondRefused =>
        simp only [firstRefused, secondRefused, Except.toOption,
          Option.toList_none, List.map_nil]
    | composed firstComposed secondComposed bare received =>
        simp only [firstComposed, secondComposed, Except.toOption,
          Option.toList_some, List.map_cons, List.map_nil, bare]

theorem Twins.readEnding_eq (twins : Twins first second) :
    readEnding client jar transport first =
      readEnding client jar transport second := by
  unfold readEnding
  split
  · rfl
  · have indistinct : Indistinct client jar first second := twins.indistinct
    cases indistinct with
    | refused firstRefused secondRefused =>
        rw [firstRefused, secondRefused]
    | composed firstComposed secondComposed bare received =>
        simp only [firstComposed, secondComposed, endingOf, bare, received]

theorem Twins.isAscii_eq (twins : Twins first second) :
    (first.headersWith client.settings none).isAscii =
      (second.headersWith client.settings none).isAscii := by
  rcases twins.names with same | ⟨_, firstAscii, secondAscii⟩
  · simp only [Call.headersWith, twins.headers, same]
  · have values : ∀ call : Call,
        Http.Headers.IsAsciiName call.context.requestId →
          ∀ value ∈ (call.headersWith client.settings none).values
            Call.requestIdKey, Http.Headers.IsAsciiName value := by
      intro call ascii value member
      rw [Call.headersWith, Call.requestIdKey,
        Http.Headers.values_set_same] at member
      rwa [List.mem_singleton.mp member]
    rw [← Http.Headers.isAscii_masked (values first firstAscii),
      twins.masked_eq, Http.Headers.isAscii_masked (values second secondAscii)]

variable (client jar transport) in
theorem Twins.alike (twins : Twins first second)
    (reads : first.descriptor.isRead = true)
    {firstAttempt secondAttempt : Attempt}
    (sameAttempt : firstAttempt = .first ↔ secondAttempt = .first)
    (firstJar secondJar : Http.CookieJar) (firstCell secondCell : TokenCell) :
    Next.Alike
      (first.resume client.settings firstJar firstCell
        (.answer firstAttempt (first.headersWith client.settings none))
        (readEnding client jar transport first)).next
      (second.resume client.settings secondJar secondCell
        (.answer secondAttempt (second.headersWith client.settings none))
        (readEnding client jar transport second)).next := by
  rw [twins.readEnding_eq]
  apply Call.resume_alike reads _ sameAttempt twins.isAscii_eq
  rwa [← twins.descriptor]

/-- A read whose twin is done after its first attempt does not come to a second
one. -/
theorem Twins.not_turns (twins : Twins first second)
    (reads : first.descriptor.isRead = true)
    {jar' : Http.CookieJar} {cell : TokenCell} {outcome : Outcome}
    {rejected : Option String}
    (concludes : (first.resume client.settings jar' cell
      (.answer .first (first.headersWith client.settings none))
      (readEnding client jar transport first)).next = .done outcome) :
    ¬ReadTurns client jar transport second (.second rejected) := by
  rintro (isFirst | ⟨otherJar, otherCell, what, waits⟩)
  · cases isFirst
  · have alike := twins.alike client jar transport reads
      (Iff.refl (Attempt.first = .first)) jar' otherJar cell otherCell
    rw [concludes, waits] at alike
    cases alike

theorem Reading.done_eq {firstRequests secondRequests : List Http.Request}
    {firstOutcome secondOutcome : Outcome} (twins : Twins first second)
    (reads : first.descriptor.isRead = true)
    (firstDone : Reading client jar transport first firstRequests
      (.done firstOutcome))
    (secondDone : Reading client jar transport second secondRequests
      (.done secondOutcome)) :
    firstOutcome = secondOutcome ∧
      firstRequests.map first.bare = secondRequests.map second.bare := by
  have secondReads : second.descriptor.isRead = true := by
    rwa [← twins.descriptor]
  cases firstDone with
  | done firstTurns firstConcludes =>
      rename_i firstAttempt firstJar firstCell
      cases secondDone with
      | done secondTurns secondConcludes =>
          rename_i secondAttempt secondJar secondCell
          have sameAttempt : firstAttempt = .first ↔ secondAttempt = .first := by
            constructor
            · rintro rfl
              cases secondAttempt with
              | first => rfl
              | second rejected =>
                  exact absurd secondTurns
                    (twins.not_turns reads firstConcludes)
            · rintro rfl
              cases firstAttempt with
              | first => rfl
              | second rejected =>
                  exact absurd firstTurns
                    (twins.symm.not_turns secondReads secondConcludes)
          constructor
          · have alike := twins.alike client jar transport reads sameAttempt
              firstJar secondJar firstCell secondCell
            rw [firstConcludes, secondConcludes] at alike
            cases alike
            rfl
          · have before : (readBefore client jar first firstAttempt).map
                first.bare =
              (readBefore client jar second secondAttempt).map second.bare := by
              cases firstAttempt with
              | first =>
                  rw [sameAttempt.mp rfl]
                  simp only [readBefore, List.map_nil]
              | second rejected =>
                  cases secondAttempt with
                  | first => cases sameAttempt.mpr rfl
                  | second other => exact twins.readSent_eq
            rw [List.map_append, List.map_append, before, twins.readSent_eq]

theorem Reading.prefix_twice {requests : List Http.Request} {stage : Stage}
    (reading : Reading client jar transport call requests stage) :
    requests <+: readSent client jar call ++ readSent client jar call := by
  have before : ∀ attempt, readBefore client jar call attempt ++
      readSent client jar call <+:
        readSent client jar call ++ readSent client jar call := by
    intro attempt
    cases attempt with
    | first => exact List.prefix_append _ _
    | second rejected => exact List.prefix_rfl
  cases reading with
  | asked turns => exact (List.prefix_append _ _).trans (before _)
  | inFlight turns positive composed =>
      rw [← readSent_of_composed positive composed]
      exact before _
  | ended turns | done turns => exact before _

end Traffic

/-! ## The cell -/

/-- The caller gives this text, as it is looked up, for the token. -/
def Call.Supplies (call : Call) (settings : Settings) (token : String) : Prop :=
  call.headers.values (Text.lowercased settings.tokenHeader) ≠ [] ∧
    ", ".intercalate
      (call.headers.values (Text.lowercased settings.tokenHeader)) = token

namespace Call

variable {call : Call} {settings : Settings} {token : String}

theorem headersWith_none_values (call : Call)
    (otherName : requestIdKey ≠ settings.tokenKey) :
    (call.headersWith settings none).values
        (Text.lowercased settings.tokenHeader) =
      call.headers.values (Text.lowercased settings.tokenHeader) := by
  apply Http.Headers.values_set_other
  intro same
  have plain : (requestIdKey.toList.all fun character =>
      !Text.isForeignTrace character && character.toLower == character) =
        true := by
    decide +kernel
  exact otherName ((Http.Headers.lowercased_eq_iff plain).mp same).symm

/-- A token that a read is turned down with is one that its caller has given. -/
theorem supplies_of_named (otherName : requestIdKey ≠ settings.tokenKey)
    (named : (call.headersWith settings none).get? settings.tokenHeader =
      .ok (some token)) : call.Supplies settings token := by
  rw [Http.Headers.get?_eq, call.headersWith_none_values otherName] at named
  generalize (if (call.headersWith settings none).isAscii then _ else _) =
    checked at named
  cases checked with
  | error run => cases named
  | ok _ =>
      have found := Except.ok.inj named
      split at found
      · cases found
      · rename_i given
        exact ⟨by simpa using given, Option.some.inj found⟩

theorem named_of_supplies (otherName : requestIdKey ≠ settings.tokenKey)
    (ascii : Http.Headers.IsAsciiName settings.tokenHeader)
    (supplies : call.Supplies settings token) :
    (call.headersWith settings none).get? settings.tokenHeader =
      .ok (some token) := by
  obtain ⟨given, rfl⟩ := supplies
  have values := call.headersWith_none_values otherName
  rw [Text.lowercased_of_ascii ascii] at values given ⊢
  rw [Http.Headers.get?_of_ascii _ ascii, values, if_neg (by simpa using given)]

end Call

namespace Traffic

/-- The first transmission of a call has been turned down, and what its caller
gives for the token is what the cell holds. -/
def TurnsDownHeld (client : Client) (traffic : Traffic) (index : Nat)
    (call : Call) : Prop :=
  ∃ headers response token,
    traffic.calls[index]? =
      some ⟨call, .ended (.answer .first headers) (.answered response)⟩ ∧
    Answer.Rejects response ∧ call.Supplies client.settings token ∧
    traffic.cell.token? = some token

/-- What a step of a read does to the cell. -/
structure ReadSpares (client : Client) (traffic : Traffic) (move : Move)
    (next : Traffic) (index : Nat) (call : Call) : Prop where
  spares : next.cell = traffic.cell ∨
    (move = .resume index ∧ TurnsDownHeld client traffic index call ∧
      next.cell = .empty)
  empties : Http.Headers.IsAsciiName client.settings.tokenHeader →
    move = .resume index → TurnsDownHeld client traffic index call →
      next.cell = .empty

/-- Every step of a read spares the cell. -/
def ReadsSpare (client : Client) (traffic : Traffic) (move : Move) : Prop :=
  ∀ index call stage next, traffic.mover move = some index →
    step client traffic move = some next →
    next.calls[index]? = some ⟨call, stage⟩ →
    call.descriptor.isRead = true →
      ReadSpares client traffic move next index call

variable {client : Client} {jar : Http.CookieJar} {transport : Transport}
  {call : Call} {traffic next : Traffic} {move : Move} {moves : List Move}
  {index : Nat} {attempt : Attempt} {ending : Ending} {after : TokenCell}
  {goesOn : Next}

theorem resumed_spares
    (otherName : Call.requestIdKey ≠ client.settings.tokenKey)
    (notBlank : traffic.cell.token? ≠ some "")
    (reads : call.descriptor.isRead = true)
    (found : traffic.calls[index]? = some ⟨call, .ended (.answer attempt
      (call.headersWith client.settings none)) ending⟩)
    (resumed : call.Resumed client.settings traffic.jar traffic.cell
      (.answer attempt (call.headersWith client.settings none)) ending after
      goesOn) :
    after = traffic.cell ∨
      (TurnsDownHeld client traffic index call ∧ after = .empty) := by
  cases resumed with
  | retried rejects named attempted =>
      rename_i response rejected what
      rw [(attempted.of_isRead reads).1]
      by_cases held : traffic.cell.token? = some (rejected.getD "")
      · cases rejected with
        | none => exact absurd held notBlank
        | some token =>
            exact .inr ⟨⟨_, response, token, found, rejects,
              Call.supplies_of_named otherName named, held⟩,
              TokenCell.drop_eq_empty held⟩
      · exact .inl (TokenCell.drop_eq_self held)
  | late | finished | unnamed | rejectedAgain | unreachable | faulted =>
      exact .inl rfl

theorem resumed_empties
    (otherName : Call.requestIdKey ≠ client.settings.tokenKey)
    (ascii : Http.Headers.IsAsciiName client.settings.tokenHeader)
    (reads : call.descriptor.isRead = true)
    (found : traffic.calls[index]? = some ⟨call, .ended (.answer attempt
      (call.headersWith client.settings none)) ending⟩)
    (resumed : call.Resumed client.settings traffic.jar traffic.cell
      (.answer attempt (call.headersWith client.settings none)) ending after
      goesOn) (turnsDown : TurnsDownHeld client traffic index call) :
    after = .empty := by
  obtain ⟨headers, response, token, again, rejects, supplies, held⟩ := turnsDown
  cases found.symm.trans again
  obtain ⟨what, rfl, attempted⟩ := resumed.retries rejects
    (Call.named_of_supplies otherName ascii supplies)
  rw [(attempted.of_isRead reads).1]
  exact TokenCell.drop_eq_empty held

theorem step_readSpares
    (otherName : Call.requestIdKey ≠ client.settings.tokenKey)
    (notBlank : traffic.cell.token? ≠ some "")
    (reading : ∀ (index : Nat) (call : Call) (stage : Stage),
      traffic.calls[index]? = some ⟨call, stage⟩ →
        call.descriptor.isRead = true →
          ∃ requests, Reading client jar transport call requests stage) :
    ReadsSpare client traffic move := by
  intro index call stage next mover taken reached reads
  cases stage_origin taken reached with
  | kept other => exact absurd mover other
  | begun begins absent here attempted =>
      refine ⟨.inl (attempted.of_isRead reads).1, ?_⟩
      intro _ _ turnsDown
      obtain ⟨_, _, _, found, _⟩ := turnsDown
      rw [absent] at found
      cases found
  | moved here before step =>
      rename_i old
      obtain ⟨requests, reading⟩ := reading index call old before reads
      generalize next.jar = nextJar, nextCell : next.cell = after at step
      cases step with
      | resumed resumed =>
          cases reading with
          | ended turns =>
              constructor
              · rw [nextCell]
                rcases resumed_spares otherName notBlank reads before resumed with
                  same | ⟨turnsDown, emptied⟩
                · exact .inl same
                · exact .inr ⟨rfl, turnsDown, emptied⟩
              · intro ascii _ turnsDown
                rw [nextCell]
                exact resumed_empties otherName ascii reads before resumed
                  turnsDown
      | launched | unfit | answered | failed | windowless | expired =>
          exact ⟨.inl nextCell, nofun⟩

theorem run_readsSpare {cell : TokenCell}
    (otherName : Call.requestIdKey ≠ client.settings.tokenKey)
    (notBlank : cell.token? ≠ some "")
    (regular : Throughout client (Regular client transport) (initial cell jar)
      moves) :
    Throughout client (ReadsSpare client) (initial cell jar) moves := by
  apply throughout_of_run
  rintro before traffic move after rfl ran
  have steady := run_steady ran regular.left
  exact step_readSpares otherName (run_token?_ne_blank notBlank ran)
    fun index call stage found reads =>
      ⟨_, steady.reading index call stage found reads⟩

/-! ## Two runs -/

/-- A read of a descriptor in a run with a transport that answers each request by
itself. -/
structure ReadRun (client : Client) (jar : Http.CookieJar)
    (transport : Transport) (descriptor : Descriptor) where
  cell : TokenCell
  moves : List Move
  traffic : Traffic
  index : Nat
  call : Call
  stage : Stage
  freshId : String
  ran : run? client (initial cell jar) moves = some traffic
  regular : Throughout client (Regular client transport) (initial cell jar)
    moves
  ascii : Http.Headers.IsAsciiName freshId
  opened : Call.open? descriptor freshId = .ok call
  found : traffic.calls[index]? = some ⟨call, stage⟩

namespace ReadRun

variable {descriptor : Descriptor}

/-- What the read has handed to the transport. -/
def launches (run : ReadRun client jar transport descriptor) :
    List (Wait × Http.Request) :=
  (trail client (initial run.cell jar) run.moves run.index).filterMap
    Stage.launched?

/-- The requests of the read, without a name that was made up for it. -/
def requests (run : ReadRun client jar transport descriptor) :
    List Http.Request :=
  (run.launches.map Prod.snd).map run.call.bare

def asks (run : ReadRun client jar transport descriptor) : List Wait :=
  (trail client (initial run.cell jar) run.moves run.index).filterMap
    Stage.asked?

/-- What two runs tell about a read. -/
structure Independent (first second : ReadRun client jar transport descriptor) :
    Prop where
  outcome : ∀ {firstOutcome secondOutcome}, first.stage = .done firstOutcome →
    second.stage = .done secondOutcome →
      firstOutcome = secondOutcome ∧ first.requests = second.requests
  /-- At no time do the requests differ. -/
  underway : first.requests <+: second.requests ∨
    second.requests <+: first.requests
  noTokenRequest : ∀ what ∈ first.asks, what.fetches = false
  noBody : ∀ launch ∈ first.launches, launch.2.body = none
  tokenField : Call.requestIdKey ≠ client.settings.tokenKey →
    ∀ launch ∈ first.launches,
      ¬launch.2.Fills first.call.headers client.settings.tokenKey →
        launch.2.headers.values client.settings.tokenKey =
          first.call.headers.values client.settings.tokenKey
  supplied : first.call.headers =
    (descriptor.headers.getD []).map fun pair => ⟨pair.1, pair.2⟩
  cell : Call.requestIdKey ≠ client.settings.tokenKey →
    first.cell.token? ≠ some "" →
      Throughout client (ReadsSpare client) (initial first.cell jar) first.moves

variable (run : ReadRun client jar transport descriptor)

theorem isRead (reads : descriptor.isRead = true) :
    run.call.descriptor.isRead = true := by
  rwa [(Call.open?_eq_ok run.opened).1]

theorem reading (reads : descriptor.isRead = true) :
    Reading client jar transport run.call (run.launches.map Prod.snd)
      run.stage :=
  (run_steady run.ran run.regular).reading run.index run.call run.stage run.found
    (run.isRead reads)

theorem asks_eq_answer (reads : descriptor.isRead = true) {what : Wait}
    (asked : what ∈ run.asks) : what.fetches = false := by
  have fetchNothing := (course_recorded
    (run_course run.ran run.found)).readsFetchNothing (run.isRead reads)
  exact Bool.not_eq_true _ ▸ List.countP_eq_zero.mp fetchNothing what asked

/-- What a read hands to the transport is put together from the fields of its
caller and its name. -/
theorem composed_of_launched (reads : descriptor.isRead = true)
    {launch : Wait × Http.Request} (launched : launch ∈ run.launches) :
    Http.Request.Composed client.base jar
      ⟨run.call.descriptor.method, run.call.descriptor.url,
        run.call.headersWith client.settings none, none⟩ launch.2 := by
  have sent : launch.2 ∈ readSent client jar run.call := by
    have inside := (run.reading reads).prefix_twice.subset
      (List.mem_map_of_mem launched)
    simpa using inside
  unfold readSent at sent
  split at sent
  · cases sent
  · cases composed : readRequest? client jar run.call with
    | error failure =>
        rw [composed] at sent
        cases sent
    | ok request =>
        rw [composed] at sent
        cases List.mem_singleton.mp sent
        have body : run.call.descriptor.sentBody = none := by
          simp [Descriptor.sentBody, run.isRead reads]
        rw [readRequest?, body] at composed
        exact Http.Request.compose?_composed composed

end ReadRun

/-- Reads do not depend on tokens: two runs that agree in nothing but the client,
the cookies and the transport tell the same about a read. -/
theorem run_reads_independent {descriptor : Descriptor}
    (first second : ReadRun client jar transport descriptor)
    (reads : descriptor.isRead = true) : first.Independent second := by
  have twins := twins_of_open first.ascii second.ascii first.opened second.opened
  have firstReading := first.reading reads
  have secondReading := second.reading reads
  constructor
  · intro firstOutcome secondOutcome firstDone secondDone
    rw [firstDone] at firstReading
    rw [secondDone] at secondReading
    exact firstReading.done_eq twins (first.isRead reads) secondReading
  · have firstTwice := firstReading.prefix_twice.map first.call.bare
    have secondTwice := secondReading.prefix_twice.map second.call.bare
    rw [List.map_append, ← twins.readSent_eq, ← List.map_append] at secondTwice
    exact List.prefix_or_prefix_of_prefix firstTwice secondTwice
  · exact fun what asked => first.asks_eq_answer reads asked
  · exact fun launch launched => (first.composed_of_launched reads launched).body
  · intro otherName launch launched free
    have composed := first.composed_of_launched reads launched
    have fields : (first.call.headersWith client.settings none).values
        client.settings.tokenKey =
      first.call.headers.values client.settings.tokenKey :=
      Http.Headers.values_set_other (Ne.symm otherName)
    rw [← fields]
    apply composed.values_eq
    rintro (credentials | ⟨missing, filled⟩)
    · exact free (.inl credentials)
    · exact free (.inr ⟨fields ▸ missing, filled⟩)
  · exact (Call.open?_eq_ok first.opened).2
  · exact fun otherName notBlank => run_readsSpare otherName notBlank first.regular

/-- A run in which a read is found to be done when the run is evaluated. -/
theorem ReadRun.exists_of_isSome {descriptor : Descriptor} (cell : TokenCell)
    (moves : List Move) (index : Nat) {freshId : String}
    (ascii : Http.Headers.IsAsciiName freshId)
    (opened : Call.open? descriptor freshId = .ok call)
    (begun : (moves.filterMap begun?)[index]? = some call)
    (regular : Throughout client (Regular client transport) (initial cell jar)
      moves)
    (evaluated : (((run? client (initial cell jar) moves).bind
      fun traffic => traffic.stage? index).bind Stage.outcome?).isSome = true) :
    ∃ run : ReadRun client jar transport descriptor,
      run.cell = cell ∧ ∃ outcome, run.stage = .done outcome := by
  obtain ⟨outcome, evaluated⟩ := Option.isSome_iff_exists.mp evaluated
  obtain ⟨stage, evaluated, done⟩ := Option.bind_eq_some_iff.mp evaluated
  obtain ⟨traffic, ran, reached⟩ := Option.bind_eq_some_iff.mp evaluated
  refine ⟨⟨cell, moves, traffic, index, call, stage, freshId, ran, regular, ascii,
    opened, run_found ran begun reached⟩, rfl, outcome, ?_⟩
  cases stage with
  | done other => exact congrArg _ (Option.some.inj done)
  | asked | inFlight | ended => cases done

/-- A read by itself and one beside a write that finds a token in the cell are
turned down alike. -/
theorem run_reads_independent_rejected :
    ∃ first second : ReadRun Sample.client []
        (fun _ => .answer Sample.turnedDown 0) Sample.read.descriptor,
      (first.cell = .empty ∧ ∃ outcome, first.stage = .done outcome) ∧
      (second.cell = .holding "v" .cached ∧
        ∃ outcome, second.stage = .done outcome) ∧
      Sample.read.descriptor.isRead = true ∧ first.Independent second := by
  have alone : ∃ run : ReadRun Sample.client []
      (fun _ => .answer Sample.turnedDown 0) Sample.read.descriptor,
      run.cell = .empty ∧ ∃ outcome, run.stage = .done outcome :=
    ReadRun.exists_of_isSome .empty
      (.begin Sample.read :: Sample.answers 0
        [Sample.turnedDown, Sample.turnedDown]) 0
      (by decide +kernel) rfl rfl (by decide +kernel) (by decide +kernel)
  have beside : ∃ run : ReadRun Sample.client []
      (fun _ => .answer Sample.turnedDown 0) Sample.read.descriptor,
      run.cell = .holding "v" .cached ∧
        ∃ outcome, run.stage = .done outcome :=
    ReadRun.exists_of_isSome (.holding "v" .cached)
      ([.begin Sample.write, .begin Sample.read, .launch 0] ++
        Sample.answers 1 [Sample.turnedDown, Sample.turnedDown]) 1
      (by decide +kernel) rfl rfl (by decide +kernel) (by decide +kernel)
  obtain ⟨first, firstFacts⟩ := alone
  obtain ⟨second, secondFacts⟩ := beside
  exact ⟨first, second, firstFacts, secondFacts, by decide +kernel,
    run_reads_independent first second (by decide +kernel)⟩

/-- Credentials of the address stand in a read whose caller gives nothing under
that name. -/
theorem credentials_join_read : ∃ traffic what request,
    run? Sample.credentialClient (initial .empty [])
        [.begin Sample.read, .launch 0] = some traffic ∧
      (traffic.stage? 0).bind Stage.launched? = some (what, request) ∧
      Sample.read.headers.values
        Sample.credentialClient.settings.tokenKey = [] ∧
      request.headers.values Sample.credentialClient.settings.tokenKey =
        ["Basic dTpw"] := by
  obtain ⟨traffic, what, request, ran, launched, carries⟩ :=
    exists_launched_of_any (run? Sample.credentialClient (initial .empty [])
      [.begin Sample.read, .launch 0]) 0
      (fun _ request => request.headers.values
        Sample.credentialClient.settings.tokenKey = ["Basic dTpw"])
      (by decide +kernel)
  exact ⟨traffic, what, request, ran, launched, by decide +kernel, carries⟩

end Traffic

end AdminGate

import AdminGate.Proofs.CellDiscipline
import AdminGate.Proofs.TokenOrigins

/-!
# Which token a write carries

An attempt of a write carries the first token that there is: the one in the cell,
the one of the cookie, and then one that is issued to it.  A token that has been
turned down does not count, unless it is issued again.  What there is, is settled
at the move at which the attempt starts; whatever the other calls do afterwards,
only a token that is issued can still come in.
-/

namespace AdminGate

/-- The token cookie of a jar is one that an attempt may carry: there is one of
its name, and trimmed it is not blank. -/
def OffersCookie (settings : Settings) (jar : Http.CookieJar)
    (rejected : Option String) (token : String) : Prop :=
  ∃ value, jar.find settings.tokenCookie = .single value ∧
    Text.trimmed value = token ∧ token ≠ "" ∧ some token ≠ rejected

theorem Call.headersWith_values_elim (call : Call) {settings : Settings}
    (otherName : requestIdKey ≠ settings.tokenKey)
    (token : Option String) :
    (call.headersWith settings token).values settings.tokenKey =
      token.elim (call.headers.values settings.tokenKey)
        (fun token => [token]) := by
  cases token with
  | some token => exact call.headersWith_values_token settings token
  | none => exact Http.Headers.values_set_other (Ne.symm otherName)

namespace Traffic

/-- At one of the moves of a run a call starts an attempt; this is what the move
finds, what it leaves, and what is still to come. -/
def StartsAttempt (client : Client) (start : Traffic) (moves : List Move)
    (index : Nat) (call : Call) (attempt : Attempt) (traffic next : Traffic)
    (after : List Move) : Prop :=
  ∃ before move cell, moves = before ++ move :: after ∧
    run? client start before = some traffic ∧
    traffic.mover move = some index ∧
    Starts client traffic move call attempt cell ∧
    step client traffic move = some next

/-- An attempt starts, and neither the cell nor the jar has a token for it, so
that one is asked for. -/
structure Seeks (client : Client) (start : Traffic) (moves : List Move)
    (index : Nat) (call : Call) (attempt : Attempt) (next : Traffic)
    (after : List Move) : Prop where
  starts : ∃ traffic,
    StartsAttempt client start moves index call attempt traffic next after ∧
      ¬traffic.cell.Offers attempt.rejected ∧
      ∀ token, ¬OffersCookie client.settings traffic.jar attempt.rejected token
  asks : ∃ since,
    next.calls[index]? = some ⟨call, .asked (.token attempt) since⟩

/-- A call decides on these fields for its transmission. -/
def Decides (client : Client) (index : Nat) (call : Call) (attempt : Attempt)
    (headers : Http.Headers) (traffic : Traffic) (move : Move) : Prop :=
  ∃ since next, step client traffic move = some next ∧
    next.calls[index]? = some ⟨call, .asked (.answer attempt headers) since⟩

/-- The token that an attempt carries, if any, is the first that there is. -/
inductive Selected (client : Client) (start : Traffic) (moves : List Move)
    (index : Nat) (call : Call) (attempt : Attempt) (headers : Http.Headers) :
    Option String → Prop where
  | held {traffic next : Traffic} {after : List Move} {since : Nat}
      {token : String}
      (starts : StartsAttempt client start moves index call attempt traffic next
        after)
      (held : traffic.cell.token? = some token)
      (allowed : some token ≠ attempt.rejected)
      (decides : next.calls[index]? =
        some ⟨call, .asked (.answer attempt headers) since⟩) :
      Selected client start moves index call attempt headers (some token)
  | cookie {traffic next : Traffic} {after : List Move} {since : Nat}
      {token : String}
      (starts : StartsAttempt client start moves index call attempt traffic next
        after)
      (unheld : ¬traffic.cell.Offers attempt.rejected)
      (offered : OffersCookie client.settings traffic.jar attempt.rejected token)
      (stored : next.cell = .holding token .cookie)
      (decides : next.calls[index]? =
        some ⟨call, .asked (.answer attempt headers) since⟩) :
      Selected client start moves index call attempt headers (some token)
  | issued {next : Traffic} {after : List Move} {response : Http.Response}
      {token : String}
      (seeks : Seeks client start moves index call attempt next after)
      (answered : Sometime client
        (AnswersToken client index call attempt response) next after)
      (decides : Sometime client (fun traffic move =>
        StoresIssued client index call attempt response token traffic move ∧
          Decides client index call attempt headers traffic move) next after) :
      Selected client start moves index call attempt headers (some token)
  | none {next : Traffic} {after : List Move}
      (seeks : Seeks client start moves index call attempt next after)
      (missing : Sometime client
        (SetsNone client index call attempt headers) next after) :
      Selected client start moves index call attempt headers none

/-- After an attempt has started the token endpoint issues a token for it. -/
def IssuedSince (client : Client) (start : Traffic) (moves : List Move)
    (index : Nat) (call : Call) (attempt : Attempt) (token : String) : Prop :=
  ∃ next after response,
    Seeks client start moves index call attempt next after ∧
      Sometime client (AnswersToken client index call attempt response) next
        after ∧
      Answer.Issues response token

/-- In a run the tokens of writes are chosen as they should be. -/
structure ChoosesTokens (client : Client) (start : Traffic) (moves : List Move)
    (traffic : Traffic) : Prop where
  selected : ∀ index call stage attempt headers request,
    traffic.calls[index]? = some ⟨call, stage⟩ →
    call.descriptor.isRead = false →
    (.answer attempt headers, request) ∈
      (trail client start moves index).filterMap Stage.launched? →
      ∃ token, headers = call.headersWith client.settings token ∧
        headers.values client.settings.tokenKey =
          token.elim (call.headers.values client.settings.tokenKey)
            (fun token => [token]) ∧
        Selected client start moves index call attempt headers token
  /-- A second attempt knows what the first one has carried. -/
  rejected : ∀ index call stage rejected headers request,
    traffic.calls[index]? = some ⟨call, stage⟩ →
    (.answer (.second rejected) headers, request) ∈
      (trail client start moves index).filterMap Stage.launched? →
      ∃ carried turned response,
        (.answer .first carried, turned) ∈
          (trail client start moves index).filterMap Stage.launched? ∧
        (.answer .first carried, .answered response) ∈
          (trail client start moves index).filterMap Stage.ended? ∧
        Answer.Rejects response ∧
        ∀ token, carried.values client.settings.tokenKey = [token] →
          rejected = some token
  repeated : ∀ index call stage token headers request,
    traffic.calls[index]? = some ⟨call, stage⟩ →
    call.descriptor.isRead = false →
    (.answer (.second (some token)) headers, request) ∈
      (trail client start moves index).filterMap Stage.launched? →
    token ∈ headers.values client.settings.tokenKey →
      token ∈ call.headers.values client.settings.tokenKey ∨
        IssuedSince client start moves index call (.second (some token)) token
  /-- The transport is given what was chosen, unless the field is not up to the
  call. -/
  carried : ∀ index call stage attempt headers request,
    traffic.calls[index]? = some ⟨call, stage⟩ →
    (.answer attempt headers, request) ∈
      (trail client start moves index).filterMap Stage.launched? →
      ¬request.Fills headers client.settings.tokenKey →
        request.headers.values client.settings.tokenKey =
          headers.values client.settings.tokenKey

variable {client : Client} {start traffic next : Traffic} {cell : TokenCell}
  {jar : Http.CookieJar} {moves before after : List Move} {move : Move}
  {index : Nat} {call : Call} {attempt : Attempt} {headers : Http.Headers}

/-! ## Starting an attempt -/

/-- A token that an attempt may carry is in the cell that the attempt finds when
it is in the cell at all. -/
theorem Starts.held_iff {found : TokenCell} {token : String}
    (starts : Starts client traffic move call attempt found)
    (notBlank : traffic.cell.token? ≠ some "")
    (allowed : some token ≠ attempt.rejected) :
    found.token? = some token ↔ traffic.cell.token? = some token := by
  cases starts with
  | first => rfl
  | @second _ _ _ _ rejected _ rejects named =>
      by_cases held : traffic.cell.token? = some (rejected.getD "")
      · rw [TokenCell.drop_eq_empty held, held]
        constructor
        · intro empty
          cases empty
        · intro same
          cases rejected with
          | none => exact absurd held notBlank
          | some token => exact absurd same.symm allowed
      · rw [TokenCell.drop_eq_self held]

theorem Starts.offers_iff {found : TokenCell}
    (starts : Starts client traffic move call attempt found)
    (notBlank : traffic.cell.token? ≠ some "") :
    found.Offers attempt.rejected ↔ traffic.cell.Offers attempt.rejected := by
  unfold TokenCell.Offers
  constructor
  · rintro ⟨token, held, allowed⟩
    exact ⟨token, (starts.held_iff notBlank allowed).mp held, allowed⟩
  · rintro ⟨token, held, allowed⟩
    exact ⟨token, (starts.held_iff notBlank allowed).mpr held, allowed⟩

/-- How a call has come to ask for something: it has started an attempt, or it has
gone on after a request for a token. -/
theorem asked_origin {what : Wait} {since : Nat}
    (taken : step client traffic move = some next)
    (mover : traffic.mover move = some index)
    (found : next.calls[index]? = some ⟨call, .asked what since⟩) :
    (∃ attempt cell, Starts client traffic move call attempt cell ∧
      call.Attempted client.settings traffic.jar cell attempt next.cell what) ∨
    ∃ attempt ending, move = .resume index ∧
      traffic.calls[index]? = some ⟨call, .ended (.token attempt) ending⟩ ∧
      call.Resumed client.settings traffic.jar traffic.cell (.token attempt)
        ending next.cell (.wait what) := by
  generalize stageEq : Stage.asked what since = stage at found
  cases stage_origin taken found with
  | kept other => exact absurd mover other
  | begun begins absent here attempted =>
      cases stageEq
      subst begins
      exact .inl ⟨_, _, .first, attempted⟩
  | moved here before step =>
      generalize next.jar = jar, next.cell = cell at step ⊢
      cases step with
      | launched | unfit | answered | failed | windowless | expired =>
          cases stageEq
      | resumed resumed =>
          rename_i waited ending _
          obtain ⟨rfl, _⟩ := stageOf_eq_asked_iff.mp stageEq.symm
          cases waited with
          | token attempt =>
              exact .inr ⟨attempt, ending, rfl, before, resumed⟩
          | answer attempt headers =>
              cases resumed with
              | retried rejects named attempted =>
                  exact .inl ⟨_, _, .second before rejects named, attempted⟩

theorem StartsAttempt.extend
    (starts : StartsAttempt client start moves index call attempt traffic next
      after) (more : List Move) :
    StartsAttempt client start (moves ++ more) index call attempt traffic next
      (after ++ more) := by
  obtain ⟨before, move, cell, rfl, rest⟩ := starts
  exact ⟨before, move, cell, by simp, rest⟩

theorem Seeks.extend
    (seeks : Seeks client start moves index call attempt next after)
    (more : List Move) :
    Seeks client start (moves ++ more) index call attempt next
      (after ++ more) := by
  obtain ⟨traffic, starts, missing⟩ := seeks.starts
  exact ⟨⟨traffic, starts.extend more, missing⟩, seeks.asks⟩

theorem not_offersCookie {settings : Settings} {rejected : Option String}
    (unoffered : ∀ token, (Call.cookieToken settings jar).1 = some token →
      some token = rejected) (token : String) :
    ¬OffersCookie settings jar rejected token := by
  rintro ⟨value, found, trimmed, notBlank, allowed⟩
  exact allowed (unoffered token
    (Call.cookieToken_eq_some_iff.mpr ⟨value, found, trimmed, notBlank⟩))

theorem not_offers_of_starts {found : TokenCell}
    (starts : Starts client traffic move call attempt found)
    (notBlank : traffic.cell.token? ≠ some "")
    (unusable : ∀ token, found.token? = some token →
      some token = attempt.rejected) :
    ¬traffic.cell.Offers attempt.rejected := by
  rw [← starts.offers_iff notBlank]
  rintro ⟨token, held, allowed⟩
  exact allowed (unusable token held)

/-! ## Waiting for a token -/

/-- A call asks for a token, or its request for one is under way or has ended. -/
inductive AwaitsToken (attempt : Attempt) : Stage → Prop where
  | asked {since : Nat} : AwaitsToken attempt (.asked (.token attempt) since)
  | inFlight {since number : Nat} {request : Http.Request} :
      AwaitsToken attempt (.inFlight (.token attempt) since number request)
  | ended {ending : Ending} :
      AwaitsToken attempt (.ended (.token attempt) ending)

/-- A call that waits for a token has found none when the attempt started, and
what its request has been answered with came after that. -/
structure Sought (client : Client) (start : Traffic) (moves : List Move)
    (index : Nat) (call : Call) (attempt : Attempt) (traffic : Traffic)
    (stage : Stage) (next : Traffic) (after : List Move) : Prop where
  seeks : Seeks client start moves index call attempt next after
  ran : run? client next after = some traffic
  answered : ∀ response,
    stage = .ended (.token attempt) (.answered response) →
      Sometime client (AnswersToken client index call attempt response) next
        after

theorem Sought.step {stage reached : Stage} {sought : Traffic}
    (earlier : Sought client start moves index call attempt traffic stage sought
      after)
    (taken : step client traffic move = some next)
    (answered : ∀ response,
      reached = .ended (.token attempt) (.answered response) →
        stage = reached ∨
          AnswersToken client index call attempt response traffic move) :
    Sought client start (moves ++ [move]) index call attempt next reached sought
      (after ++ [move]) where
  seeks := earlier.seeks.extend [move]
  ran := by
    rw [run?_concat, earlier.ran]
    exact taken
  answered := by
    intro response ended
    rw [sometime_concat_iff earlier.ran]
    rcases answered response ended with same | now
    · exact .inl (earlier.answered response (same.trans ended))
    · exact .inr now

theorem sought_of_starts {found : TokenCell} {since : Nat}
    (ran : run? client start moves = some traffic)
    (notBlank : traffic.cell.token? ≠ some "")
    (taken : step client traffic move = some next)
    (mover : traffic.mover move = some index)
    (starts : Starts client traffic move call attempt found)
    {left : TokenCell}
    (attempted : call.Attempted client.settings traffic.jar found attempt left
      (.token attempt))
    (asks : next.calls[index]? =
      some ⟨call, .asked (.token attempt) since⟩) :
    Sought client start (moves ++ [move]) index call attempt next
      (.asked (.token attempt) since) next [] where
  seeks := by
    refine ⟨⟨traffic, ⟨moves, move, found, rfl, ran, mover, starts, taken⟩, ?_⟩,
      since, asks⟩
    cases attempted with
    | unready writes readied =>
        cases readied with
        | missing unusable unoffered =>
            exact ⟨not_offers_of_starts starts notBlank unusable,
              not_offersCookie unoffered⟩
  ran := rfl
  answered := by
    intro response ended
    cases ended

/-- Whoever waits for a token has found none, and has asked for one since. -/
theorem run_sought {stage : Stage} (notBlank : cell.token? ≠ some "")
    (ran : run? client (initial cell jar) moves = some traffic)
    (found : traffic.calls[index]? = some ⟨call, stage⟩)
    (awaits : AwaitsToken attempt stage) :
    ∃ sought after, Sought client (initial cell jar) moves index call attempt
      traffic stage sought after := by
  refine run_induction (fun moves traffic => ∀ {stage},
    traffic.calls[index]? = some ⟨call, stage⟩ →
      AwaitsToken attempt stage → ∃ sought after,
        Sought client (initial cell jar) moves index call attempt traffic stage
          sought after) ?_ ?_ ran found awaits
  · intro stage found
    cases found
  · intro moves traffic move next ran earlier taken stage found awaits
    have go : ∀ {stage reached}, traffic.calls[index]? = some ⟨call, stage⟩ →
        AwaitsToken attempt stage →
        (∀ response, reached = .ended (.token attempt) (.answered response) →
          stage = reached ∨
            AnswersToken client index call attempt response traffic move) →
        ∃ sought after, Sought client (initial cell jar) (moves ++ [move]) index
          call attempt next reached sought after := by
      intro stage reached before awaits answered
      obtain ⟨sought, after, earlier⟩ := earlier before awaits
      exact ⟨sought, _, earlier.step taken answered⟩
    cases stage_origin taken found with
    | kept other before => exact go before awaits fun _ _ => .inl rfl
    | begun begins absent mover attempted =>
        subst begins
        cases awaits
        cases attempted.asks
        exact ⟨next, [], sought_of_starts ran (run_token?_ne_blank notBlank ran)
          taken mover .first attempted found⟩
    | moved mover before step =>
        have origin := step
        generalize next.jar = nextJar, nextCell : next.cell = left at step
        cases step with
        | launched =>
            cases awaits
            exact go before .asked fun _ ended => nomatch ended
        | unfit | windowless =>
            cases awaits
            exact go before .asked fun _ ended => nomatch ended
        | failed | expired =>
            cases awaits
            exact go before .inFlight fun _ ended => nomatch ended
        | answered =>
            cases awaits
            refine go before .inFlight fun response ended => .inr ?_
            rw [ended] at origin
            exact answersToken_of_step ran before origin
        | resumed resumed =>
            rename_i following
            cases following with
            | done outcome => cases awaits
            | wait what =>
                cases awaits
                cases resumed with
                | retried rejects named attempted =>
                    cases attempted.asks
                    exact ⟨next, [], sought_of_starts ran
                      (run_token?_ne_blank notBlank ran) taken mover
                      (.second before rejects named) attempted found⟩

/-! ## Deciding on the fields -/

theorem selected_of_attempted {found : TokenCell} {since : Nat}
    (ran : run? client start before = some traffic)
    (notBlank : traffic.cell.token? ≠ some "")
    (taken : step client traffic move = some next)
    (mover : traffic.mover move = some index)
    (starts : Starts client traffic move call attempt found)
    (writes : call.descriptor.isRead = false)
    (attempted : call.Attempted client.settings traffic.jar found attempt
      next.cell (.answer attempt headers))
    (decides : next.calls[index]? =
      some ⟨call, .asked (.answer attempt headers) since⟩) :
    ∃ token, headers = call.headersWith client.settings token ∧
      Selected client start (before ++ move :: after) index call attempt headers
        token := by
  have moment : StartsAttempt client start (before ++ move :: after) index call
      attempt traffic next after :=
    ⟨before, move, found, rfl, ran, mover, starts, taken⟩
  generalize stored : next.cell = left at attempted
  cases attempted with
  | reading reads =>
      rw [writes] at reads
      cases reads
  | ready _ readied =>
      refine ⟨_, rfl, ?_⟩
      cases readied with
      | held held allowed =>
          exact .held moment ((starts.held_iff notBlank allowed).mp held) allowed
            decides
      | cookie unusable offered notBlankCookie allowed =>
          exact .cookie moment (not_offers_of_starts starts notBlank unusable)
            ⟨_, offered, rfl, notBlankCookie, allowed⟩ stored decides

theorem selected_of_resumed {ending : Ending} {sought : Traffic} {since : Nat}
    (earlier : Sought client start before index call attempt traffic
      (.ended (.token attempt) ending) sought after)
    (found : traffic.calls[index]? = some ⟨call, .ended (.token attempt) ending⟩)
    (taken : step client traffic (.resume index) = some next)
    (resumed : call.Resumed client.settings traffic.jar traffic.cell
      (.token attempt) ending next.cell (.wait (.answer attempt headers)))
    (decides : next.calls[index]? =
      some ⟨call, .asked (.answer attempt headers) since⟩) (more : List Move) :
    ∃ token, headers = call.headersWith client.settings token ∧
      Selected client start (before ++ .resume index :: more) index call attempt
        headers token := by
  have seeks := earlier.seeks.extend (.resume index :: more)
  have moment : ∀ {event : Traffic → Move → Prop},
      event traffic (.resume index) →
        Sometime client event sought (after ++ .resume index :: more) := by
    intro event happens
    have now := (sometime_concat_iff earlier.ran).mpr (.inr happens)
    simpa using now.extend more
  have missing : ending.Fruitless →
      Selected client start (before ++ .resume index :: more) index call attempt
        headers none := fun fruitless =>
    .none seeks (moment ⟨ending, since, next, rfl, found, fruitless, taken,
      decides⟩)
  generalize stored : next.cell = left at resumed
  cases resumed with
  | issued issues =>
      refine ⟨_, rfl, .issued seeks ?_ (moment ⟨⟨next, rfl, found,
        Answer.issuedToken?_eq_some_iff.mp issues, taken, stored⟩, since, next,
        taken, decides⟩)⟩
      exact (earlier.answered _ rfl).extend _
  | unissued shallow unissued =>
      refine ⟨none, rfl, missing ?_⟩
      rintro response ⟨⟩ token issues
      rw [Answer.issuedToken?_eq_some_iff.mpr issues] at unissued
      cases unissued
  | unfetched network =>
      refine ⟨none, rfl, missing ?_⟩
      rintro response rfl
      exact absurd network (Ending.not_networkFailed_answered response)

theorem run_selected {stage : Stage} {request : Http.Request}
    (notBlank : cell.token? ≠ some "")
    (ran : run? client (initial cell jar) moves = some traffic)
    (found : traffic.calls[index]? = some ⟨call, stage⟩)
    (writes : call.descriptor.isRead = false)
    (launched : (.answer attempt headers, request) ∈
      (trail client (initial cell jar) moves index).filterMap
        Stage.launched?) :
    ∃ token, headers = call.headersWith client.settings token ∧
      Selected client (initial cell jar) moves index call attempt headers
        token := by
  obtain ⟨before, move, after, middle, next, since, rfl, ranBefore, mover, taken,
    decides⟩ := asked_of_launched ran found launched
  have heldNotBlank := run_token?_ne_blank notBlank ranBefore
  rcases asked_origin taken mover decides with
    ⟨other, found, starts, attempted⟩ | ⟨other, ending, rfl, ended, resumed⟩
  · cases attempted.asks
    exact selected_of_attempted ranBefore heldNotBlank taken mover starts writes
      attempted decides
  · obtain ⟨sought, since, earlier⟩ := run_sought notBlank ranBefore ended .ended
    have same : other = attempt := by
      generalize next.cell = left at resumed
      cases resumed <;> rfl
    subst same
    exact selected_of_resumed earlier ended taken resumed decides after

/-! ## What has been turned down -/

theorem Delivered.of_answered {launches : List (Wait × Http.Request)}
    {what : Wait} {response : Http.Response}
    (delivered : Delivered client call launches what (.answered response)) :
    ∃ request, (what, request) ∈ launches := by
  cases delivered with
  | launched launched => exact ⟨_, launched⟩

/-- Before a second transmission there was a first one that was turned down. -/
theorem run_turnedDown {stage : Stage} {rejected : Option String}
    {request : Http.Request}
    (ran : run? client (initial cell jar) moves = some traffic)
    (found : traffic.calls[index]? = some ⟨call, stage⟩)
    (launched : (.answer (.second rejected) headers, request) ∈
      (trail client (initial cell jar) moves index).filterMap
        Stage.launched?) :
    ∃ carried turned response,
      (.answer .first carried, turned) ∈
        (trail client (initial cell jar) moves index).filterMap
          Stage.launched? ∧
      (.answer .first carried, .answered response) ∈
        (trail client (initial cell jar) moves index).filterMap Stage.ended? ∧
      Answer.Rejects response ∧
      carried.get? client.settings.tokenHeader = .ok rejected := by
  have transported := course_transported (run_course ran found)
  have asked := transported.underway.sublist.subset
    (List.mem_map_of_mem launched)
  obtain ⟨past, inside, history⟩ :=
    (course_recorded (run_course ran found)).of_mem asked
  have turned : ∃ before, before ⊆ past ∧
      Call.History.TurnedDown call client.settings rejected before := by
    rcases history.answer_second with turned | ⟨before, ending, turned, rfl⟩
    · exact ⟨past, List.Subset.refl past, turned⟩
    · exact ⟨before, List.subset_append_left _ _, turned⟩
  obtain ⟨before, earlier, ⟨carried, _, rejects, named⟩⟩ := turned
  have ended := inside (earlier (List.mem_append_right _
    (List.mem_singleton_self _)))
  obtain ⟨turned, sent⟩ := (transported.delivered _ ended).of_answered
  exact ⟨carried, turned, _, sent, ended, rejects, named⟩

theorem eq_some_of_named {rejected : Option String} {token : String}
    {settings : Settings}
    (ascii : Http.Headers.IsAsciiName settings.tokenHeader)
    (named : headers.get? settings.tokenHeader = .ok rejected)
    (carries : headers.values settings.tokenKey = [token]) :
    rejected = some token := by
  rw [Http.Headers.get?_of_ascii headers ascii] at named
  unfold Settings.tokenKey at carries
  rw [carries] at named
  simpa using (Except.ok.inj named).symm

/-- A token that has been turned down is repeated only when it has been issued
again or the caller gives it. -/
theorem Selected.repeated {chosen : Option String} {rejected : String}
    (otherName : Call.requestIdKey ≠ client.settings.tokenKey)
    (selected : Selected client start moves index call
      (.second (some rejected)) headers chosen)
    (dressed : headers = call.headersWith client.settings chosen)
    (carries : rejected ∈ headers.values client.settings.tokenKey) :
    rejected ∈ call.headers.values client.settings.tokenKey ∨
      IssuedSince client start moves index call (.second (some rejected))
        rejected := by
  rw [dressed, call.headersWith_values_elim otherName] at carries
  cases selected with
  | none => exact .inl carries
  | held starts held allowed =>
      cases List.mem_singleton.mp carries
      exact absurd rfl allowed
  | cookie starts unheld offered =>
      cases List.mem_singleton.mp carries
      obtain ⟨_, _, _, _, allowed⟩ := offered
      exact absurd rfl allowed
  | issued seeks answered decides =>
      cases List.mem_singleton.mp carries
      obtain ⟨_, _, _, _, _, _, ⟨_, _, _, issues, _⟩, _⟩ := decides.exists
      exact .inr ⟨_, _, _, seeks, answered, issues⟩

/-- In every run of any number of calls the tokens of writes are chosen as they
should be.  No cell that the library makes holds a blank token, by
`TokenCell.initial_token?_ne_blank` and `TokenCell.remember_token?`. -/
theorem run_choosesTokens
    (ascii : Http.Headers.IsAsciiName client.settings.tokenHeader)
    (otherName : Call.requestIdKey ≠ client.settings.tokenKey)
    (notBlank : cell.token? ≠ some "")
    (ran : run? client (initial cell jar) moves = some traffic) :
    ChoosesTokens client (initial cell jar) moves traffic where
  selected := by
    intro index call stage attempt headers request found writes launched
    obtain ⟨token, dressed, selected⟩ :=
      run_selected notBlank ran found writes launched
    refine ⟨token, dressed, ?_, selected⟩
    rw [dressed, call.headersWith_values_elim otherName]
  rejected := by
    intro index call stage rejected headers request found launched
    obtain ⟨carried, turned, response, sent, ended, rejects, named⟩ :=
      run_turnedDown ran found launched
    exact ⟨carried, turned, response, sent, ended, rejects,
      fun token => eq_some_of_named ascii named⟩
  repeated := by
    intro index call stage token headers request found writes launched carries
    obtain ⟨chosen, dressed, selected⟩ :=
      run_selected notBlank ran found writes launched
    exact selected.repeated otherName dressed carries
  carried := fun _ _ _ _ _ _ found launched free =>
    run_carried ran found launched free

/-- Both of two writes that overlap are turned down with the token of the cookie.
The first of them is issued a token, and the second one takes it over. -/
theorem run_choosesTokens_settled : ∃ traffic request,
    run? Sample.client (initial .empty Sample.staleJar) Sample.settled =
        some traffic ∧
      (.answer (.second (some "stale"))
          (Sample.write.headersWith Sample.client.settings (some "v")),
        request) ∈ (trail Sample.client (initial .empty Sample.staleJar)
          Sample.settled 1).filterMap Stage.launched? ∧
      ChoosesTokens Sample.client (initial .empty Sample.staleJar)
        Sample.settled traffic := by
  have runs : (run? Sample.client (initial .empty Sample.staleJar)
      Sample.settled).isSome = true := by
    decide +kernel
  have resent : ((trail Sample.client (initial .empty Sample.staleJar)
      Sample.settled 1).filterMap Stage.launched?).any (fun launch =>
        launch.1 = .answer (.second (some "stale"))
          (Sample.write.headersWith Sample.client.settings (some "v"))) =
      true := by
    decide +kernel
  obtain ⟨traffic, ran⟩ := Option.isSome_iff_exists.mp runs
  obtain ⟨⟨what, request⟩, sent, same⟩ := List.any_eq_true.mp resent
  cases of_decide_eq_true same
  exact ⟨traffic, request, ran, sent, run_choosesTokens (by decide +kernel)
    (by decide +kernel) (by decide +kernel) ran⟩

end Traffic

/-- A client whose anti-forgery field is one that every request has. -/
def Sample.acceptClient : Client :=
  { client with settings := { client.settings with tokenHeader := "Accept" } }

namespace Traffic

/-- A write is turned down and sent again without a token.  Its caller gives none
either, but under the name of the token the request says what every request
does. -/
theorem default_stands_for_token : ∃ traffic what request,
    run? Sample.acceptClient (initial (.holding "a" .cached) [])
        (Sample.exchanges 0 [Sample.turnedDown, Sample.fine] ++ [.launch 0]) =
      some traffic ∧
    (traffic.stage? 0).bind Stage.launched? = some (what, request) ∧
    what = .answer (.second (some "a"))
      (Sample.write.headersWith Sample.acceptClient.settings none) ∧
    Sample.write.headers.values Sample.acceptClient.settings.tokenKey = [] ∧
    request.headers.values Sample.acceptClient.settings.tokenKey =
      ["application/json"] := by
  obtain ⟨traffic, what, request, ran, launched, asked, carries⟩ :=
    exists_launched_of_any (run? Sample.acceptClient
      (initial (.holding "a" .cached) [])
      (Sample.exchanges 0 [Sample.turnedDown, Sample.fine] ++ [.launch 0])) 0
      (fun what request => what = .answer (.second (some "a"))
          (Sample.write.headersWith Sample.acceptClient.settings none) ∧
        request.headers.values Sample.acceptClient.settings.tokenKey =
          ["application/json"])
      (by decide +kernel)
  exact ⟨traffic, what, request, ran, launched, asked, by decide +kernel,
    carries⟩

end Traffic

end AdminGate

import AdminGate.Proofs.ValidToken

/-!
# Convergence on the valid token

A server accepts one token and turns every other one down.  Calls that start
with an outdated token in the cell or in the cookie, overlapping in any order,
all end up with the valid one.  An outdated cookie may be put back into the
emptied cell while another call is asking for a token; the invariant `Calm` says
why this does no harm: a call that has been turned down never carries the
outdated token again, and the valid one is never taken out of the cell.
-/

namespace AdminGate

/-- Among the two tokens that are about, the outdated and the valid one. -/
def TokenCell.Known (stale valid : String) (cell : TokenCell) : Prop :=
  ∀ token, cell.token? = some token → token = stale ∨ token = valid

namespace Traffic

/-- What a call can be waiting for, given what it has asked for so far. -/
inductive Aims (client : Client) (stale valid : String) (call : Call)
    (asks : List Wait) (cell : TokenCell) : Wait → Prop where
  | token {attempt : Attempt} (once : asks.countP Wait.fetches = 1) :
      Aims client stale valid call asks cell (.token attempt)
  | stale (never : asks.countP Wait.fetches = 0) :
      Aims client stale valid call asks cell
        (.answer .first (call.headersWith client.settings (some stale)))
  | valid {attempt : Attempt} (once : asks.countP Wait.fetches ≤ 1)
      (held : cell.token? = some valid) :
      Aims client stale valid call asks cell
        (.answer attempt (call.headersWith client.settings (some valid)))

/-- How a call is done: its last transmission has carried the valid token, which
the cell holds, or it has raised because a request was unfit. -/
inductive Settled (client : Client) (valid : String) (jar : Http.CookieJar)
    (call : Call) (asks : List Wait) (launches : List (Wait × Http.Request))
    (cell : TokenCell) : Outcome → Prop where
  | carried {what : Wait} {request : Http.Request} {outcome : Outcome}
      (last : launches.getLast? = some (what, request))
      (transmits : what.transmits = true)
      (carries : request.Carries client.settings valid)
      (held : cell.token? = some valid)
      (notRejected : ¬Call.FailsAs outcome .tokenRejected) :
      Settled client valid jar call asks launches cell outcome
  | unfit {what : Wait} {failure : Http.Failure}
      (last : asks.getLast? = some what)
      (unfit : Unfit client jar call what failure) :
      Settled client valid jar call asks launches cell (.error failure)

/-- Where a call can stand, given what it has asked for and what of it has
reached the transport. -/
inductive Calm (client : Client) (stale valid : String) (jar : Http.CookieJar)
    (call : Call) (asks : List Wait) (launches : List (Wait × Http.Request))
    (cell : TokenCell) : Stage → Prop where
  | asked {what : Wait} {since : Nat} (last : asks.getLast? = some what)
      (aims : Aims client stale valid call asks cell what) :
      Calm client stale valid jar call asks launches cell (.asked what since)
  | inFlight {what : Wait} {since number : Nat} {request : Http.Request}
      (aims : Aims client stale valid call asks cell what)
      (composed : Http.Request.compose? client.base jar
        (call.inquiry client.settings what) = .ok request)
      (last : launches.getLast? = some (what, request)) :
      Calm client stale valid jar call asks launches cell
        (.inFlight what since number request)
  | unfit {what : Wait} {failure : Http.Failure}
      (last : asks.getLast? = some what)
      (once : asks.countP Wait.fetches ≤ 1)
      (unfit : Unfit client jar call what failure) :
      Calm client stale valid jar call asks launches cell
        (.ended what (.failed failure))
  | issued {attempt : Attempt} {response : Http.Response}
      (once : asks.countP Wait.fetches = 1)
      (issues : Answer.issuedToken? response = some valid) :
      Calm client stale valid jar call asks launches cell
        (.ended (.token attempt) (.answered response))
  | rejected {response : Http.Response}
      (never : asks.countP Wait.fetches = 0)
      (rejects : Answer.Rejects response) :
      Calm client stale valid jar call asks launches cell
        (.ended (.answer .first (call.headersWith client.settings (some stale)))
          (.answered response))
  | accepted {attempt : Attempt} {headers : Http.Headers} {ending : Ending}
      {request : Http.Request}
      (once : asks.countP Wait.fetches ≤ 1)
      (held : cell.token? = some valid)
      (final : ¬ending.Rejects)
      (last : launches.getLast? = some (.answer attempt headers, request))
      (carries : request.Carries client.settings valid) :
      Calm client stale valid jar call asks launches cell
        (.ended (.answer attempt headers) ending)
  | done {outcome : Outcome} (once : asks.countP Wait.fetches ≤ 1)
      (settled :
        Settled client valid jar call asks launches cell outcome) :
      Calm client stale valid jar call asks launches cell (.done outcome)

/-- What is known beforehand: the anti-forgery field has an ASCII name, tokens
can be asked for, and the cookie offers one of the two tokens, if any. -/
structure Premises (client : Client) (stale valid : String)
    (jar : Http.CookieJar) : Prop where
  ascii : Http.Headers.IsAsciiName client.settings.tokenHeader
  different : stale ≠ valid
  endpoint : ∃ url, Http.Request.ValidTarget client.base
    client.settings.tokenEndpoint url
  offered : ∀ token, (Call.cookieToken client.settings jar).1 = some token →
    token = stale ∨ token = valid

variable {client : Client} {stale valid : String} {jar : Http.CookieJar}
  {call : Call} {asks : List Wait} {launches : List (Wait × Http.Request)}
  {cell after : TokenCell} {what : Wait}

/-! ## The requests -/

theorem Premises.equipped (premises : Premises client stale valid jar) :
    Equipped client :=
  ⟨premises.ascii, premises.endpoint⟩

theorem Aims.asked (sound : call.Sound client)
    (aims : Aims client stale valid call asks cell what) :
    call.Asks client.settings what.attempt what := by
  cases aims with
  | token once => exact .token sound.writes
  | stale never | valid once held => exact .answer _

/-! ## The steps of a call -/

/-- A step keeps the two tokens apart from all others, and the valid one in the
cell. -/
structure KeepsValid (stale valid : String) (cell after : TokenCell) : Prop where
  known : after.Known stale valid
  held : cell.token? = some valid → after.token? = some valid

theorem KeepsValid.refl (known : cell.Known stale valid) :
    KeepsValid stale valid cell cell :=
  ⟨known, id⟩

theorem known_holding {token : String} {provenance : Provenance}
    (among : token = stale ∨ token = valid) :
    (TokenCell.holding token provenance).Known stale valid := by
  rintro other held
  cases held
  exact among

/-- A transmission with what the cell holds, after no token has been asked for. -/
theorem aims_of_held {attempt : Attempt} {token : String}
    (never : asks.countP Wait.fetches = 0)
    (held : cell.token? = some token)
    (among : token = stale ∨ token = valid)
    (staleOnlyFirst : token = stale → attempt = .first) :
    Aims client stale valid call
      (asks ++ [.answer attempt (call.headersWith client.settings (some token))])
      cell (.answer attempt (call.headersWith client.settings (some token))) := by
  have noFetch : (asks ++ [Wait.answer attempt (call.headersWith
      client.settings (some token))]).countP Wait.fetches = 0 := by
    simp [List.countP_append, never, Wait.fetches, Wait.transmits]
  rcases among with rfl | rfl
  · obtain rfl := staleOnlyFirst rfl
    exact .stale noFetch
  · exact .valid (noFetch ▸ Nat.zero_le 1) held

/-- An attempt carries one of the two tokens or asks for one; the second attempt
carries the valid one. -/
theorem attempted_aims {attempt : Attempt}
    (premises : Premises client stale valid jar) (sound : call.Sound client)
    (known : cell.Known stale valid)
    (never : asks.countP Wait.fetches = 0)
    (turn : attempt = .first ∨ attempt = .second (some stale))
    (attempted : call.Attempted client.settings jar cell attempt after what) :
    KeepsValid stale valid cell after ∧
      Aims client stale valid call (asks ++ [what]) after what := by
  have staleOnlyFirst : ∀ token, some token ≠ attempt.rejected →
      token = stale → attempt = .first := by
    rintro token allowed rfl
    rcases turn with rfl | rfl
    · rfl
    · exact absurd rfl allowed
  have validAllowed : some valid ≠ attempt.rejected := by
    rcases turn with rfl | rfl
    · simp [Attempt.rejected]
    · simpa [Attempt.rejected] using Ne.symm premises.different
  cases attempted with
  | reading reads =>
      rw [sound.writes] at reads
      cases reads
  | ready writes found =>
      cases found with
      | held held allowed =>
          exact ⟨.refl known, aims_of_held never held (known _ held)
            (staleOnlyFirst _ allowed)⟩
      | cookie unusable found notBlank allowed =>
          have offered := premises.offered _
            (Call.cookieToken_eq_some_iff.mpr ⟨_, found, rfl, notBlank⟩)
          refine ⟨⟨known_holding offered, ?_⟩, aims_of_held never rfl offered
            (staleOnlyFirst _ allowed)⟩
          exact fun held => absurd (unusable valid held) validAllowed
  | unready writes found =>
      cases found
      refine ⟨.refl known, .token ?_⟩
      simp [List.countP_append, never, Wait.fetches, Wait.transmits]


/-- A call that is turned down drops the outdated token and starts a second
attempt without it. -/
theorem resumed_rejected {response : Http.Response} {next : Next}
    (premises : Premises client stale valid jar) (sound : call.Sound client)
    (known : cell.Known stale valid)
    (never : asks.countP Wait.fetches = 0)
    (rejects : Answer.Rejects response)
    (resumed : call.Resumed client.settings jar cell
      (.answer .first (call.headersWith client.settings (some stale)))
      (.answered response) after next) :
    KeepsValid stale valid cell after ∧ ∃ asked, next = .wait asked ∧
      Aims client stale valid call (asks ++ [asked]) after asked := by
  have named := Http.Headers.get?_set_same
    (call.headers.set Call.requestIdHeader call.context.requestId)
    premises.ascii stale
  obtain ⟨asked, rfl, attempted⟩ := resumed.retries rejects named
  -- only the outdated token was carried, so the valid one is never dropped
  have dropped : KeepsValid stale valid cell (cell.drop stale).1 := by
    rw [TokenCell.drop_fst]
    split
    · rename_i outdated
      constructor
      · intro token held
        cases held
      · intro held
        rw [outdated] at held
        exact absurd (Option.some.inj held) premises.different
    · exact .refl known
  obtain ⟨keeps, aims⟩ := attempted_aims premises sound dropped.known never
    (.inr rfl) attempted
  exact ⟨⟨keeps.known, keeps.held ∘ dropped.held⟩, asked, rfl, aims⟩

theorem Calm.resumed {ending : Ending} {next : Next} {now : Nat}
    (premises : Premises client stale valid jar) (sound : call.Sound client)
    (known : cell.Known stale valid)
    (calm : Calm client stale valid jar call asks launches cell
      (.ended what ending))
    (resumed : call.Resumed client.settings jar cell what ending after next) :
    KeepsValid stale valid cell after ∧
      Calm client stale valid jar call (asks ++ (stageOf now next).asked?.toList)
        launches after (stageOf now next) := by
  -- the stages of `Calm` in which a request has ended
  cases calm with
  | unfit last once unfit =>
      obtain ⟨rfl, rfl⟩ := resumed_unfit unfit.foreign resumed
      refine ⟨.refl known, ?_⟩
      simpa [stageOf, Stage.asked?] using .done once (.unfit last unfit)
  | issued once issues =>
      obtain ⟨rfl, rfl⟩ := resumed_issued issues resumed
      refine ⟨⟨known_holding (.inr rfl), fun _ => rfl⟩, ?_⟩
      refine .asked List.getLast?_concat (.valid ?_ rfl)
      simp [Stage.asked?, stageOf, List.countP_append, once, Wait.fetches,
        Wait.transmits]
  | rejected never rejects =>
      obtain ⟨keeps, asked, rfl, aims⟩ :=
        resumed_rejected premises sound known never rejects resumed
      exact ⟨keeps, .asked List.getLast?_concat aims⟩
  | accepted once held final last carries =>
      obtain ⟨rfl, outcome, rfl, notRejected⟩ := resumed_accepted final resumed
      refine ⟨.refl known, ?_⟩
      simpa [stageOf, Stage.asked?] using
        .done once (.carried last rfl carries held notRejected)

theorem Aims.once (aims : Aims client stale valid call asks cell what) :
    asks.countP Wait.fetches ≤ 1 := by
  cases aims with
  | token once => exact Nat.le_of_eq once
  | stale never => exact never ▸ Nat.zero_le 1
  | valid once held => exact once

theorem Calm.once {stage : Stage}
    (calm : Calm client stale valid jar call asks launches cell stage) :
    asks.countP Wait.fetches ≤ 1 := by
  cases calm with
  | asked last aims | inFlight aims composed last => exact aims.once
  | issued once issues => exact Nat.le_of_eq once
  | rejected never rejects => exact never ▸ Nat.zero_le 1
  | unfit last once unfit => exact once
  | accepted once held final last carries => exact once
  | done once settled => exact once

theorem Calm.settled {outcome : Outcome}
    (calm : Calm client stale valid jar call asks launches cell
      (.done outcome)) :
    Settled client valid jar call asks launches cell outcome := by
  cases calm
  assumption

theorem Settled.notRejected {outcome : Outcome}
    (settled : Settled client valid jar call asks launches cell outcome) :
    ¬Call.FailsAs outcome .tokenRejected := by
  cases settled with
  | carried last transmits carries held notRejected => exact notRejected
  | unfit last unfit => simp [Call.FailsAs]

theorem Aims.mono (aims : Aims client stale valid call asks cell what)
    (keeps : KeepsValid stale valid cell after) :
    Aims client stale valid call asks after what := by
  cases aims with
  | token once => exact .token once
  | stale never => exact .stale never
  | valid once held => exact .valid once (keeps.held held)

theorem Calm.mono {stage : Stage}
    (calm : Calm client stale valid jar call asks launches cell stage)
    (keeps : KeepsValid stale valid cell after) :
    Calm client stale valid jar call asks launches after stage := by
  cases calm with
  | asked last aims => exact .asked last (aims.mono keeps)
  | inFlight aims composed last => exact .inFlight (aims.mono keeps) composed last
  | unfit last once unfit => exact .unfit last once unfit
  | issued once issues => exact .issued once issues
  | rejected never rejects => exact .rejected never rejects
  | accepted once held final last carries =>
      exact .accepted once (keeps.held held) final last carries
  | done once settled =>
      cases settled with
      | carried last transmits carries held notRejected =>
          exact .done once
            (.carried last transmits carries (keeps.held held) notRejected)
      | unfit last unfit => exact .done once (.unfit last unfit)

theorem Calm.answered {request : Http.Request} {response : Http.Response}
    (premises : Premises client stale valid jar) (sound : call.Sound client)
    (aims : Aims client stale valid call asks cell what)
    (composed : Http.Request.compose? client.base jar
      (call.inquiry client.settings what) = .ok request)
    (last : launches.getLast? = some (what, request))
    (serves : Serves client.settings valid what request response) :
    Calm client stale valid jar call asks launches cell
      (.ended what (.ofResult (request.receive client.year client.second jar
        response).result)) := by
  have site :=
    site_of_composed premises.equipped sound (aims.asked sound) composed
  cases aims with
  | token once =>
      obtain ⟨plain, read, issues⟩ := serves_issued serves site
      rw [read]
      exact .issued once issues
  | stale never =>
      have carries := carries_of_composed sound composed
      have invalid : ¬request.Carries client.settings valid := by
        intro otherwise
        have same := carries.symm.trans otherwise
        exact premises.different (List.singleton_inj.mp same)
      obtain ⟨plain, read, rejects⟩ := (serves_rejects_iff serves site).mpr invalid
      rw [read]
      exact .rejected never rejects
  | valid once held =>
      have carries := carries_of_composed sound composed
      refine .accepted once held ?_ last carries
      intro rejects
      exact (serves_rejects_iff serves site).mp rejects carries

/-- An honest move of a call keeps it calm, and the valid token in the cell. -/
theorem Calm.step {traffic : Traffic} {index : Nat} {move : Move}
    {stage next : Stage} {jarAfter : Http.CookieJar}
    (premises : Premises client stale valid traffic.jar)
    (sound : call.Sound client) (known : traffic.cell.Known stale valid)
    (honest : Honest client valid traffic move)
    (found : traffic.calls[index]? = some ⟨call, stage⟩)
    (calm : Calm client stale valid traffic.jar call asks launches traffic.cell
      stage)
    (step : StageStep client traffic call index move stage jarAfter after next) :
    jarAfter = traffic.jar ∧ KeepsValid stale valid traffic.cell after ∧
      Calm client stale valid traffic.jar call (asks ++ next.asked?.toList)
        (launches ++ next.launched?.toList) after next := by
  cases step with
  | launched positive composed =>
      cases calm with
      | asked last aims =>
          refine ⟨rfl, .refl known, ?_⟩
          simpa [Stage.asked?, Stage.launched?] using
            .inFlight aims composed List.getLast?_concat
  | unfit positive refused =>
      cases calm with
      | asked last aims =>
          refine ⟨rfl, .refl known, ?_⟩
          simpa [Stage.asked?, Stage.launched?] using
            .unfit last aims.once (unfit_of_refused premises.equipped sound
              (aims.asked sound) refused)
  | answered =>
      cases calm with
      | inFlight aims composed last =>
          have serves := honest _ (launched_of_found found)
          refine ⟨Http.Request.receive_jar serves.noCookies, .refl known, ?_⟩
          simpa [Stage.asked?, Stage.launched?] using
            Calm.answered premises sound aims composed last serves
  | failed | windowless | expired => cases honest
  | resumed resumed =>
      rename_i what ending step
      obtain ⟨keeps, calmAfter⟩ :=
        Calm.resumed premises sound known calm resumed
      refine ⟨rfl, keeps, ?_⟩
      cases step with
      | wait asked => simpa [stageOf, Stage.launched?] using calmAfter
      | done outcome => simpa [stageOf, Stage.launched?] using calmAfter

/-! ## Runs -/

/-- The whole traffic is calm: nothing has happened to the jar, the cell holds
one of the two tokens or none, and every call is sound and calm. -/
structure AllCalm (client : Client) (stale valid : String) (start : Traffic)
    (moves : List Move) (traffic : Traffic) : Prop where
  jar : traffic.jar = start.jar
  known : traffic.cell.Known stale valid
  calls : ∀ {index call stage}, traffic.calls[index]? = some ⟨call, stage⟩ →
    call.Sound client ∧
      Calm client stale valid start.jar call
        ((trail client start moves index).filterMap Stage.asked?)
        ((trail client start moves index).filterMap Stage.launched?)
        traffic.cell stage

variable {start traffic next : Traffic} {moves : List Move} {move : Move}

theorem AllCalm.moved {index : Nat} {stage after : Stage} {cell : TokenCell}
    {jar : Http.CookieJar} (premises : Premises client stale valid start.jar)
    (calm : AllCalm client stale valid start moves traffic)
    (honest : Honest client valid traffic move)
    (found : traffic.calls[index]? = some ⟨call, stage⟩)
    (step : StageStep client traffic call index move stage jar cell after) :
    jar = start.jar ∧ KeepsValid stale valid traffic.cell cell ∧
      call.Sound client ∧
      Calm client stale valid start.jar call
        ((trail client start moves index).filterMap Stage.asked? ++
          after.asked?.toList)
        ((trail client start moves index).filterMap Stage.launched? ++
          after.launched?.toList)
        cell after := by
  obtain ⟨sound, calmCall⟩ := calm.calls found
  rw [← calm.jar] at premises calmCall
  obtain ⟨jarEq, keeps, calmAfter⟩ :=
    calmCall.step premises sound calm.known honest found step
  rw [calm.jar] at jarEq calmAfter
  exact ⟨jarEq, keeps, sound, calmAfter⟩

theorem AllCalm.begun {cell : TokenCell}
    (premises : Premises client stale valid start.jar)
    (calm : AllCalm client stale valid start moves traffic)
    (sound : call.Sound client)
    (attempted : call.Attempted client.settings traffic.jar traffic.cell .first
      cell what) :
    KeepsValid stale valid traffic.cell cell ∧
      Aims client stale valid call [what] cell what := by
  have never : ([] : List Wait).countP Wait.fetches = 0 := rfl
  rw [calm.jar] at attempted
  exact attempted_aims premises sound calm.known never (.inl rfl) attempted

theorem AllCalm.keeps (premises : Premises client stale valid start.jar)
    (calm : AllCalm client stale valid start moves traffic)
    (honest : Honest client valid traffic move) (sound : move.IsSound client)
    (taken : step client traffic move = some next) :
    next.jar = start.jar ∧
      KeepsValid stale valid traffic.cell next.cell := by
  cases step_stepped taken with
  | begun attempted jar calls =>
      exact ⟨jar.trans calm.jar, (calm.begun premises sound attempted).1⟩
  | moved mover found step calls =>
      obtain ⟨jar, keeps, _⟩ := calm.moved premises honest found step
      exact ⟨jar, keeps⟩
  | passed cell jar calls =>
      rw [cell]
      exact ⟨jar.trans calm.jar, .refl calm.known⟩

theorem AllCalm.step (premises : Premises client stale valid start.jar)
    (ran : run? client start moves = some traffic)
    (charted : Charted client start moves traffic)
    (calm : AllCalm client stale valid start moves traffic)
    (honest : Honest client valid traffic move) (sound : move.IsSound client)
    (taken : step client traffic move = some next) :
    AllCalm client stale valid start (moves ++ [move]) next := by
  obtain ⟨jar, keeps⟩ := calm.keeps premises honest sound taken
  refine ⟨jar, keeps.known, ?_⟩
  intro index call stage found
  cases stage_origin taken found with
  -- a call that does not move sees the step as a change of the cell only
  | kept other before =>
      obtain ⟨soundCall, calmCall⟩ := calm.calls before
      rw [trail_concat_other ran taken other]
      exact ⟨soundCall, calmCall.mono keeps⟩
  | begun begins absent mover attempted =>
      subst begins
      rw [trail_concat_mover ran taken mover found,
        charted.absent index absent, List.nil_append]
      exact ⟨sound, .asked rfl (calm.begun premises sound attempted).2⟩
  | moved mover before step =>
      obtain ⟨_, _, soundCall, calmCall⟩ :=
        calm.moved premises honest before step
      rw [trail_concat_mover ran taken mover found, filterMap_concat,
        filterMap_concat]
      exact ⟨soundCall, calmCall⟩

/-- Every run of sound calls against a server with one valid token is calm. -/
theorem run_allCalm {cell : TokenCell} {jar : Http.CookieJar}
    (premises : Premises client stale valid jar)
    (known : cell.Known stale valid)
    (sound : ∀ move ∈ moves, move.IsSound client)
    (obeys : Obeys client valid (initial cell jar) moves)
    (ran : run? client (initial cell jar) moves = some traffic) :
    AllCalm client stale valid (initial cell jar) moves traffic := by
  refine run_induction (fun moves traffic =>
    (∀ move ∈ moves, move.IsSound client) →
      Obeys client valid (initial cell jar) moves →
        AllCalm client stale valid (initial cell jar) moves traffic)
    ?_ ?_ ran sound obeys
  · intro _ _
    refine ⟨rfl, known, ?_⟩
    intro index call stage found
    cases found
  · intro moves traffic move next ran calm taken sound obeys
    obtain ⟨obeyed, honest⟩ := obeys_concat obeys ran
    have earlier : ∀ move ∈ moves, move.IsSound client :=
      fun other member => sound other (List.mem_append_left _ member)
    exact (calm earlier obeyed).step premises ran (run_charted ran) honest
      (sound move (by simp)) taken

/-- What overlapping writes of sound calls come to. -/
structure Converged (client : Client) (valid : String) (start : Traffic)
    (moves : List Move) (traffic : Traffic) : Prop where
  transmissions : ∀ {index call stage},
    traffic.calls[index]? = some ⟨call, stage⟩ →
      ((trail client start moves index).filterMap Stage.asked?).countP
        Wait.transmits ≤ 2
  tokenRequests : ∀ {index call stage},
    traffic.calls[index]? = some ⟨call, stage⟩ →
      ((trail client start moves index).filterMap Stage.asked?).countP
        Wait.fetches ≤ 1
  /-- The last transmission of a call that is done has carried the valid token,
  which the cell holds, unless the call has raised because of an unfit request. -/
  settled : ∀ {index call outcome},
    traffic.calls[index]? = some ⟨call, .done outcome⟩ →
      Settled client valid start.jar call
        ((trail client start moves index).filterMap Stage.asked?)
        ((trail client start moves index).filterMap Stage.launched?)
        traffic.cell outcome
  notRejected : ∀ {index : Nat} {call outcome},
    traffic.calls[index]? = some ⟨call, .done outcome⟩ →
      ¬Call.FailsAs outcome .tokenRejected
  /-- No further step takes the valid token out of the cell. -/
  stays : traffic.cell.token? = some valid → ∀ {move next},
    Honest client valid traffic move → move.IsSound client →
      step client traffic move = some next →
        next.cell.token? = some valid

/-- Overlapping writes converge on the valid token, however they overlap. -/
theorem run_converges {cell : TokenCell} {jar : Http.CookieJar}
    (premises : Premises client stale valid jar)
    (known : cell.Known stale valid)
    (sound : ∀ move ∈ moves, move.IsSound client)
    (obeys : Obeys client valid (initial cell jar) moves)
    (ran : run? client (initial cell jar) moves = some traffic) :
    Converged client valid (initial cell jar) moves traffic := by
  have calm := run_allCalm premises known sound obeys ran
  constructor
  · intro index call stage found
    exact (course_recorded (run_course ran found)).planned.transmissions
  · intro index call stage found
    exact (calm.calls found).2.once
  · intro index call outcome found
    exact (calm.calls found).2.settled
  · intro index call outcome found
    exact (calm.calls found).2.settled.notRejected
  · intro held move next honest soundMove taken
    exact (calm.keeps premises honest soundMove taken).2.held held

/-- The small client and its stale cookie are as the theorem wants them. -/
theorem sample_premises :
    Premises Sample.client "stale" "v" Sample.staleJar where
  ascii := sample_equipped.ascii
  different := by decide +kernel
  endpoint := sample_equipped.endpoint
  offered := by
    have cookie : (Call.cookieToken Sample.client.settings
        Sample.staleJar).1 = some "stale" := by
      decide +kernel
    intro token offered
    rw [cookie] at offered
    exact .inl (Option.some.inj offered).symm

/-- Two overlapping writes with a stale cookie converge. -/
theorem run_converges_overlap : ∃ traffic,
    run? Sample.client (initial .empty Sample.staleJar) Sample.settled =
        some traffic ∧
      traffic.cell.token? = some "v" ∧
      Converged Sample.client "v" (initial .empty Sample.staleJar)
        Sample.settled traffic := by
  have runs : (run? Sample.client (initial .empty Sample.staleJar)
      Sample.settled).any (fun traffic =>
        decide (traffic.cell.token? = some "v")) = true := by
    decide +kernel
  obtain ⟨traffic, ran, held⟩ := (Option.any_eq_true _ _).mp runs
  have sound : ∀ move ∈ Sample.settled, move.IsSound Sample.client := by
    simp [Sample.settled, Sample.overlap, Move.IsSound, sample_sound]
  have known : TokenCell.empty.Known "stale" "v" := by
    intro token held
    cases held
  exact ⟨traffic, ran, of_decide_eq_true held,
    run_converges sample_premises known sound (by decide +kernel) ran⟩

/-- Without the two provisos writes need not converge.  Credentials of the
address take the place of the token under the name "Authorization", and the call
is turned down twice; with a cookie outside ASCII no token can be asked for, and
the call raises and leaves the cell empty. -/
theorem writes_do_not_converge :
    (∃ traffic outcome,
      run? Sample.credentialClient (initial (.holding "v" .cached) [])
          Sample.rejectedWrite = some traffic ∧
        Obeys Sample.credentialClient "v" (initial (.holding "v" .cached) [])
          Sample.rejectedWrite ∧
        traffic.stage? 0 = some (.done outcome) ∧
        Call.FailsAs outcome .tokenRejected) ∧
    ∃ traffic outcome,
      run? Sample.client (initial .empty Sample.foreignJar)
          Sample.unfitWrite = some traffic ∧
        Obeys Sample.client "v" (initial .empty Sample.foreignJar)
          Sample.unfitWrite ∧
        traffic.stage? 0 = some (.done outcome) ∧
        traffic.cell.token? = none := by
  constructor
  · have rejected : (run? Sample.credentialClient
        (initial (.holding "v" .cached) []) Sample.rejectedWrite).any
          (fun traffic => ((traffic.stage? 0).bind Stage.outcome?).any
            fun outcome => outcome.toOption.any fun result =>
              decide (result.failure = some .tokenRejected)) = true := by
      decide +kernel
    obtain ⟨traffic, ran, rejected⟩ := (Option.any_eq_true _ _).mp rejected
    obtain ⟨outcome, reached, rejected⟩ := (Option.any_eq_true _ _).mp rejected
    obtain ⟨result, returned, failure⟩ := (Option.any_eq_true _ _).mp rejected
    refine ⟨traffic, outcome, ran, by decide +kernel,
      outcome?_eq_some_iff.mp reached, result, ?_, of_decide_eq_true failure⟩
    cases outcome with
    | ok _ => exact congrArg _ (Option.some.inj returned)
    | error _ => cases returned
  · have done : (run? Sample.client (initial .empty Sample.foreignJar)
        Sample.unfitWrite).any (fun traffic =>
          ((traffic.stage? 0).bind Stage.outcome?).isSome &&
            decide (traffic.cell.token? = none)) = true := by
      decide +kernel
    obtain ⟨traffic, ran, done⟩ := (Option.any_eq_true _ _).mp done
    rw [Bool.and_eq_true] at done
    obtain ⟨outcome, reached⟩ := Option.isSome_iff_exists.mp done.1
    exact ⟨traffic, outcome, ran, by decide +kernel,
      outcome?_eq_some_iff.mp reached, of_decide_eq_true done.2⟩

end Traffic

end AdminGate

import AdminGate.Proofs.ValidToken

/-!
# A write that nobody disturbs

While no other call moves, what a write does is settled by the token that it
finds in the cell, by the token that the cookie offers, and by the one that the
server takes for valid.  `Turn.start` and `Turn.next?` compute its requests from
these three; `Lone.step` says that the write follows them, and that the cell
always holds what the request of the moment carries.
-/

namespace AdminGate

/-- The token that the cookies of a jar offer. -/
def Client.offered (client : Client) (jar : Http.CookieJar) : Option String :=
  (Call.cookieToken client.settings jar).1

/-- A request of a write: for a token, or with one. -/
inductive Turn where
  | fetch (attempt : Attempt)
  | carry (attempt : Attempt) (token : String)
deriving DecidableEq, Repr

namespace Turn

def token? : Turn → Option String
  | fetch _ => none
  | carry _ token => some token

def wait (call : Call) (settings : Settings) : Turn → Wait
  | fetch attempt => .token attempt
  | carry attempt token =>
      .answer attempt (call.headersWith settings (some token))

/-- The request with which an attempt starts. -/
def start (attempt : Attempt) (found offered : Option String) : Turn :=
  match found.or
      (offered.filter fun token => some token != attempt.rejected) with
  | some token => carry attempt token
  | none => fetch attempt

/-- The request that comes after another one has been answered. -/
def next? (valid : String) (offered : Option String) : Turn → Option Turn
  | fetch attempt => some (carry attempt valid)
  | carry .first token =>
      if token = valid then none
      else some (start (.second (some token)) none offered)
  | carry (.second _) _ => none

/-- How a request ends that a server with one valid token answers. -/
def Meets (valid : String) : Turn → Ending → Prop
  | fetch _, ending => ∃ response, ending = .answered response ∧
      Answer.issuedToken? response = some valid
  | carry _ token, ending => ending.Rejects ↔ token ≠ valid

variable {attempt other : Attempt} {found offered : Option String}
  {token valid : String} {turn : Turn}

theorem start_eq_carry_iff :
    start attempt found offered = carry other token ↔
      other = attempt ∧ found.or (offered.filter fun token =>
        some token != attempt.rejected) = some token := by
  unfold start
  cases found.or (offered.filter fun token =>
      some token != attempt.rejected) with
  | none => simp
  | some used => simp [eq_comm]

theorem next?_first
    (follows : (carry .first token).next? valid offered = some turn) :
    token ≠ valid ∧ turn = start (.second (some token)) none offered := by
  simp only [next?] at follows
  split at follows <;> cases follows
  exact ⟨‹_›, rfl⟩

end Turn

/-- The requests that lead to one of them, from the token found in the cell. -/
inductive Turns (valid : String) (found offered : Option String) :
    List Turn → Turn → Prop where
  | start : Turns valid found offered [] (.start .first found offered)
  | next {past : List Turn} {turn after : Turn}
      (turns : Turns valid found offered past turn)
      (follows : turn.next? valid offered = some after) :
      Turns valid found offered (past ++ [turn]) after

/-- The cell and the cookie hold two different tokens, both of them outdated. -/
structure BothOutdated (valid : String) (found offered : Option String)
    (held other : String) : Prop where
  found : found = some held
  offered : offered = some other
  heldOutdated : held ≠ valid
  otherOutdated : other ≠ valid
  different : other ≠ held

/-- Whatever the cell holds is the valid token or the one that the cookie
offers. -/
def Recovered (valid : String) (offered held : Option String) : Prop :=
  ∀ token, held = some token → token = valid ∨ offered = some token

theorem recovered_of_valid (valid : String) (offered : Option String) :
    Recovered valid offered (some valid) := by
  intro token held
  exact .inl (Option.some.inj held).symm

theorem BothOutdated.not_recovered {valid : String}
    {found offered : Option String} {held other : String}
    (outdated : BothOutdated valid found offered held other) :
    ¬Recovered valid offered found := by
  intro recovered
  rcases recovered held outdated.found with same | offers
  · exact outdated.heldOutdated same
  · cases outdated.offered.symm.trans offers
    exact outdated.different rfl

namespace Turns

variable {valid : String} {found offered : Option String} {past : List Turn}
  {turn : Turn}

theorem of_valid (turns : Turns valid (some valid) offered past turn) :
    past = [] ∧ turn = .carry .first valid := by
  induction turns with
  | start => exact ⟨rfl, rfl⟩
  | next turns follows ih =>
      obtain ⟨_, rfl⟩ := ih
      simp [Turn.next?] at follows

theorem of_bothOutdated {held other : String}
    (outdated : BothOutdated valid found offered held other)
    (turns : Turns valid found offered past turn) :
    (past = [] ∧ turn = .carry .first held) ∨
      (past = [.carry .first held] ∧
        turn = .carry (.second (some held)) other) := by
  obtain ⟨rfl, rfl, heldOutdated, otherOutdated, different⟩ := outdated
  induction turns with
  | start => exact .inl ⟨rfl, rfl⟩
  | next turns follows ih =>
      rcases ih with ⟨rfl, rfl⟩ | ⟨rfl, rfl⟩
      · simp [Turn.next?, heldOutdated, Turn.start, Attempt.rejected,
          Option.filter, different] at follows
        exact .inr ⟨rfl, follows.symm⟩
      · cases follows

theorem token_cases {attempt : Attempt} {token : String}
    (turns : Turns valid found offered past (.carry attempt token)) :
    token = valid ∨
      (attempt = .first ∧ found.or offered = some token) ∨
      ∃ held, BothOutdated valid found offered held token ∧
        attempt = .second (some held) := by
  generalize here : Turn.carry attempt token = turn at turns
  induction turns generalizing attempt token with
  | start =>
      obtain ⟨rfl, used⟩ := Turn.start_eq_carry_iff.mp here.symm
      exact .inr (.inl ⟨rfl, by simpa [Attempt.rejected] using used⟩)
  | @next past turn after turns follows ih =>
      subst here
      match turn with
      | .fetch other =>
          cases follows
          exact .inl rfl
      | .carry (.second _) _ => cases follows
      | .carry .first outdated =>
          obtain ⟨invalid, follows⟩ := Turn.next?_first follows
          obtain ⟨rfl, used⟩ := Turn.start_eq_carry_iff.mp follows.symm
          obtain ⟨offers, different⟩ := Option.filter_eq_some_iff.mp used
          have different : token ≠ outdated := by
            simpa [Attempt.rejected] using different
          by_cases same : token = valid
          · exact .inl same
          · rcases ih rfl with isValid | ⟨_, first⟩ | ⟨_, _, second⟩
            · exact absurd isValid invalid
            -- the cookie offers another token, so this one was in the cell
            · cases found with
              | none =>
                  cases offers.symm.trans first
                  exact absurd rfl different
              | some held =>
                  cases first
                  exact .inr (.inr
                    ⟨_, ⟨rfl, offers, invalid, same, different⟩, rfl⟩)
            · cases second

theorem of_mem {other : Turn} (turns : Turns valid found offered past turn)
    (member : other ∈ past ++ [turn]) :
    ∃ before, Turns valid found offered before other := by
  induction turns with
  | start =>
      cases List.mem_singleton.mp member
      exact ⟨[], .start⟩
  | next turns follows ih =>
      rcases List.mem_append.mp member with earlier | last
      · exact ih earlier
      · cases List.mem_singleton.mp last
        exact ⟨_, turns.next follows⟩

/-- Once a token has been asked for, the valid one is carried and nothing
follows. -/
theorem fetches_cases (call : Call) (settings : Settings)
    (turns : Turns valid found offered past turn) :
    (past.map (·.wait call settings)).countP Wait.fetches = 0 ∨
      (past.map (·.wait call settings)).countP Wait.fetches = 1 ∧
        ∃ attempt, turn = .carry attempt valid := by
  induction turns with
  | start => exact .inl rfl
  | @next past turn after turns follows ih =>
      -- a token that is issued is the valid one, which ends the requests
      rw [List.map_append, List.countP_append]
      rcases ih with none | ⟨_, attempt, rfl⟩
      · rw [none]
        match turn with
        | .fetch attempt =>
            cases follows
            exact .inr ⟨rfl, attempt, rfl⟩
        | .carry attempt token => exact .inl rfl
      · cases attempt <;> simp [Turn.next?] at follows

/-- When nothing comes after it, a request carries the valid token, unless both
tokens that were there are outdated. -/
theorem final_cases (turns : Turns valid found offered past turn)
    (final : turn.next? valid offered = none) :
    turn.token? = some valid ∨
      ∃ held other, BothOutdated valid found offered held other ∧
        turn = .carry (.second (some held)) other := by
  match turn with
  | .fetch _ => cases final
  | .carry .first token =>
      simp only [Turn.next?, ite_eq_left_iff, reduceCtorEq, imp_false,
        Decidable.not_not] at final
      exact .inl (congrArg some final)
  | .carry (.second _) token =>
      rcases turns.token_cases with rfl | ⟨first, _⟩ | ⟨held, outdated, second⟩
      · exact .inl rfl
      · cases first
      · exact .inr ⟨held, token, outdated, by rw [second]⟩

end Turns

namespace Traffic

variable {client : Client} {valid : String} {jar : Http.CookieJar} {call : Call}
  {cell after : TokenCell} {turn : Turn} {ending : Ending}

/-! ## The steps of a write -/

/-- An attempt of a write starts as computed, and the cell then holds what its
request carries. -/
theorem attempted_start {attempt : Attempt} {what : Wait}
    (writes : call.descriptor.isRead = false)
    (usable : ∀ token, cell.token? = some token →
      some token ≠ attempt.rejected)
    (attempted : call.Attempted client.settings jar cell attempt after what) :
    what = (Turn.start attempt cell.token? (client.offered jar)).wait call
        client.settings ∧
      after.token? =
        (Turn.start attempt cell.token? (client.offered jar)).token? := by
  have empty : (∀ token, cell.token? = some token →
      some token = attempt.rejected) → cell.token? = none := by
    intro unusable
    cases held : cell.token? with
    | none => rfl
    | some token => exact absurd (unusable token held) (usable token held)
  cases attempted with
  | reading reads =>
      rw [writes] at reads
      cases reads
  | ready _ found =>
      cases found with
      | held held allowed =>
          rw [held]
          exact ⟨rfl, rfl⟩
      | cookie unusable found notBlank allowed =>
          have offers : client.offered jar = some _ :=
            Call.cookieToken_eq_some_iff.mpr ⟨_, found, rfl, notBlank⟩
          simp [Turn.start, empty unusable, offers, Option.filter, allowed,
            Turn.wait, Turn.token?]
  | unready _ found =>
      cases found with
      | missing unusable unoffered =>
          have nothing : (client.offered jar).filter
              (fun token => some token != attempt.rejected) = none := by
            simpa [Option.filter_eq_none_iff, Client.offered] using unoffered
          simp [Turn.start, empty unusable, nothing, Turn.wait, Turn.token?]

/-- A write goes on to the next request, or it is done; then it says that the
token was turned down exactly when it did not carry the valid one. -/
theorem resumed_next {next : Next} (equipped : Equipped client)
    (writes : call.descriptor.isRead = false)
    (held : cell.token? = turn.token?) (meets : turn.Meets valid ending)
    (resumed : call.Resumed client.settings jar cell
      (turn.wait call client.settings) ending after next) :
    (∃ follows, turn.next? valid (client.offered jar) = some follows ∧
        next = .wait (follows.wait call client.settings) ∧
        after.token? = follows.token?) ∨
      (turn.next? valid (client.offered jar) = none ∧ after = cell ∧
        ∃ outcome, next = .done outcome ∧
          (Call.FailsAs outcome .tokenRejected ↔ turn.token? ≠ some valid)) := by
  match turn with
  | .fetch attempt =>
      obtain ⟨response, rfl, issues⟩ := meets
      obtain ⟨rfl, rfl⟩ := resumed_issued issues resumed
      exact .inl ⟨_, rfl, rfl, rfl⟩
  | .carry attempt token =>
      by_cases invalid : token = valid
      · have final : ¬ending.Rejects := fun rejects => meets.mp rejects invalid
        obtain ⟨rfl, outcome, rfl, accepted⟩ := resumed_accepted final resumed
        refine .inr ⟨?_, rfl, outcome, rfl, ?_⟩
        · cases attempt <;> simp [Turn.next?, invalid]
        · simp [accepted, Turn.token?, invalid]
      · have rejects := meets.mpr invalid
        cases attempt with
        | first =>
            obtain ⟨response, rfl, rejects⟩ := rejects
            have named := Http.Headers.get?_set_same
              (call.headers.set Call.requestIdHeader call.context.requestId)
              equipped.ascii token
            obtain ⟨what, rfl, attempted⟩ := resumed.retries rejects named
            -- the cell holds what was carried, so the drop empties it
            rw [Option.getD_some, TokenCell.drop_eq_empty held] at attempted
            obtain ⟨rfl, holds⟩ :=
              attempted_start writes (by simp) attempted
            refine .inl ⟨_, ?_, rfl, holds⟩
            simp [Turn.next?, invalid]
        | second rejected =>
            obtain ⟨rfl, outcome, rfl, fails⟩ :=
              resumed.rejected_second rejects
            refine .inr ⟨rfl, rfl, outcome, rfl, ?_⟩
            simp [fails, Turn.token?, invalid]

/-! ## The stages of a write -/

/-- Where a write can stand at one of its requests, given those before it and
those that have reached the transport. -/
inductive Stands (client : Client) (valid : String) (jar : Http.CookieJar)
    (call : Call) (past : List Turn) (turn : Turn) (launched : List Wait) :
    Stage → Prop where
  | asked {since : Nat}
      (earlier : launched = past.map (·.wait call client.settings)) :
      Stands client valid jar call past turn launched
        (.asked (turn.wait call client.settings) since)
  | inFlight {since number : Nat} {request : Http.Request}
      (all : launched = (past ++ [turn]).map (·.wait call client.settings))
      (composed : Http.Request.compose? client.base jar
        (call.inquiry client.settings (turn.wait call client.settings)) =
          .ok request) :
      Stands client valid jar call past turn launched
        (.inFlight (turn.wait call client.settings) since number request)
  | answered {ending : Ending}
      (all : launched = (past ++ [turn]).map (·.wait call client.settings))
      (meets : turn.Meets valid ending) :
      Stands client valid jar call past turn launched
        (.ended (turn.wait call client.settings) ending)
  | unfit {failure : Http.Failure}
      (earlier : launched = past.map (·.wait call client.settings))
      (unfit : Unfit client jar call (turn.wait call client.settings) failure) :
      Stands client valid jar call past turn launched
        (.ended (turn.wait call client.settings) (.failed failure))
  | complete {outcome : Outcome}
      (all : launched = (past ++ [turn]).map (·.wait call client.settings))
      (final : turn.next? valid (client.offered jar) = none)
      (rejected : Call.FailsAs outcome .tokenRejected ↔
        turn.token? ≠ some valid) :
      Stands client valid jar call past turn launched (.done outcome)
  | cutShort {failure : Http.Failure}
      (earlier : launched = past.map (·.wait call client.settings))
      (unfit : Unfit client jar call (turn.wait call client.settings) failure) :
      Stands client valid jar call past turn launched (.done (.error failure))

/-- A write that has found a token in the cell follows its requests, and the cell
holds what the last of them carries. -/
inductive Lone (client : Client) (valid : String) (jar : Http.CookieJar)
    (found : Option String) (call : Call) :
    List Wait → List Wait → TokenCell → Stage → Prop where
  | standing {past : List Turn} {turn : Turn} {launched : List Wait}
      {cell : TokenCell} {stage : Stage}
      (turns : Turns valid found (client.offered jar) past turn)
      (held : cell.token? = turn.token?)
      (stands : Stands client valid jar call past turn launched stage) :
      Lone client valid jar found call
        ((past ++ [turn]).map (·.wait call client.settings)) launched cell stage

variable {found : Option String} {asks launched : List Wait} {stage : Stage}

theorem turn_asks (turn : Turn) (sound : call.Sound client) :
    call.Asks client.settings (turn.wait call client.settings).attempt
      (turn.wait call client.settings) := by
  cases turn with
  | fetch attempt => exact .token sound.writes
  | carry attempt token => exact .answer _

theorem Lone.begun {what : Wait} {since : Nat} (sound : call.Sound client)
    (attempted : call.Attempted client.settings jar cell .first after what) :
    Lone client valid jar cell.token? call [what] [] after
      (.asked what since) := by
  obtain ⟨rfl, held⟩ := attempted_start sound.writes (by simp [Attempt.rejected])
    attempted
  exact .standing .start held (.asked rfl)

theorem meets_of_serves {request : Http.Request} {response : Http.Response}
    (equipped : Equipped client) (sound : call.Sound client)
    (composed : Http.Request.compose? client.base jar
      (call.inquiry client.settings (turn.wait call client.settings)) =
        .ok request)
    (serves : Serves client.settings valid (turn.wait call client.settings)
      request response) :
    turn.Meets valid (.ofResult (request.receive client.year client.second jar
      response).result) := by
  have site := site_of_composed equipped sound (turn_asks _ sound) composed
  cases turn with
  | fetch attempt =>
      exact serves_issued serves site
  | carry attempt token =>
      have carries := carries_of_composed sound composed
      refine (serves_rejects_iff serves site).trans ?_
      rw [Http.Request.Carries] at carries ⊢
      simp [carries]

theorem Lone.resumed {next : Next} {what : Wait} (now : Nat)
    (equipped : Equipped client) (sound : call.Sound client)
    (lone : Lone client valid jar found call asks launched cell
      (.ended what ending))
    (resumed : call.Resumed client.settings jar cell what ending after next) :
    Lone client valid jar found call (asks ++ (stageOf now next).asked?.toList)
      launched after (stageOf now next) := by
  cases lone with
  | standing turns held stands =>
      cases stands with
      | answered all meets =>
          rcases resumed_next equipped sound.writes held meets resumed with
            ⟨follows, next, rfl, holds⟩ | ⟨final, rfl, outcome, rfl, rejected⟩
          · simpa [stageOf, Stage.asked?] using
              Lone.standing (turns.next next) holds (.asked all)
          · simpa [stageOf, Stage.asked?] using
              Lone.standing turns held (.complete all final rejected)
      | unfit earlier unfit =>
          obtain ⟨rfl, rfl⟩ := resumed_unfit unfit.foreign resumed
          simpa [stageOf, Stage.asked?] using
            Lone.standing turns held (.cutShort earlier unfit)

theorem Lone.step {traffic : Traffic} {index : Nat} {move : Move}
    {next : Stage} {jarAfter : Http.CookieJar} (equipped : Equipped client)
    (sound : call.Sound client) (honest : Honest client valid traffic move)
    (here : traffic.calls[index]? = some ⟨call, stage⟩)
    (lone : Lone client valid traffic.jar found call asks launched traffic.cell
      stage)
    (step : StageStep client traffic call index move stage jarAfter after next) :
    jarAfter = traffic.jar ∧
      Lone client valid traffic.jar found call (asks ++ next.asked?.toList)
        (launched ++ next.launched?.toList.map Prod.fst) after next := by
  cases step with
  | launched positive composed =>
      cases lone with
      | standing turns held stands =>
          cases stands with
          | asked earlier =>
              refine ⟨rfl, ?_⟩
              simpa [Stage.asked?, Stage.launched?] using
                Lone.standing turns held (.inFlight (by simp [earlier]) composed)
  | unfit positive refused =>
      cases lone with
      | standing turns held stands =>
          cases stands with
          | asked earlier =>
              refine ⟨rfl, ?_⟩
              simpa [Stage.asked?, Stage.launched?] using
                Lone.standing turns held (.unfit earlier
                  (unfit_of_refused equipped sound (turn_asks _ sound) refused))
  | answered =>
      cases lone with
      | standing turns held stands =>
          cases stands with
          | inFlight all composed =>
              have serves := honest _ (launched_of_found here)
              refine ⟨Http.Request.receive_jar serves.noCookies, ?_⟩
              simpa [Stage.asked?, Stage.launched?] using
                Lone.standing turns held (.answered all
                  (meets_of_serves equipped sound composed serves))
  | failed | windowless | expired => cases honest
  | resumed resumed =>
      rename_i what ending step
      refine ⟨rfl, ?_⟩
      have loneAfter := lone.resumed traffic.now equipped sound resumed
      cases step with
      | wait asked => simpa [stageOf, Stage.launched?] using loneAfter
      | done outcome => simpa [stageOf, Stage.launched?] using loneAfter

/-! ## What a write comes to -/

theorem Lone.recovered
    (lone : Lone client valid jar found call asks launched cell stage)
    (recovered : Recovered valid (client.offered jar) found) :
    Recovered valid (client.offered jar) cell.token? := by
  cases lone with
  | standing turns held stands =>
      rename_i past turn
      rw [held]
      match turn with
      | .fetch attempt =>
          intro token held
          cases held
      | .carry attempt token =>
          intro carried same
          cases same
          rcases turns.token_cases with isValid | ⟨_, used⟩ | ⟨_, outdated, _⟩
          · exact .inl isValid
          · cases found with
            | none => exact .inr used
            | some _ => exact recovered _ used
          · exact .inr outdated.offered

theorem Lone.of_valid
    (lone : Lone client valid jar (some valid) call asks launched cell stage) :
    asks = [.answer .first (call.headersWith client.settings (some valid))] ∧
      cell.token? = some valid := by
  cases lone with
  | standing turns held stands =>
      obtain ⟨rfl, rfl⟩ := turns.of_valid
      exact ⟨rfl, held⟩

theorem Lone.tokenRequests
    (lone : Lone client valid jar found call asks launched cell stage) :
    asks.countP Wait.fetches ≤ 1 := by
  cases lone with
  | standing turns held stands =>
      rw [List.map_append, List.countP_append]
      rcases turns.fetches_cases call client.settings with
        none | ⟨once, attempt, rfl⟩
      · rw [none, Nat.zero_add]
        exact List.countP_le_length
      · rw [once]
        exact Nat.le_refl 1

theorem Lone.resent {rejected : Option String} {headers : Http.Headers}
    (lone : Lone client valid jar found call asks launched cell stage)
    (member : .answer (.second rejected) headers ∈ asks) :
    headers = call.headersWith client.settings (some valid) ∨
      ∃ held other,
        BothOutdated valid found (client.offered jar) held other := by
  cases lone with
  | standing turns held stands =>
      obtain ⟨again, inside, same⟩ := List.mem_map.mp member
      match again with
      | .fetch _ => cases same
      | .carry attempt token =>
          cases same
          obtain ⟨before, turns⟩ := turns.of_mem inside
          rcases turns.token_cases with rfl | ⟨first, _⟩ | ⟨held, outdated, _⟩
          · exact .inl rfl
          · cases first
          · exact .inr ⟨held, token, outdated⟩

theorem Lone.defeated {outdated other : String} {outcome : Outcome}
    (both : BothOutdated valid found (client.offered jar) outdated other)
    (lone : Lone client valid jar found call asks launched cell (.done outcome))
    (sent : launched = asks) :
    Call.FailsAs outcome .tokenRejected ∧
      asks = [.answer .first
          (call.headersWith client.settings (some outdated)),
        .answer (.second (some outdated))
          (call.headersWith client.settings (some other))] := by
  cases lone with
  | standing turns held stands =>
      cases stands with
      | complete all final rejected =>
          rcases turns.of_bothOutdated both with ⟨rfl, rfl⟩ | ⟨rfl, rfl⟩
          · simp [Turn.next?, both.heldOutdated] at final
          · refine ⟨rejected.mpr ?_, rfl⟩
            simpa [Turn.token?] using both.otherOutdated
      | cutShort earlier unfit => simp [earlier] at sent

/-- A write that is done has had all its requests sent, or it has raised because
the last one could not be put together. -/
theorem Lone.done_cases {outcome : Outcome}
    (lone : Lone client valid jar found call asks launched cell
      (.done outcome)) :
    launched = asks ∨ ∃ what failure, asks.getLast? = some what ∧
      Unfit client jar call what failure ∧ outcome = .error failure := by
  cases lone with
  | standing turns held stands =>
      cases stands with
      | complete all final rejected => exact .inl all
      | cutShort earlier unfit =>
          exact .inr ⟨_, _, by simp, unfit, rfl⟩

/-- A write whose requests have all been sent leaves the valid token in the cell,
or that of the cookie, after trying two outdated ones; in that case only it says
that the token was turned down. -/
theorem Lone.sent_cases {outcome : Outcome}
    (lone : Lone client valid jar found call asks launched cell (.done outcome))
    (sent : launched = asks) :
    (cell.token? = some valid ∧ ¬Call.FailsAs outcome .tokenRejected) ∨
      ∃ held other,
        BothOutdated valid found (client.offered jar) held other ∧
        cell.token? = some other ∧ Call.FailsAs outcome .tokenRejected := by
  cases lone with
  | standing turns held stands =>
      cases stands with
      | complete all final rejected =>
          rw [held]
          rcases turns.final_cases final with
            carries | ⟨dropped, other, outdated, rfl⟩
          · exact .inl ⟨carries, by simp [rejected, carries]⟩
          · refine .inr ⟨dropped, other, outdated, rfl, rejected.mpr ?_⟩
            simpa [Turn.token?] using outdated.otherOutdated
      | cutShort earlier unfit => simp [earlier] at sent

theorem Lone.rejected_cases {outcome : Outcome}
    (lone : Lone client valid jar found call asks launched cell (.done outcome))
    (rejected : Call.FailsAs outcome .tokenRejected) :
    ∃ held other, BothOutdated valid found (client.offered jar) held other := by
  rcases lone.done_cases with sent | ⟨_, _, _, _, rfl⟩
  · rcases lone.sent_cases sent with ⟨_, accepted⟩ | ⟨held, other, outdated, _⟩
    · exact absurd rejected accepted
    · exact ⟨held, other, outdated⟩
  · simp [Call.FailsAs] at rejected

end Traffic

end AdminGate

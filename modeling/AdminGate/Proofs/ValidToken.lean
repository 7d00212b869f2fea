import AdminGate.Proofs.BoundedRetry
import AdminGate.Proofs.Exchanges
import AdminGate.Proofs.Outcomes

/-!
# A server with one valid token

The server issues one token, turns down every write that carries anything else,
and sets no cookies.  `Serves` says so of a single answer, `Obeys` of all moves
of a run.  A sound call and such a server understand each other: what the server
means by an answer is what the call reads, and only a request that cannot be put
together never gets that far.
-/

namespace AdminGate

/-- A writing call for a valid address, with ASCII names in its fields, whose
token is not covered by credentials of the address. -/
structure Call.Sound (client : Client) (call : Call) : Prop where
  writes : call.descriptor.isRead = false
  names : ∀ header ∈ call.headers, Http.Headers.IsAsciiName header.name
  target : ∃ url,
    Http.Request.ValidTarget client.base call.descriptor.url url ∧
      (client.settings.tokenKey = "authorization" → url.IsAnonymous)

def Move.IsSound (client : Client) : Move → Prop
  | .begin call => call.Sound client
  | _ => True

/-- The token of a request is this one. -/
def Http.Request.Carries (settings : Settings) (request : Http.Request)
    (token : String) : Prop :=
  request.headers.values settings.tokenKey = [token]

instance (settings : Settings) (request : Http.Request) (token : String) :
    Decidable (request.Carries settings token) :=
  inferInstanceAs (Decidable (_ = _))

/-- What a server answers that knows one valid token: it issues that token, turns
a write down unless it carries that token, and sets no cookies. -/
structure Serves (settings : Settings) (valid : String) (what : Wait)
    (request : Http.Request) (response : Http.Response) : Prop where
  noCookies : response.values "set-cookie" = []
  issues : what.transmits = false → ∃ plain,
    response.decoded? = some plain ∧ plain.location? = none ∧
      Answer.issuedToken? plain = some valid
  rejects : what.transmits = true → ¬request.Carries settings valid →
    ∃ plain, response.decoded? = some plain ∧ Answer.Rejects plain
  accepts : what.transmits = true → request.Carries settings valid →
    ∀ plain, response.decoded? = some plain → ¬Answer.Rejects plain

instance (settings : Settings) (valid : String) (what : Wait)
    (request : Http.Request) (response : Http.Response) :
    Decidable (Serves settings valid what request response) :=
  decidable_of_iff
    (response.values "set-cookie" = [] ∧
      (what.transmits = false → ∃ plain ∈ response.decoded?,
        plain.location? = none ∧ Answer.issuedToken? plain = some valid) ∧
      (what.transmits = true → ¬request.Carries settings valid →
        ∃ plain ∈ response.decoded?, Answer.Rejects plain) ∧
      (what.transmits = true → request.Carries settings valid →
        ∀ plain ∈ response.decoded?, ¬Answer.Rejects plain))
    ⟨fun ⟨noCookies, issues, rejects, accepts⟩ =>
        ⟨noCookies, issues, rejects, accepts⟩,
      fun ⟨noCookies, issues, rejects, accepts⟩ =>
        ⟨noCookies, issues, rejects, accepts⟩⟩

namespace Traffic

/-- A move in the presence of such a server, which answers in time. -/
def Honest (client : Client) (valid : String) (traffic : Traffic) : Move → Prop
  | .answer index response =>
      ∀ launch ∈ (traffic.stage? index).bind Stage.launched?,
        Serves client.settings valid launch.1 launch.2 response
  | .fail _ _ | .expire _ => False
  | .begin _ | .launch _ | .resume _ | .pass _ => True

instance (client : Client) (valid : String) (traffic : Traffic) :
    (move : Move) → Decidable (Honest client valid traffic move)
  | .answer index response => inferInstanceAs (Decidable
      (∀ launch ∈ (traffic.stage? index).bind Stage.launched?,
        Serves client.settings valid launch.1 launch.2 response))
  | .fail _ _ | .expire _ => .isFalse id
  | .begin _ | .launch _ | .resume _ | .pass _ => .isTrue trivial

/-- Every move of a run is honest when it is taken. -/
def Obeys (client : Client) (valid : String) : Traffic → List Move → Prop
  | _, [] => True
  | traffic, move :: rest =>
      Honest client valid traffic move ∧
        ∀ next ∈ step client traffic move, Obeys client valid next rest

instance decidableObeys (client : Client) (valid : String) :
    (traffic : Traffic) → (moves : List Move) →
      Decidable (Obeys client valid traffic moves)
  | _, [] => .isTrue trivial
  | traffic, move :: rest =>
      have := fun next => decidableObeys client valid next rest
      inferInstanceAs (Decidable (Honest client valid traffic move ∧
        ∀ next ∈ step client traffic move, Obeys client valid next rest))

/-- The request that a call has asked for last cannot be put together, because
of the cookies or because of its body. -/
inductive Unfit (client : Client) (jar : Http.CookieJar) (call : Call)
    (what : Wait) (failure : Http.Failure) : Prop where
  | cookies
      (refused : Http.Request.compose? client.base jar
        (call.inquiry client.settings what) = .error failure)
      (foreign : Http.Request.ForeignCookies jar failure)
  | body {fields : Fields}
      (refused : Http.Request.compose? client.base jar
        (call.inquiry client.settings what) = .error failure)
      (named : failure = .notFinite)
      (sent : (call.inquiry client.settings what).body = some fields)
      (infinite : (Json.object fields).isFinite = false)

/-- The anti-forgery field has an ASCII name, and tokens can be asked for. -/
structure Equipped (client : Client) : Prop where
  ascii : Http.Headers.IsAsciiName client.settings.tokenHeader
  endpoint : ∃ url, Http.Request.ValidTarget client.base
    client.settings.tokenEndpoint url

variable {client : Client} {valid : String} {jar : Http.CookieJar} {call : Call}
  {cell after : TokenCell} {attempt : Attempt} {what : Wait}
  {request : Http.Request} {response : Http.Response}

theorem obeys_iff_throughout {start : Traffic} {moves : List Move} :
    Obeys client valid start moves ↔
      Throughout client (Honest client valid) start moves := by
  induction moves generalizing start with
  | nil => exact Iff.rfl
  | cons move rest ih => simp only [Obeys, Throughout, ih]

theorem obeys_concat {start : Traffic} {moves : List Move} {traffic : Traffic}
    {move : Move} (obeys : Obeys client valid start (moves ++ [move]))
    (ran : run? client start moves = some traffic) :
    Obeys client valid start moves ∧ Honest client valid traffic move := by
  rw [obeys_iff_throughout] at obeys ⊢
  exact (throughout_concat_iff ran).mp obeys

/-! ## The requests -/

theorem headersWith_names (equipped : Equipped client)
    (sound : call.Sound client) (token : Option String) :
    ∀ header ∈ call.headersWith client.settings token,
      Http.Headers.IsAsciiName header.name := by
  have named : Http.Headers.IsAsciiName Call.requestIdHeader := by decide +kernel
  have plain : ∀ header ∈ call.headers.set Call.requestIdHeader
      call.context.requestId, Http.Headers.IsAsciiName header.name := by
    intro header member
    rcases Http.Headers.mem_set member with member | rfl
    · exact sound.names header member
    · exact named
  intro header member
  cases token with
  | none => exact plain header member
  | some token =>
      rcases Http.Headers.mem_set member with member | rfl
      · exact plain header member
      · exact equipped.ascii

theorem inquiry_valid (equipped : Equipped client) (sound : call.Sound client)
    (asks : call.Asks client.settings attempt what) :
    (∃ url, Http.Request.ValidTarget client.base
        (call.inquiry client.settings what).target url) ∧
      ∀ header ∈ (call.inquiry client.settings what).headers,
        Http.Headers.IsAsciiName header.name := by
  obtain ⟨url, target, _⟩ := sound.target
  cases asks with
  | token writes =>
      refine ⟨equipped.endpoint, ?_⟩
      intro header member
      cases member
  | answer token =>
      exact ⟨⟨url, target⟩, headersWith_names equipped sound token⟩

theorem unfit_of_refused {failure : Http.Failure} (equipped : Equipped client)
    (sound : call.Sound client) (asks : call.Asks client.settings attempt what)
    (refused : Http.Request.compose? client.base jar
      (call.inquiry client.settings what) = .error failure) :
    Unfit client jar call what failure := by
  obtain ⟨⟨url, target⟩, names⟩ := inquiry_valid equipped sound asks
  rcases Http.Request.compose?_cases jar target names with
    ⟨request, composed⟩ | ⟨other, again, cause⟩
  · rw [refused] at composed
    cases composed
  · cases refused.symm.trans again
    rcases cause with foreign | ⟨named, fields, sent, infinite⟩
    · exact .cookies refused foreign
    · exact .body refused named sent infinite

theorem Unfit.foreign {failure : Http.Failure}
    (unfit : Unfit client jar call what failure) : failure.IsForeign := by
  cases unfit with
  | cookies refused foreign =>
      obtain ⟨_, _, _, _, _, rfl⟩ := foreign
      exact .notAscii _
  | body refused named sent infinite =>
      rw [named]
      exact .notFinite

/-- The token that a sound call gives to its request is seen by the server. -/
theorem carries_of_composed {token : String} (sound : call.Sound client)
    (composed : Http.Request.compose? client.base jar
      (call.inquiry client.settings
        (.answer attempt (call.headersWith client.settings (some token)))) =
          .ok request) :
    request.Carries client.settings token := by
  have parts := Http.Request.compose?_composed composed
  obtain ⟨url, target, anonymous⟩ := sound.target
  have sameUrl : request.url = url :=
    Except.ok.inj (parts.url.symm.trans target.resolved)
  have given := call.headersWith_values_token client.settings token
  have carried : request.headers.values client.settings.tokenKey =
      (call.headersWith client.settings (some token)).values
        client.settings.tokenKey := by
    apply parts.values_of_given
    · simp [Call.inquiry, given]
    · rw [sameUrl]
      exact anonymous
  rw [Http.Request.Carries, carried, given]

theorem site_of_composed (equipped : Equipped client)
    (sound : call.Sound client) (asks : call.Asks client.settings attempt what)
    (composed : Http.Request.compose? client.base jar
      (call.inquiry client.settings what) = .ok request) :
    ∃ site, Http.Request.site? request.url request.headers = .ok site := by
  obtain ⟨⟨url, target⟩, _⟩ := inquiry_valid equipped sound asks
  have parts := Http.Request.compose?_composed composed
  have sameUrl : request.url = url :=
    Except.ok.inj (parts.url.symm.trans target.resolved)
  rw [sameUrl]
  exact Http.Request.site?_of_site? target.site

theorem launched_of_found {traffic : Traffic} {index since number : Nat}
    (found : traffic.calls[index]? =
      some ⟨call, .inFlight what since number request⟩) :
    (what, request) ∈ (traffic.stage? index).bind Stage.launched? := by
  simp [stage?, found, Stage.launched?]

/-! ## The answers -/

theorem serves_issued
    (serves : Serves client.settings valid (.token attempt) request response)
    (site : ∃ site, Http.Request.site? request.url request.headers = .ok site) :
    ∃ plain,
      Ending.ofResult (request.receive client.year client.second jar
        response).result = .answered plain ∧
      Answer.issuedToken? plain = some valid := by
  obtain ⟨plain, decoded, stays, issues⟩ := serves.issues rfl
  refine ⟨plain, ?_, issues⟩
  rw [Http.Request.receive_result site serves.noCookies decoded stays]
  rfl

/-- A write is read to be turned down exactly when it does not carry the valid
token. -/
theorem serves_rejects_iff {headers : Http.Headers}
    (serves : Serves client.settings valid (.answer attempt headers) request
      response)
    (site : ∃ site, Http.Request.site? request.url request.headers = .ok site) :
    (Ending.ofResult (request.receive client.year client.second jar
        response).result).Rejects ↔
      ¬request.Carries client.settings valid := by
  constructor
  · rintro ⟨plain, read, rejects⟩ carries
    rw [Ending.ofResult_eq_answered_iff] at read
    exact serves.accepts rfl carries plain
      (Http.Request.decoded_of_receive read) rejects
  · intro invalid
    obtain ⟨plain, decoded, rejects⟩ := serves.rejects rfl invalid
    rw [Http.Request.receive_result site serves.noCookies decoded
      rejects.location?_eq_none]
    exact ⟨plain, rfl, rejects⟩

/-! ## How a call goes on -/

theorem resumed_unfit {failure : Http.Failure} {next : Next}
    (foreign : failure.IsForeign)
    (resumed : call.Resumed client.settings jar cell what (.failed failure)
      after next) :
    after = cell ∧ next = .done (.error failure) := by
  cases resumed with
  | unfetched network | unreachable network =>
      obtain ⟨_, same, network⟩ := network
      cases same
      exact absurd foreign network.not_isForeign
  | late late =>
      rcases late with expired | ⟨_, same, timeout⟩
      · cases expired
      · cases same
        exact absurd foreign timeout.not_isForeign
  | faulted fault =>
      obtain ⟨read, _⟩ := fault
      cases read
      exact ⟨rfl, rfl⟩

theorem resumed_issued {attempt : Attempt} {response : Http.Response}
    {next : Next} (issues : Answer.issuedToken? response = some valid)
    (resumed : call.Resumed client.settings jar cell (.token attempt)
      (.answered response) after next) :
    after = .holding valid .serverIssued ∧
      next = .wait (.answer attempt
        (call.headersWith client.settings (some valid))) := by
  cases resumed with
  | issued otherwise =>
      cases issues.symm.trans otherwise
      exact ⟨rfl, rfl⟩
  | unissued shallow missing =>
      rw [issues] at missing
      cases missing
  | unfetched network =>
      exact absurd network (Ending.not_networkFailed_answered response)
  | late late => exact absurd late (Ending.not_timedOut_answered response)
  | faulted fault =>
      exact absurd fault (Ending.not_faulted_of_shallow
        (Answer.shallow_of_issues issues) _)

/-- A call that is not turned down is done, and does not say that it was. -/
theorem resumed_accepted {attempt : Attempt} {headers : Http.Headers}
    {ending : Ending} {next : Next} (final : ¬ending.Rejects)
    (resumed : call.Resumed client.settings jar cell (.answer attempt headers)
      ending after next) :
    after = cell ∧ ∃ outcome, next = .done outcome ∧
      ¬Call.FailsAs outcome .tokenRejected := by
  cases resumed with
  | late late =>
      refine ⟨rfl, _, rfl, ?_⟩
      simp [Call.FailsAs, ApiResult.failed]
  | finished shallow accepted =>
      rename_i response
      refine ⟨rfl, _, rfl, ?_⟩
      rcases Answer.result_cases response client.settings.locale with
        ⟨_, payload, resultEq⟩ | ⟨_, error, payload, resultEq⟩ <;>
        simp [Call.FailsAs, resultEq, ApiResult.succeeded, ApiResult.failed]
  | retried rejects | unnamed rejects =>
      exact absurd ⟨_, rfl, rejects⟩ final
  | rejectedAgain object rejection =>
      exact absurd ⟨_, rfl, _, object, rejection⟩ final
  | unreachable network =>
      refine ⟨rfl, _, rfl, ?_⟩
      simp [Call.FailsAs, ApiResult.failed]
  | faulted fault =>
      refine ⟨rfl, _, rfl, ?_⟩
      simp [Call.FailsAs]

/-! ## The small client -/

theorem sample_equipped : Equipped Sample.client where
  ascii := by decide +kernel
  endpoint := by
    refine ⟨{ Sample.client.base with path := "/api/csrf-token".toList },
      by decide +kernel, ?_, by decide +kernel⟩
    exact ⟨⟨"h".toList, "h.local".toList, true, some "80".toList,
      "/api/csrf-token".toList, false⟩, by decide +kernel⟩

theorem sample_sound : Sample.write.Sound Sample.client where
  writes := by decide +kernel
  names := by decide +kernel
  target := by
    refine ⟨{ Sample.client.base with path := "/x".toList },
      ⟨by decide +kernel, ?_, by decide +kernel⟩,
      fun named => absurd named (by decide +kernel)⟩
    exact ⟨⟨"h".toList, "h.local".toList, true, some "80".toList,
      "/x".toList, false⟩, by decide +kernel⟩

end Traffic

end AdminGate

import AdminGate.Proofs.IndependentReads
import AdminGate.Proofs.Outcomes
import AdminGate.Proofs.TokenChoice

/-!
# The fields of a transmission

A transmission carries one name of the call and one token, if there is a token.
Every other field of the caller is in it as the caller gave it, in the order in
which the caller gave it, and as often.  What else there is, is added by whoever
puts requests together, and none of it where the caller gives something.
-/

namespace AdminGate

namespace Call

/-- A field is up to the caller: it does not name the call, and it is not that of
the token when there is one. -/
def isFree (settings : Settings) (token : Option String) (header : Http.Header) :
    Bool :=
  header.key != requestIdKey &&
    !(token.isSome && header.key == settings.tokenKey)

/-- A call takes over the fields of its descriptor, and the name that its caller
gives it, or else one that is made up for it. -/
structure TakesOver (descriptor : Descriptor) (freshId : String) (call : Call) :
    Prop where
  sends : call.descriptor = descriptor
  headers : call.headers =
    (descriptor.headers.getD []).map fun pair => ⟨pair.1, pair.2⟩
  requestId : call.context.requestId =
    if call.IsNamed then
      Text.trimmed (", ".intercalate (call.headers.values requestIdKey))
    else freshId

/-- A request carries the fields of a call and a token. -/
structure Carries (settings : Settings) (call : Call) (token : Option String)
    (request : Http.Request) : Prop where
  requestId : request.headers.values requestIdKey = [call.context.requestId]
  carried : ∀ carried, token = some carried →
    request.headers.values settings.tokenKey = [carried]
  others : ∃ added, Http.Request.Added (call.headersWith settings token)
      call.descriptor.sentBody added ∧
    request.headers.filter (isFree settings token) =
      (Http.Request.standardBeside call.headers ++ call.headers ++ added).filter
        (isFree settings token)

variable {call : Call} {settings : Settings} {token : Option String}
  {base : Http.Url} {jar : Http.CookieJar} {request : Http.Request}
  {attempt : Attempt} {descriptor : Descriptor}

theorem takesOver_of_ascii (freshId : String)
    (ascii : ∀ pair ∈ descriptor.headers.getD [],
      Http.Headers.IsAsciiName pair.1 ∧ Http.Headers.IsAsciiName pair.2) :
    ∃ call, open? descriptor freshId = .ok call ∧
      TakesOver descriptor freshId call := by
  obtain ⟨call, opened, same⟩ := open?_of_ascii freshId ascii
  exact ⟨call, opened, same, (open?_eq_ok opened).2, open?_requestId opened⟩

theorem filter_headersWith (call : Call) (settings : Settings)
    (token : Option String) :
    (call.headersWith settings token).filter (isFree settings token) =
      call.headers.filter (isFree settings token) := by
  have named : ∀ (header : Http.Header), header.key = requestIdKey →
      isFree settings token header = false := by
    intro header same
    simp [isFree, same]
  cases token with
  | none => exact Http.Headers.filter_set named
  | some carried =>
      have tokens : ∀ (header : Http.Header), header.key = settings.tokenKey →
          isFree settings (some carried) header = false := by
        intro header same
        simp [isFree, same]
      exact (Http.Headers.filter_set tokens).trans
        (Http.Headers.filter_set named)

/-- Whether the default is kept is not up to the fields that a call sets
itself. -/
theorem filter_standard (call : Call) (settings : Settings)
    (token : Option String) :
    (Http.Request.standardBeside (call.headersWith settings token)).filter
        (isFree settings token) =
      (Http.Request.standardBeside call.headers).filter
        (isFree settings token) := by
  have other : "accept" ≠ requestIdKey := by decide +kernel
  have key : Text.basicLowercased "Accept" = "accept" := by decide
  by_cases taken : token.isSome ∧ settings.tokenKey = "accept"
  · have dropped : Http.Request.standardHeaders.filter
        (isFree settings token) = [] := by
      simp [Http.Request.standardHeaders, isFree, key, taken.1, taken.2]
    unfold Http.Request.standardBeside
    split <;> split <;> simp [dropped]
  · have same : (call.headersWith settings token).values "accept" =
        call.headers.values "accept" := by
      cases token with
      | none => exact Http.Headers.values_set_other other
      | some carried =>
          have apart : "accept" ≠ settings.tokenKey :=
            fun equal => taken ⟨rfl, equal.symm⟩
          exact (Http.Headers.values_set_other apart).trans
            (Http.Headers.values_set_other other)
    simp only [Http.Request.standardBeside, same]

theorem carries_of_composed
    (otherName : requestIdKey ≠ settings.tokenKey)
    (composed : Http.Request.compose? base jar
      (call.inquiry settings
        (.answer attempt (call.headersWith settings token))) = .ok request)
    (anonymous : request.url.IsAnonymous) :
    Carries settings call token request := by
  have parts := Http.Request.compose?_composed composed
  have kept : ∀ {key value},
      (call.headersWith settings token).values key = [value] →
        request.headers.values key = [value] := by
    intro key value given
    have present : (call.headersWith settings token).values key ≠ [] := by
      rw [given]
      exact List.cons_ne_nil _ _
    exact (parts.values_of_given present fun _ => anonymous).trans given
  obtain ⟨added, isAdded, headers⟩ := parts.headers_eq anonymous
  constructor
  · exact kept (call.headersWith_values_requestId token otherName)
  · rintro carried rfl
    exact kept (call.headersWith_values_token settings carried)
  · refine ⟨added, isAdded, ?_⟩
    simp only [headers, inquiry, List.filter_append, filter_standard,
      filter_headersWith]

theorem fetch_fields
    (composed : Http.Request.compose? base jar
      (call.inquiry settings (.token attempt)) = .ok request) :
    request.headers.values requestIdKey = [] ∧
      (request.url.IsAnonymous →
        request.headers = Http.Request.standardHeaders ∨
          ∃ cookies, request.headers =
            Http.Request.standardHeaders ++ [⟨"Cookie", cookies⟩]) := by
  have parts := Http.Request.compose?_composed composed
  constructor
  · have free : ¬request.Fills [] requestIdKey := by
      rintro (⟨credentials, _⟩ | ⟨_, own⟩)
      · exact absurd credentials (by decide +kernel)
      · exact absurd own (by decide +kernel)
    exact parts.values_eq free
  · intro anonymous
    obtain ⟨added, isAdded, headers⟩ := parts.headers_eq anonymous
    rcases Http.Request.Added.of_none isAdded with rfl | ⟨cookies, rfl⟩
    · exact .inl headers
    · exact .inr ⟨cookies, headers⟩

end Call

namespace Traffic

/-- The requests of a run have the fields that they should have. -/
structure MergesFields (client : Client) (start : Traffic) (moves : List Move)
    (traffic : Traffic) : Prop where
  opened : ∀ descriptor freshId,
    (∀ pair ∈ descriptor.headers.getD [],
      Http.Headers.IsAsciiName pair.1 ∧ Http.Headers.IsAsciiName pair.2) →
    ∃ call, Call.open? descriptor freshId = .ok call ∧
      Call.TakesOver descriptor freshId call
  /-- A transmission carries the fields of its caller, the name of the call, and
  the token that has been selected for it. -/
  carries : ∀ index call stage attempt headers request,
    traffic.calls[index]? = some ⟨call, stage⟩ →
    (.answer attempt headers, request) ∈
      (trail client start moves index).filterMap Stage.launched? →
      ∃ token, headers = call.headersWith client.settings token ∧
        (call.descriptor.isRead = true → token = none) ∧
        (call.descriptor.isRead = false →
          Selected client start moves index call attempt headers token) ∧
        (request.url.IsAnonymous →
          call.Carries client.settings token request)
  fetches : ∀ index call stage attempt request,
    traffic.calls[index]? = some ⟨call, stage⟩ →
    (.token attempt, request) ∈
      (trail client start moves index).filterMap Stage.launched? →
      request.headers.values Call.requestIdKey = [] ∧
        (request.url.IsAnonymous →
          request.headers = Http.Request.standardHeaders ∨
            ∃ cookies, request.headers =
              Http.Request.standardHeaders ++ [⟨"Cookie", cookies⟩])

variable {client : Client} {cell : TokenCell} {jar : Http.CookieJar}
  {moves : List Move} {traffic : Traffic} {index : Nat} {call : Call}
  {stage : Stage} {attempt : Attempt} {headers : Http.Headers}
  {request : Http.Request}

theorem run_read_headers
    (ran : run? client (initial cell jar) moves = some traffic)
    (found : traffic.calls[index]? = some ⟨call, stage⟩)
    (reads : call.descriptor.isRead = true)
    (launched : (.answer attempt headers, request) ∈
      (trail client (initial cell jar) moves index).filterMap
        Stage.launched?) :
    headers = call.headersWith client.settings none := by
  obtain ⟨before, move, after, middle, next, since, rfl, ranBefore, mover, taken,
    decides⟩ := asked_of_launched ran found launched
  rcases asked_origin taken mover decides with
    ⟨other, found, starts, attempted⟩ | ⟨other, ending, rfl, ended, resumed⟩
  · generalize next.cell = left at attempted
    cases attempted with
    | reading => rfl
    | ready writes =>
        rw [writes] at reads
        cases reads
  · obtain ⟨past, history⟩ :=
      (course_recorded (run_course ranBefore ended)).history_of_ended
    rw [history.writes] at reads
    cases reads

/-- In every run the fields of the callers are merged with what the client adds to
them. -/
theorem run_mergesFields
    (otherName : Call.requestIdKey ≠ client.settings.tokenKey)
    (notBlank : cell.token? ≠ some "")
    (ran : run? client (initial cell jar) moves = some traffic) :
    MergesFields client (initial cell jar) moves traffic where
  opened := fun _ freshId ascii => Call.takesOver_of_ascii freshId ascii
  carries := by
    intro index call stage attempt headers request found launched
    have transported := course_transported (run_course ran found)
    obtain ⟨composedJar, composed⟩ := transported.composed _ launched
    cases reads : call.descriptor.isRead with
    | true =>
        obtain rfl := run_read_headers ran found reads launched
        exact ⟨none, rfl, fun _ => rfl, nofun,
          Call.carries_of_composed otherName composed⟩
    | false =>
        obtain ⟨token, rfl, selected⟩ :=
          run_selected notBlank ran found reads launched
        exact ⟨token, rfl, nofun, fun _ => selected,
          Call.carries_of_composed otherName composed⟩
  fetches := by
    intro index call stage attempt request found launched
    have transported := course_transported (run_course ran found)
    obtain ⟨composedJar, composed⟩ := transported.composed _ launched
    exact Call.fetch_fields composed

end Traffic

/-- A write whose caller names it twice and gives another name twice. -/
def Sample.dressedWrite : Call where
  descriptor := ⟨"POST", "/x", some [], some [("X-A", "1"), ("X-Request-ID", "b"),
    ("x-request-id", "c "), ("x-a", "2")]⟩
  headers := [⟨"X-A", "1"⟩, ⟨"X-Request-ID", "b"⟩, ⟨"x-request-id", "c "⟩,
    ⟨"x-a", "2"⟩]
  context := ⟨"b, c", "POST", "/x"⟩

/-- The write is turned down, is issued a token, and is sent once more. -/
def Sample.dressedMoves : List Move :=
  .begin dressedWrite :: answers 0 [turnedDown, issuing] ++ [.launch 0]

def Sample.dressedHeaders : Http.Headers :=
  [⟨"Accept", "application/json"⟩, ⟨"X-A", "1"⟩, ⟨"X-Request-ID", "b, c"⟩,
    ⟨"x-a", "2"⟩, ⟨"X-CSRF-Token", "v"⟩, ⟨"Cookie", "csrf_token=stale"⟩,
    ⟨"Content-Type", "application/json"⟩]

namespace Traffic

/-- A write that its caller has dressed up is sent for the second time. -/
theorem run_mergesFields_dressed : ∃ traffic what request,
    run? Sample.client (initial .empty Sample.staleJar) Sample.dressedMoves =
        some traffic ∧
      (traffic.stage? 0).bind Stage.launched? = some (what, request) ∧
      request.headers = Sample.dressedHeaders ∧
      MergesFields Sample.client (initial .empty Sample.staleJar)
        Sample.dressedMoves traffic := by
  obtain ⟨traffic, what, request, ran, launched, headers⟩ :=
    exists_launched_of_any (run? Sample.client
      (initial .empty Sample.staleJar) Sample.dressedMoves) 0
      (fun _ request => request.headers = Sample.dressedHeaders)
      (by decide +kernel)
  exact ⟨traffic, what, request, ran, launched, headers,
    run_mergesFields (by decide +kernel) (by decide +kernel) ran⟩

end Traffic

end AdminGate

import AdminGate.Proofs.Runs

/-!
# The requests of a call

A call asks for one request after another.  `History` says which requests, and
which of their endings, can lead to the one that it asks for now; it has at most
three predecessors.  `course_recorded` reads the history of a call off its
trail.
-/

namespace AdminGate

namespace Wait

/-- The attempt that a request belongs to. -/
def attempt : Wait → Attempt
  | token attempt | answer attempt _ => attempt

/-- The request sends the descriptor of the call. -/
def transmits : Wait → Bool
  | token _ => false
  | answer _ _ => true

/-- The request is one for a token. -/
def fetches (what : Wait) : Bool :=
  !what.transmits

end Wait

namespace Call

/-- What an attempt asks for at first. -/
inductive Asks (call : Call) (settings : Settings) (attempt : Attempt) :
    Wait → Prop where
  | token (writes : call.descriptor.isRead = false) :
      Asks call settings attempt (.token attempt)
  | answer (token : Option String) :
      Asks call settings attempt
        (.answer attempt (call.headersWith settings token))

/-- What a call asks for when a request has ended. -/
inductive Follows (call : Call) (settings : Settings) :
    Wait → Ending → Wait → Prop where
  | transmission {attempt : Attempt} {ending : Ending} (token : Option String) :
      Follows call settings (.token attempt) ending
        (.answer attempt (call.headersWith settings token))
  | resend {headers : Http.Headers} {response : Http.Response}
      {rejected : Option String} {what : Wait}
      (rejects : Answer.Rejects response)
      (named : headers.get? settings.tokenHeader = .ok rejected)
      (asks : Asks call settings (.second rejected) what) :
      Follows call settings (.answer .first headers) (.answered response) what

/-- The requests of a call that have ended, in order and with their endings, and
the one that it asks for after them. -/
inductive History (call : Call) (settings : Settings) :
    List (Wait × Ending) → Wait → Prop where
  | first {what : Wait} (asks : Asks call settings .first what) :
      History call settings [] what
  | next {past : List (Wait × Ending)} {what after : Wait} {ending : Ending}
      (history : History call settings past what)
      (follows : Follows call settings what ending after) :
      History call settings (past ++ [(what, ending)]) after

/-- A request that has ended in this way ends the call. -/
def Concludes (call : Call) (settings : Settings) (what : Wait) (ending : Ending)
    (outcome : Outcome) : Prop :=
  ∃ jar cell after,
    Resumed call settings jar cell what ending after (.done outcome)

variable {call : Call} {settings : Settings} {jar : Http.CookieJar}
  {cell after : TokenCell}

theorem Attempted.asks {attempt : Attempt} {what : Wait}
    (attempted : Attempted call settings jar cell attempt after what) :
    Asks call settings attempt what := by
  cases attempted with
  | reading reads => exact .answer none
  | ready writes found => exact .answer _
  | unready writes found => exact .token writes

theorem Resumed.follows {what next : Wait} {ending : Ending}
    (resumed : Resumed call settings jar cell what ending after (.wait next)) :
    Follows call settings what ending next := by
  cases resumed with
  | issued | unissued | unfetched => exact .transmission _
  | retried rejects named attempted => exact .resend rejects named attempted.asks

namespace History

variable {past : List (Wait × Ending)} {what : Wait} {attempt : Attempt}
  {headers : Http.Headers} {rejected : Option String}

/-- The last request that has ended is a first transmission that was turned
down. -/
inductive TurnedDown (call : Call) (settings : Settings)
    (rejected : Option String) : List (Wait × Ending) → Prop where
  | last {before : List (Wait × Ending)} (headers : Http.Headers)
      {response : Http.Response}
      (history : History call settings before (.answer .first headers))
      (rejects : Answer.Rejects response)
      (named : headers.get? settings.tokenHeader = .ok rejected) :
      TurnedDown call settings rejected
        (before ++ [(.answer .first headers, .answered response)])

theorem token_first (history : History call settings past (.token .first)) :
    past = [] := by
  cases history with
  | first asks => rfl
  | next history follows =>
      cases follows with
      | resend rejects named asks => cases asks

theorem answer_first
    (history : History call settings past (.answer .first headers)) :
    past = [] ∨ ∃ ending, past = [(.token .first, ending)] := by
  cases history with
  | first asks => exact .inl rfl
  | next history follows =>
      cases follows with
      | transmission token =>
          rw [history.token_first]
          exact .inr ⟨_, rfl⟩
      | resend rejects named asks => cases asks

theorem token_second
    (history : History call settings past (.token (.second rejected))) :
    TurnedDown call settings rejected past := by
  cases history with
  | first asks => cases asks
  | next history follows =>
      cases follows with
      | resend rejects named asks =>
          cases asks
          exact .last _ history rejects named

/-- At most the request for its token comes between a second transmission and
the first one. -/
theorem answer_second
    (history : History call settings past (.answer (.second rejected) headers)) :
    TurnedDown call settings rejected past ∨
      ∃ before ending, TurnedDown call settings rejected before ∧
        past = before ++ [(.token (.second rejected), ending)] := by
  cases history with
  | first asks => cases asks
  | next history follows =>
      cases follows with
      | transmission token => exact .inr ⟨_, _, history.token_second, rfl⟩
      | resend rejects named asks =>
          cases asks
          exact .inl (.last _ history rejects named)

theorem headers_eq (history : History call settings past (.answer attempt headers)) :
    ∃ token, headers = call.headersWith settings token := by
  cases history with
  | first asks =>
      cases asks
      exact ⟨_, rfl⟩
  | next history follows =>
      cases follows with
      | transmission token => exact ⟨_, rfl⟩
      | resend rejects named asks =>
          cases asks
          exact ⟨_, rfl⟩

theorem writes (history : History call settings past (.token attempt)) :
    call.descriptor.isRead = false := by
  cases history with
  | first asks =>
      cases asks
      assumption
  | next history follows =>
      cases follows with
      | resend rejects named asks =>
          cases asks
          assumption

theorem of_mem {ended : Wait × Ending}
    (history : History call settings past what) (member : ended ∈ past) :
    ∃ before, before ⊆ past ∧ History call settings before ended.1 := by
  induction history with
  | first asks => cases member
  | next history follows ih =>
      rcases List.mem_append.mp member with member | member
      · obtain ⟨before, inside, earlier⟩ := ih member
        exact ⟨before, fun _ => List.mem_append_left _ ∘ @inside _, earlier⟩
      · rw [List.mem_singleton.mp member]
        exact ⟨_, List.subset_append_left _ _, history⟩

theorem rejects_of_second (history : History call settings past what)
    (second : what.attempt ≠ .first) :
    ∃ headers response, (.answer .first headers, .answered response) ∈ past ∧
      Answer.Rejects response := by
  match what with
  | .token .first | .answer .first _ => exact absurd rfl second
  | .token (.second rejected) =>
      obtain ⟨headers, earlier, rejects, named⟩ := history.token_second
      exact ⟨headers, _, by simp, rejects⟩
  | .answer (.second rejected) resent =>
      rcases history.answer_second with
        ⟨headers, earlier, rejects, named⟩ |
        ⟨_, ending, ⟨headers, earlier, rejects, named⟩, rfl⟩
      · exact ⟨headers, _, by simp, rejects⟩
      · exact ⟨headers, _, by simp, rejects⟩

theorem countP_transmits
    (history : History call settings past (.answer attempt headers)) :
    (past.map Prod.fst ++ [Wait.answer attempt headers]).countP Wait.transmits =
      match attempt with
      | .first => 1
      | .second _ => 2 := by
  have first : ∀ {earlier : List (Wait × Ending)} {headers : Http.Headers},
      History call settings earlier (.answer .first headers) →
        (earlier.map Prod.fst).countP Wait.transmits = 0 := by
    intro earlier headers history
    rcases history.answer_first with rfl | ⟨ending, rfl⟩ <;> rfl
  cases attempt with
  | first => simp [first history, Wait.transmits]
  | second rejected =>
      rcases history.answer_second with
        ⟨headers, earlier, rejects, named⟩ |
        ⟨_, ending, ⟨headers, earlier, rejects, named⟩, rfl⟩ <;>
        simp [first earlier, Wait.transmits, List.countP_cons]

/-- A transmission after which something is asked for is a first one that was
turned down. -/
theorem rejects_of_mem {ending : Ending}
    (history : History call settings past what)
    (member : (.answer attempt headers, ending) ∈ past) :
    attempt = .first ∧ ending.Rejects := by
  induction history with
  | first asks => cases member
  | next history follows ih =>
      rcases List.mem_append.mp member with member | member
      · exact ih member
      · cases List.mem_singleton.mp member
        cases follows with
        | resend rejects named asks => exact ⟨rfl, _, rfl, rejects⟩

end History

end Call

namespace Stage

/-- What a call asks for at a stage. -/
def asked? : Stage → Option Wait
  | asked what _ => some what
  | _ => none

/-- The request that is handed to the transport at a stage. -/
def launched? : Stage → Option (Wait × Http.Request)
  | inFlight what _ _ request => some (what, request)
  | _ => none

/-- The request that ends at a stage. -/
def ended? : Stage → Option (Wait × Ending)
  | ended what ending => some (what, ending)
  | _ => none

/-- The outcome of a call that is done. -/
def outcome? : Stage → Option Outcome
  | done outcome => some outcome
  | _ => none

end Stage

namespace Traffic

theorem outcome?_eq_some_iff {traffic : Traffic} {index : Nat}
    {outcome : Outcome} :
    (traffic.stage? index).bind Stage.outcome? = some outcome ↔
      traffic.stage? index = some (.done outcome) := by
  cases traffic.stage? index with
  | none => simp
  | some stage => cases stage <;> simp [Stage.outcome?]

/-- A request that is found with the transport when a run is evaluated. -/
theorem exists_launched_of_any (found : Option Traffic) (index : Nat)
    (Holds : Wait → Http.Request → Prop)
    [∀ what request, Decidable (Holds what request)]
    (evaluated : found.any (fun traffic =>
      ((traffic.stage? index).bind Stage.launched?).any fun launch =>
        Holds launch.1 launch.2) = true) :
    ∃ traffic what request, found = some traffic ∧
      (traffic.stage? index).bind Stage.launched? = some (what, request) ∧
      Holds what request := by
  obtain ⟨traffic, ran, launched⟩ := (Option.any_eq_true _ _).mp evaluated
  obtain ⟨⟨what, request⟩, launched, holds⟩ :=
    (Option.any_eq_true _ _).mp launched
  exact ⟨traffic, what, request, ran, launched, of_decide_eq_true holds⟩

/-- What a call has asked for and what has ended of it, up to the stage at which
it stands. -/
inductive Recorded (call : Call) (settings : Settings) :
    List Wait → List (Wait × Ending) → Stage → Prop where
  | asked {past : List (Wait × Ending)} {what : Wait} {since : Nat}
      (history : call.History settings past what) :
      Recorded call settings (past.map Prod.fst ++ [what]) past
        (.asked what since)
  | inFlight {past : List (Wait × Ending)} {what : Wait} {since number : Nat}
      {request : Http.Request} (history : call.History settings past what) :
      Recorded call settings (past.map Prod.fst ++ [what]) past
        (.inFlight what since number request)
  | ended {past : List (Wait × Ending)} {what : Wait} {ending : Ending}
      (history : call.History settings past what) :
      Recorded call settings (past.map Prod.fst ++ [what])
        (past ++ [(what, ending)]) (.ended what ending)
  | done {past : List (Wait × Ending)} {what : Wait} {ending : Ending}
      {outcome : Outcome} (history : call.History settings past what)
      (concludes : call.Concludes settings what ending outcome) :
      Recorded call settings (past.map Prod.fst ++ [what])
        (past ++ [(what, ending)]) (.done outcome)

variable {client : Client} {call : Call}

theorem Recorded.history {settings : Settings} {asks : List Wait}
    {ends : List (Wait × Ending)} {stage : Stage}
    (recorded : Recorded call settings asks ends stage) :
    ∃ past what, call.History settings past what ∧
      asks = past.map Prod.fst ++ [what] ∧
      (ends = past ∨ ∃ ending, ends = past ++ [(what, ending)]) := by
  cases recorded with
  | asked history | inFlight history => exact ⟨_, _, history, rfl, .inl rfl⟩
  | ended history | done history => exact ⟨_, _, history, rfl, .inr ⟨_, rfl⟩⟩

theorem Recorded.history_of_ended {settings : Settings} {asks : List Wait}
    {ends : List (Wait × Ending)} {what : Wait} {ending : Ending}
    (recorded : Recorded call settings asks ends (.ended what ending)) :
    ∃ past, call.History settings past what := by
  cases recorded with
  | ended history => exact ⟨_, history⟩

/-- Whatever a call has asked for, it has asked for after requests that have
ended. -/
theorem Recorded.of_mem {settings : Settings} {asks : List Wait}
    {ends : List (Wait × Ending)} {stage : Stage} {asked : Wait}
    (recorded : Recorded call settings asks ends stage)
    (member : asked ∈ asks) :
    ∃ before, before ⊆ ends ∧ call.History settings before asked := by
  obtain ⟨past, what, history, rfl, endsEq⟩ := recorded.history
  have inside : past ⊆ ends := by
    rcases endsEq with rfl | ⟨ending, rfl⟩
    · exact List.Subset.refl _
    · exact List.subset_append_left _ _
  rcases List.mem_append.mp member with member | member
  · obtain ⟨ended, ended_mem, rfl⟩ := List.mem_map.mp member
    obtain ⟨before, subset, earlier⟩ := history.of_mem ended_mem
    exact ⟨before, List.Subset.trans subset inside, earlier⟩
  · rw [List.mem_singleton.mp member]
    exact ⟨past, inside, history⟩

theorem Recorded.step {asks : List Wait} {ends : List (Wait × Ending)}
    {traffic : Traffic} {index : Nat} {move : Move} {stage after : Stage}
    {jar : Http.CookieJar} {cell : TokenCell}
    (recorded : Recorded call client.settings asks ends stage)
    (step : StageStep client traffic call index move stage jar cell after) :
    Recorded call client.settings (asks ++ after.asked?.toList)
      (ends ++ after.ended?.toList) after := by
  cases step with
  | launched positive composed =>
      cases recorded with
      | asked history => simpa [Stage.asked?, Stage.ended?] using .inFlight history
  | unfit | windowless =>
      cases recorded with
      | asked history => simpa [Stage.asked?, Stage.ended?] using .ended history
  | answered | failed | expired =>
      cases recorded with
      | inFlight history => simpa [Stage.asked?, Stage.ended?] using .ended history
  | resumed resumed =>
      rename_i what ending next
      cases recorded with
      | ended history =>
          cases next with
          | wait next =>
              simpa [stageOf, Stage.asked?, Stage.ended?] using
                Recorded.asked (history.next resumed.follows)
          | done outcome =>
              simpa [stageOf, Stage.asked?, Stage.ended?] using
                Recorded.done history ⟨_, _, _, resumed⟩

theorem course_recorded {trail : List Stage} {stage : Stage}
    (course : Course client call trail stage) :
    Recorded call client.settings (trail.filterMap Stage.asked?)
      (trail.filterMap Stage.ended?) stage := by
  induction course with
  | begun attempted => exact .asked (.first attempted.asks)
  | moved course step recorded =>
      rw [filterMap_concat, filterMap_concat]
      exact recorded.step step

/-- How a request that has ended came to its end: it had reached the transport,
it could not be put together, or there was no time for it. -/
inductive Delivered (client : Client) (call : Call)
    (launches : List (Wait × Http.Request)) (what : Wait) : Ending → Prop where
  | launched {ending : Ending} {request : Http.Request}
      (launched : (what, request) ∈ launches) :
      Delivered client call launches what ending
  | unfit {jar : Http.CookieJar} {failure : Http.Failure}
      (refused : Http.Request.compose? client.base jar
        (call.inquiry client.settings what) = .error failure) :
      Delivered client call launches what (.failed failure)
  | windowless (closed : client.settings.timeoutMs ≤ 0) :
      Delivered client call launches what .expired

theorem Delivered.mono {launches more : List (Wait × Http.Request)} {what : Wait}
    {ending : Ending} (delivered : Delivered client call launches what ending) :
    Delivered client call (launches ++ more) what ending := by
  cases delivered with
  | launched launched => exact .launched (List.mem_append_left more launched)
  | unfit refused => exact .unfit refused
  | windowless closed => exact .windowless closed

/-- What a stage says about the requests that have reached the transport. -/
def Underway (asks : List Wait) (launches : List (Wait × Http.Request)) :
    Stage → Prop
  | .asked what _ =>
      ∃ before, asks = before ++ [what] ∧
        (launches.map Prod.fst).Sublist before
  | .inFlight what _ _ request =>
      (what, request) ∈ launches ∧ (launches.map Prod.fst).Sublist asks
  | .ended _ _ | .done _ => (launches.map Prod.fst).Sublist asks

/-- The requests that reach the transport: each has been asked for before and
goes there once, as it could be put together then. -/
structure Transported (client : Client) (call : Call) (asks : List Wait)
    (launches : List (Wait × Http.Request)) (ends : List (Wait × Ending))
    (stage : Stage) : Prop where
  underway : Underway asks launches stage
  composed : ∀ launch ∈ launches, ∃ jar,
    Http.Request.compose? client.base jar
      (call.inquiry client.settings launch.1) = .ok launch.2
  delivered : ∀ ended ∈ ends, Delivered client call launches ended.1 ended.2

theorem Underway.sublist {asks : List Wait}
    {launches : List (Wait × Http.Request)} {stage : Stage}
    (underway : Underway asks launches stage) :
    (launches.map Prod.fst).Sublist asks := by
  cases stage with
  | asked what since =>
      obtain ⟨before, rfl, sublist⟩ := underway
      exact sublist.trans (List.sublist_append_left before _)
  | inFlight what since number request => exact underway.2
  | ended what ending | done outcome => exact underway

private theorem Transported.close {asks : List Wait}
    {launches : List (Wait × Http.Request)} {ends : List (Wait × Ending)}
    {stage : Stage} {what : Wait} {ending : Ending}
    (transported : Transported client call asks launches ends stage)
    (sublist : (launches.map Prod.fst).Sublist asks)
    (delivered : Delivered client call launches what ending) :
    Transported client call asks launches (ends ++ [(what, ending)])
      (.ended what ending) := by
  refine ⟨sublist, transported.composed, ?_⟩
  intro ended member
  rcases List.mem_append.mp member with member | member
  · exact transported.delivered ended member
  · rw [List.mem_singleton.mp member]
    exact delivered

theorem Transported.step {asks : List Wait}
    {launches : List (Wait × Http.Request)} {ends : List (Wait × Ending)}
    {traffic : Traffic} {index : Nat} {move : Move} {stage after : Stage}
    {jar : Http.CookieJar} {cell : TokenCell}
    (transported : Transported client call asks launches ends stage)
    (step : StageStep client traffic call index move stage jar cell after) :
    Transported client call (asks ++ after.asked?.toList)
      (launches ++ after.launched?.toList) (ends ++ after.ended?.toList)
      after := by
  have underway := transported.underway
  cases step with
  | launched positive composed =>
      rename_i what since request
      obtain ⟨before, rfl, sublist⟩ := underway
      simp only [Stage.asked?, Stage.launched?, Stage.ended?, Option.toList_none,
        Option.toList_some, List.append_nil]
      constructor
      · refine ⟨List.mem_append_right _ (List.mem_singleton_self _), ?_⟩
        simpa using sublist
      · intro launch member
        rcases List.mem_append.mp member with member | member
        · exact transported.composed launch member
        · rw [List.mem_singleton.mp member]
          exact ⟨_, composed⟩
      · exact fun ended member => (transported.delivered ended member).mono
  | unfit positive refused =>
      simpa [Stage.asked?, Stage.launched?, Stage.ended?] using
        transported.close underway.sublist (.unfit refused)
  | windowless closed =>
      simpa [Stage.asked?, Stage.launched?, Stage.ended?] using
        transported.close underway.sublist (.windowless closed)
  | answered | failed | expired =>
      simpa [Stage.asked?, Stage.launched?, Stage.ended?] using
        transported.close underway.sublist (.launched underway.1)
  | resumed resumed =>
      rename_i what ending next
      cases next with
      | wait next =>
          simp only [stageOf, Stage.asked?, Stage.launched?, Stage.ended?,
            Option.toList_none, Option.toList_some, List.append_nil]
          exact ⟨⟨asks, rfl, underway⟩, transported.composed,
            transported.delivered⟩
      | done outcome =>
          simp only [stageOf, Stage.asked?, Stage.launched?, Stage.ended?,
            Option.toList_none, List.append_nil]
          exact ⟨underway, transported.composed, transported.delivered⟩

theorem course_transported {trail : List Stage} {stage : Stage}
    (course : Course client call trail stage) :
    Transported client call (trail.filterMap Stage.asked?)
      (trail.filterMap Stage.launched?) (trail.filterMap Stage.ended?)
      stage := by
  induction course with
  | begun attempted =>
      refine ⟨⟨[], rfl, .slnil⟩, ?_, ?_⟩
      · intro launch member
        cases member
      · intro ended member
        cases member
  | moved course step transported =>
      rw [filterMap_concat, filterMap_concat, filterMap_concat]
      exact transported.step step

end Traffic

end AdminGate

import AdminGate.Proofs.LastAnswers
import AdminGate.Proofs.RequestWindows

/-!
# A load by itself

A session whose only step is a load sends nothing but requests for the identity,
one after another, and its loader comes to know an admin exactly when the last of
these requests was answered with one.  `Lone` follows the session from its only
task over the call to the report; its loader goes through a run of `Loading` that
consists of this one load.
-/

namespace AdminGate

variable {replies : List Reply}

namespace Scenario

/-- A call that asks for the identity at this place. -/
def AsksForIdentity (endpoint : String) (call : Call) : Prop :=
  call.descriptor.method = "GET" ∧
    call.descriptor.url = (Json.text endpoint).cleaned

/-- A request for the identity, which lies where the settings say. -/
def IsIdentityRequest (client : Client) (request : Http.Request) : Prop :=
  request.method = "GET" ∧
    Http.Request.resolve? client.base
      (Json.text client.settings.identityEndpoint).cleaned = .ok request.url

theorem AsksForIdentity.isRead {endpoint : String} {call : Call}
    (asks : AsksForIdentity endpoint call) : call.descriptor.isRead = true := by
  simp [Descriptor.isRead, Descriptor.readMethods, asks.1]

theorem AsksForIdentity.composed {client : Client} {call : Call}
    {jar : Http.CookieJar} {what : Wait} {request : Http.Request}
    (asks : AsksForIdentity client.settings.identityEndpoint call)
    (transmits : what.transmits = true)
    (composed : Http.Request.compose? client.base jar
      (call.inquiry client.settings what) = .ok request) :
    IsIdentityRequest client request := by
  have parts := Http.Request.compose?_composed composed
  obtain ⟨method, url⟩ := asks
  have capital : Text.uppercased "GET" = "GET" := by decide +kernel
  cases what with
  | token attempt => cases transmits
  | answer attempt headers =>
      refine ⟨?_, ?_⟩
      · rw [parts.method, Call.inquiry, method, capital]
      · rw [← url]
        exact parts.url

namespace World

variable {world next : World} {first : Server} {timeline : Timeline}
  {given : List Reply} {seen : List Observation}

/-! ## What the only task does -/

/-- The tasks and their calls, the loader and the reports stay as they are. -/
structure Undisturbed (world next : World) : Prop where
  client : next.client = world.client
  tasks : next.tasks = world.tasks
  owners : next.owners = world.owners
  loader : next.loader = world.loader
  reports : next.reports = world.reports

theorem Undisturbed.dispatch (same : Undisturbed world next) (index : Nat) :
    Undisturbed world (next.dispatch index) := by
  unfold World.dispatch
  obtain ⟨client, tasks, owners, loader, reports⟩ := same
  split <;> exact ⟨client, tasks, owners, loader, reports⟩

theorem Did.of_task {job : Job} (did : Did world job given seen next)
    (task : job.call? = none) :
    given = [] ∧ seen = [] ∧ next = world.carryOut job := by
  cases did with
  | tasks task busy carried => exact ⟨rfl, rfl, carried⟩
  | idle idle =>
      cases idle with
      | launch | expire => cases task
      | reply =>
          rename_i index number result unawaited
          cases result <;> cases task
  | closed found closes => cases closes.call?_eq.symm.trans task
  | unfit | launched | windowless | noticed | again | returned | lost =>
      cases task

/-- When every task that has begun is already activated from somewhere else, and
none of them gathers others, the job of a task does nothing. -/
theorem carryOut_eq_self {job : Job} (task : job.call? = none)
    (single : ∀ other, world.activations other + job.activates other ≤
      world.room other)
    (full : ∀ other, world.room other ≤ world.activations other)
    (apart : ∀ other tasks uncounted,
      world.activityOf other ≠ .gathering tasks uncounted) :
    world.carryOut job = world := by
  cases job with
  | run index | wake index =>
      have single := single index
      have full := full index
      simp only [Job.activates, if_pos] at single
      omega
  | tally index =>
      simp only [carryOut, tally]
      split
      · rename_i gathers
        exact absurd gathers (apart _ _ _)
      · rfl
  | launch | answer | fail | expire | notice | resume => cases task

/-- The only task is done, and so are all calls. -/
structure AllDone (world : World) : Prop where
  task : ∃ task, world.tasks = [task] ∧ task.isDone = true ∧
    task.activity = .idle
  calls : ∀ index stage, world.traffic.stage? index = some stage →
    ∃ outcome, stage = .done outcome

/-- The only task is done with an outcome that it reports. -/
structure Completed (world next : World) (outcome : StepOutcome) : Prop where
  client : next.client = world.client
  traffic : next.traffic = world.traffic
  loader : next.loader = world.loader
  task : ∃ task, next.tasks = [task] ∧ task.isDone = true ∧ task.activity = .idle
  report : ∃ report, next.reports = world.reports ++ [report] ∧
    report.outcome = outcome

theorem completed_settle (world : World) {task : Task}
    (tasks : world.tasks = [task]) (alone : task.followers = [])
    (outcome : StepOutcome) :
    Completed world ((world.settle 0 outcome).complete 0) outcome := by
  constructor <;> simp [settle, complete, change, tasks, alone]

theorem completed_goOn (world : World) {task : Task}
    (tasks : world.tasks = [task]) (alone : task.followers = [])
    (last : task.steps = []) (outcome : StepOutcome) :
    Completed world (world.goOn 0 outcome) outcome := by
  have steps : ((world.tasks[0]?).map (·.steps)).getD [] = [] := by
    simp [tasks, last]
  rw [goOn, steps, advance]
  exact completed_settle world tasks alone outcome

/-- A call has begun for a task. -/
structure Begun (world next : World) (task : Nat) (call : Call) : Prop where
  client : next.client = world.client
  tasks : next.tasks = world.tasks
  owners : next.owners = world.owners ++ [task]
  loader : next.loader = world.loader
  reports : next.reports = world.reports
  calls : ∃ what, call.Fits what ∧
    next.traffic.calls =
      world.traffic.calls ++ [⟨call, .asked what world.traffic.now⟩]

theorem begun_beginCall (world : World) (task : Nat) (call : Call) :
    Begun world (world.beginCall task call) task call := by
  obtain ⟨what, calls, attempted⟩ :=
    begin_calls world.client world.traffic call
  let begun : World := { world with
    traffic := world.traffic.begin world.client call
    owners := world.owners ++ [task] }
  have same : Undisturbed begun (begun.dispatch world.traffic.calls.length) :=
    (⟨rfl, rfl, rfl, rfl, rfl⟩ : Undisturbed begun begun).dispatch _
  refine ⟨same.client, same.tasks, same.owners, same.loader, same.reports,
    what, attempted.fits, ?_⟩
  rw [beginCall, dispatch_traffic]
  exact calls

theorem perform_load (world : World) (task : Nat) :
    (∃ cause, world.perform task .load =
        ({ world with loader := world.loader.start.abandon },
          some (.failed cause))) ∨
      ∃ call, AsksForIdentity world.endpoint call ∧
        world.perform task .load =
          ((({ world with loader := world.loader.start } : World).change task
            ({ · with activity := .loading })).beginCall task call, none) := by
  simp only [perform]
  cases made : Descriptor.make? (.text "GET") (.text world.endpoint) none
      none with
  | error cause => exact .inl ⟨_, rfl⟩
  | ok descriptor =>
      have parts : descriptor =
          ⟨"GET", (Json.text world.endpoint).cleaned, none, none⟩ := by
        unfold Descriptor.make? at made
        have method : Text.uppercased (Json.text "GET").cleaned = "GET" := by
          decide +kernel
        simp only [method] at made
        split at made
        · cases made
        · split at made
          · cases made
          · cases made
            rfl
      have ascii : ∀ pair ∈ descriptor.headers.getD [],
          Http.Headers.IsAsciiName pair.1 ∧
            Http.Headers.IsAsciiName pair.2 := by
        simp [parts]
      obtain ⟨call, opened, same⟩ := Call.open?_of_ascii
        ({ world with loader := world.loader.start } : World).freshId ascii
      refine .inr ⟨call, by simp [AsksForIdentity, same, parts], ?_⟩
      simp only [send, opened]

/-! ## From the load to its report -/

/-- The only task is about to begin, and its only step is a load. -/
structure Fresh (world : World) : Prop where
  tasks : world.tasks = [newTask [.load] Scopes.none]
  calls : world.traffic.calls = []
  owners : world.owners = []
  loader : world.loader = Loading.initial.loader
  reports : world.reports = []
  endpoint : world.endpoint = world.client.settings.identityEndpoint

/-- The only task waits for the only call, which asks for the identity. -/
structure InLoad (replies : List Reply) (world : World) : Prop where
  task : ∃ scopes, world.tasks = [⟨[], [], scopes, .loading, [], false⟩]
  owners : world.owners = [0]
  loader : Loading.run? world.client.settings.locale [.start] =
    some ⟨world.loader, [.running]⟩
  reports : world.reports = []
  call : ∃ call stage, world.traffic.calls = [⟨call, stage⟩] ∧
    AsksForIdentity world.client.settings.identityEndpoint call ∧
    stage.outcome? = none ∧ stage.Heard world.client.window replies

/-- What is reported at the end: a failure, or what the loader has come to by one load
and a result that brings an admin exactly when the last reply does. -/
def Told (client : Client) (replies : List Reply) (loader : IdentityLoader)
    (reports : List Report) : Prop :=
  ∃ report, reports = [report] ∧
    ((∃ cause, report.outcome = .failed cause) ∨
      ∃ result, Outcome.Heard client.window replies (.ok result) ∧
        Loading.run? client.settings.locale [.start, .finish 0 result] =
          some ⟨loader, [.returned loader.state]⟩ ∧
        report.outcome = .state loader.state)

/-- How far a session has come whose only step is a load. -/
inductive Lone (replies : List Reply) (world : World) : Prop where
  | fresh (queued : world.ready = [.run 0]) (fresh : Fresh world)
      (unasked : replies = [])
  | loading (loading : InLoad replies world)
  | allDone (allDone : AllDone world)
      (told : Told world.client replies world.loader world.reports)

theorem Completed.allDone {outcome : StepOutcome}
    (completed : Completed world next outcome)
    (calls : ∀ index stage, world.traffic.stage? index = some stage →
      ∃ outcome, stage = .done outcome) : AllDone next := by
  refine ⟨completed.task, fun index stage => ?_⟩
  rw [completed.traffic]
  exact calls index stage

theorem Begun.inLoad {call : Call} {steps : List Step} {scopes : Scopes}
    (begun : Begun world next 0 call)
    (tasks : world.tasks = [⟨steps, [], scopes, .loading, [], false⟩])
    (owners : world.owners = []) (calls : world.traffic.calls = [])
    (loader : world.loader = Loading.initial.loader.start)
    (reports : world.reports = [])
    (asks : AsksForIdentity world.client.settings.identityEndpoint call) :
    InLoad [] (next.change 0 ({ · with steps := [] })) := by
  obtain ⟨what, fits, begins⟩ := begun.calls
  refine ⟨⟨scopes, ?_⟩, begun.owners.trans (by rw [owners]; rfl), ?_,
    begun.reports.trans reports, call, _, begins.trans (by rw [calls]; rfl), ?_, rfl,
    .asked (fits asks.isRead) ?_⟩
  · simp [change, begun.tasks, tasks]
  · have started : (next.change 0 ({ · with steps := [] })).loader =
        Loading.initial.loader.start := begun.loader.trans loader
    rw [started]
    rfl
  · simpa [change, begun.client] using asks
  · rintro plain ⟨raw, last, _⟩
    cases last

theorem Fresh.begin (fresh : Fresh world) : Lone [] (advance 0 world [.load]) := by
  rcases perform_load world 0 with ⟨cause, refused⟩ | ⟨call, asks, begins⟩
  · simp only [advance, refused]
    have completed := completed_settle
      { world with loader := world.loader.start.abandon }
      fresh.tasks rfl (.failed cause)
    obtain ⟨report, reports, outcome⟩ := completed.report
    refine .allDone (completed.allDone ?_) ⟨report, ?_, .inl ⟨cause, outcome⟩⟩
    · intro index stage reached
      simp [Traffic.stage?, fresh.calls] at reached
    · simpa [fresh.reports] using reports
  · simp only [advance, begins]
    have waits : world.tasks.modify 0 ({ · with activity := .loading }) =
        [⟨[.load], [], Scopes.none, .loading, [], false⟩] := by
      rw [fresh.tasks]
      rfl
    exact .loading ((begun_beginCall _ 0 call).inLoad waits fresh.owners
      fresh.calls (congrArg IdentityLoader.start fresh.loader) fresh.reports
      (fresh.endpoint ▸ asks))

variable {index : Nat} {call : Call} {old new : Stage}

theorem InLoad.same (loading : InLoad replies world)
    (same : Undisturbed world next)
    (calls : next.traffic.calls = world.traffic.calls) :
    InLoad replies next := by
  refine ⟨?_, same.owners.trans loading.owners, ?_,
    same.reports.trans loading.reports, ?_⟩
  · rw [same.tasks]
    exact loading.task
  · rw [same.client, same.loader]
    exact loading.loader
  · rw [calls, same.client]
    exact loading.call

theorem InLoad.found (loading : InLoad replies world)
    (found : world.traffic.calls[index]? = some ⟨call, old⟩) :
    index = 0 ∧ AsksForIdentity world.client.settings.identityEndpoint call ∧
      old.Heard world.client.window replies := by
  obtain ⟨caller, stage, only, asks, _, heard⟩ := loading.call
  rw [only] at found
  cases index with
  | zero =>
      cases found
      exact ⟨rfl, asks, heard⟩
  | succ index => cases found

theorem InLoad.moved {others : List Reply} (loading : InLoad replies world)
    (same : Undisturbed world next)
    (found : world.traffic.calls[index]? = some ⟨call, old⟩)
    (calls : next.traffic.calls = world.traffic.calls.set index ⟨call, new⟩)
    (undone : new.outcome? = none)
    (heard : new.Heard world.client.window others) : InLoad others next := by
  obtain ⟨rfl, asks, _⟩ := loading.found found
  obtain ⟨caller, stage, only, _⟩ := loading.call
  refine ⟨?_, same.owners.trans loading.owners, ?_,
    same.reports.trans loading.reports, call, new, by rw [calls, only]; rfl, ?_,
    undone, ?_⟩
  · rw [same.tasks]
    exact loading.task
  · rw [same.client, same.loader]
    exact loading.loader
  · rw [same.client]
    exact asks
  · rw [same.client]
    exact heard

theorem InLoad.full (loading : InLoad replies world) (other : Nat) :
    world.room other ≤ world.activations other := by
  obtain ⟨scopes, tasks⟩ := loading.task
  obtain ⟨caller, stage, only, _, undone, _⟩ := loading.call
  cases other with
  | zero =>
      simp [room, activations, tasks, loading.owners, only, activatedBy, undone]
      omega
  | succ other => simp [room, tasks]

theorem InLoad.apart (loading : InLoad replies world) (other : Nat)
    (tasks : List Nat) (uncounted : Nat) :
    world.activityOf other ≠ .gathering tasks uncounted := by
  obtain ⟨scopes, only⟩ := loading.task
  cases other <;> simp [activityOf, only]

/-- The load ends with the outcome of its call, and the task reports it. -/
theorem InLoad.finished {outcome : Outcome} (loading : InLoad replies world)
    (same : Undisturbed world next)
    (found : world.traffic.calls[index]? = some ⟨call, old⟩)
    (calls : next.traffic.calls =
      world.traffic.calls.set index ⟨call, .done outcome⟩)
    (heard : Outcome.Heard world.client.window replies outcome) :
    Lone replies (next.finishCall index outcome) := by
  obtain ⟨rfl, _, _⟩ := loading.found found
  obtain ⟨caller, stage, only, _⟩ := loading.call
  obtain ⟨scopes, tasks⟩ := loading.task
  rw [← same.tasks] at tasks
  rw [← same.client] at heard
  have owner : next.owners.getD 0 0 = 0 := by rw [same.owners, loading.owners]; rfl
  have waits : next.activityOf 0 = .loading := by simp [activityOf, tasks]
  have reports : next.reports = [] := same.reports.trans loading.reports
  have started := loading.loader
  rw [← same.client, ← same.loader] at started
  have done : ∀ index stage, next.traffic.stage? index = some stage →
      ∃ outcome, stage = .done outcome := by
    intro index stage reached
    rw [Traffic.stage?, calls, only] at reached
    cases index with
    | zero =>
        cases reached
        exact ⟨_, rfl⟩
    | succ index => cases reached
  unfold finishCall
  simp only [owner, waits]
  cases outcome with
  | ok result =>
      let loaded := next.loader.finish result next.client.settings.locale
      have completed := completed_goOn
        { next with
          loader := loaded.1
          traffic := next.traffic.observe [.logged loaded.2.alone] }
        tasks rfl rfl (.state loaded.1.state)
      obtain ⟨report, told, reported⟩ := completed.report
      refine .allDone (completed.allDone done)
        ⟨report, told.trans (by rw [reports]; rfl), .inr ⟨result, ?_, ?_, ?_⟩⟩
      · rw [completed.client]
        exact heard
      · rw [completed.loader, completed.client]
        exact (Loading.run?_concat _ [.start] (.finish 0 result)).trans
          (congrArg (Option.bind · _) started)
      · rw [completed.loader]
        exact reported
  | error cause =>
      have completed := completed_goOn
        { next with loader := next.loader.abandon } tasks rfl rfl
        (.failed (.failure cause))
      obtain ⟨report, told, reported⟩ := completed.report
      exact .allDone (completed.allDone done)
        ⟨report, told.trans (by rw [reports]; rfl), .inl ⟨_, reported⟩⟩

/-- The call has nothing heard of its request but that it could not be sent. -/
theorem InLoad.unsent {what : Wait} {since : Nat} {ending : Ending}
    (loading : InLoad replies world)
    (found : world.traffic.calls[index]? = some ⟨call, .asked what since⟩)
    (noAnswer : ∀ plain, ending ≠ .answered plain) :
    (Stage.ended what ending).Heard world.client.window replies := by
  obtain ⟨_, _, heard⟩ := loading.found found
  cases heard with
  | asked transmits unanswered =>
      exact .ended transmits (Ending.heard_of_unanswered unanswered noAnswer)

/-- The request is handed to the transport, and perhaps replied to at once. -/
theorem InLoad.launched {what : Wait} {since : Nat} {request : Http.Request}
    {reply : Reply} {traffic : Traffic} {server : Server}
    {closed : List Observation} (loading : InLoad replies world)
    (sentSoFar : replies.length = world.traffic.sent)
    (positive : 0 < world.client.settings.timeoutMs)
    (found : world.traffic.calls[index]? = some ⟨call, .asked what since⟩)
    (placed : Traffic.Placed world.traffic traffic index call
      (.inFlight what since world.traffic.sent request)
      [.sent world.traffic.sent index request])
    (served : Served { world with traffic, server } index world.traffic.sent call
      what reply closed next) :
    InLoad (replies ++ [reply]) next := by
  obtain ⟨_, _, heard⟩ := loading.found found
  cases heard with
  | asked transmits unanswered =>
      have flies : (Stage.inFlight what since world.traffic.sent request).Heard
          world.client.window (replies ++ [reply]) :=
        .inFlight transmits (by simp [sentSoFar])
      cases served with
      | silent | later =>
          exact loading.moved ⟨rfl, rfl, rfl, rfl, rfl⟩ found placed.calls rfl
            flies
      | atOnce due sentAgain placedAgain reads =>
          have calls := placedAgain.calls
          simp only [placed.calls, List.set_set] at calls
          refine loading.moved ⟨rfl, rfl, rfl, rfl, rfl⟩ found calls rfl
            (.ended transmits (Ending.heard_of_within ?_ reads))
          rw [List.getLast?_concat]
          exact Reply.within_of_due due (window_pos positive)

theorem InLoad.closed {job : Job} {rest : List Job} {since number : Nat}
    {what : Wait} {request : Http.Request} {ending : Ending} {closing : Closing}
    (loading : InLoad replies world)
    (scheduled : Scheduled replies none world)
    (queued : world.ready = job :: rest)
    (found : world.traffic.calls[index]? =
      some ⟨call, .inFlight what since number request⟩)
    (closes : Closes world.client world.traffic index since number job closing
      ending) :
    (Stage.ended what ending).Heard world.client.window replies := by
  obtain ⟨_, _, heard⟩ := loading.found found
  obtain ⟨reply, replied, ends⟩ :=
    scheduled.closes queued (Traffic.stage?_eq_of_found found) closes
  cases heard with
  | inFlight transmits last =>
      have last : replies.getLast? = some reply := by
        rw [List.getLast?_eq_getElem?, ← last, Nat.add_sub_cancel, replied]
      refine .ended transmits ?_
      rcases ends with ⟨delay, result, due, inTime, _, _, reads⟩ |
        ⟨late, _, _, rfl⟩
      · refine Ending.heard_of_within ?_ reads
        rw [last]
        exact Reply.within_of_due due inTime
      · refine Ending.heard_of_silence ?_
        rw [last]
        exact Reply.within_of_late late

theorem InLoad.turn
    (loading : InLoad (first.replies timeline.requests) world)
    (accounted : Accounted first timeline world) (steady : Steady world)
    (turned : Turned world given seen next) :
    Lone (first.replies timeline.requests ++ given) next := by
  have sentSoFar :
      (first.replies timeline.requests).length = world.traffic.sent := by
    rw [Server.length_replies, Timeline.length_requests, accounted.ledger.length]
  cases turned with
  | rang =>
      rw [List.append_nil]
      exact .loading (loading.same ⟨rfl, rfl, rfl, rfl, rfl⟩ rfl)
  | did queued did =>
      rename_i job rest
      have popped : InLoad (first.replies timeline.requests)
          { world with ready := rest } :=
        loading.same ⟨rfl, rfl, rfl, rfl, rfl⟩ rfl
      cases did with
      | tasks task busy carried =>
          rw [List.append_nil, carried, carryOut_eq_self task
            (steady.popped queued) popped.full popped.apart]
          exact .loading popped
      | idle | noticed | lost =>
          rw [List.append_nil]
          exact .loading (loading.same ⟨rfl, rfl, rfl, rfl, rfl⟩ rfl)
      | unfit found positive sent placed =>
          rw [List.append_nil]
          exact .loading (loading.moved ⟨rfl, rfl, rfl, rfl, rfl⟩ found
            placed.calls rfl (loading.unsent found nofun))
      | windowless found closed sent placed =>
          rw [List.append_nil]
          exact .loading (loading.moved ⟨rfl, rfl, rfl, rfl, rfl⟩ found
            placed.calls rfl (loading.unsent found nofun))
      | launched found positive sent placed served =>
          exact .loading (popped.launched sentSoFar positive found placed served)
      | closed found closes sent placed =>
          rw [List.append_nil]
          exact .loading (loading.moved ⟨rfl, rfl, rfl, rfl, rfl⟩ found
            placed.calls rfl
            (loading.closed accounted.scheduled queued found closes))
      | again found resumed sent placed =>
          rename_i index call what after ending traffic cell
          obtain ⟨_, asks, heard⟩ := loading.found found
          cases heard with
          | ended transmits heard =>
              rw [List.append_nil]
              have same : Undisturbed world
                  { ({ world with ready := rest } : World).silence index with
                    traffic } := ⟨rfl, rfl, rfl, rfl, rfl⟩
              refine .loading (loading.moved (same.dispatch index) found ?_ rfl
                (heard.resumed world.traffic.now transmits asks.isRead
                  resumed))
              rw [dispatch_traffic]
              exact placed.calls
      | returned found resumed sent placed busy finished =>
          obtain ⟨_, asks, heard⟩ := loading.found found
          cases heard with
          | ended transmits heard =>
              rw [List.append_nil, finished]
              cases heard.resumed world.traffic.now transmits asks.isRead
                resumed with
              | done heard =>
                  exact loading.finished ⟨rfl, rfl, rfl, rfl, rfl⟩ found
                    placed.calls heard

theorem AllDone.same (allDone : AllDone world) (same : Undisturbed world next)
    (calls : next.traffic.calls = world.traffic.calls) : AllDone next := by
  refine ⟨?_, fun index stage => ?_⟩
  · rw [same.tasks]
    exact allDone.task
  · rw [Traffic.stage?, calls]
    exact allDone.calls index stage

theorem AllDone.unfound (allDone : AllDone world)
    (found : world.traffic.calls[index]? = some ⟨call, old⟩) :
    ∃ outcome, old = .done outcome :=
  allDone.calls index old (Traffic.stage?_eq_of_found found)

theorem AllDone.turn (allDone : AllDone world) (steady : Steady world)
    (turned : Turned world given seen next) :
    given = [] ∧ seen = [] ∧ Undisturbed world next ∧ AllDone next := by
  obtain ⟨task, tasks, isDone, activity⟩ := allDone.task
  have unroomed : ∀ other, world.room other = 0 := by
    intro other
    cases other <;> simp [room, tasks, isDone]
  have apart : ∀ other tasks uncounted,
      world.activityOf other ≠ .gathering tasks uncounted := by
    intro other
    cases other <;> simp [activityOf, tasks, activity]
  cases turned with
  | rang => exact ⟨rfl, rfl, ⟨rfl, rfl, rfl, rfl, rfl⟩,
      allDone.same ⟨rfl, rfl, rfl, rfl, rfl⟩ rfl⟩
  | did queued did =>
      cases did with
      | tasks task busy carried =>
          rw [carried, carryOut_eq_self task (steady.popped queued)
            (fun other => (unroomed other).symm ▸ Nat.zero_le _) apart]
          exact ⟨rfl, rfl, ⟨rfl, rfl, rfl, rfl, rfl⟩,
            allDone.same ⟨rfl, rfl, rfl, rfl, rfl⟩ rfl⟩
      | idle | noticed | lost =>
          exact ⟨rfl, rfl, ⟨rfl, rfl, rfl, rfl, rfl⟩,
            allDone.same ⟨rfl, rfl, rfl, rfl, rfl⟩ rfl⟩
      | unfit found | launched found | closed found | windowless found
      | again found | returned found =>
          obtain ⟨_, done⟩ := allDone.unfound found
          cases done

theorem Lone.turn (lone : Lone (first.replies timeline.requests) world)
    (accounted : Accounted first timeline world) (steady : Steady world)
    (turned : Turned world given seen next) :
    Lone (first.replies
      (timeline ++ .seenAt next.traffic.now seen : Timeline).requests) next := by
  rw [accounted.replies_turn turned]
  cases lone with
  | loading loading => exact loading.turn accounted steady turned
  | allDone allDone told =>
      obtain ⟨rfl, _, same, allDone⟩ := allDone.turn steady turned
      rw [List.append_nil]
      refine .allDone allDone ?_
      rwa [same.client, same.loader, same.reports]
  | fresh queued fresh unasked =>
      cases turned with
      | rang quiet => cases queued.symm.trans quiet
      | did taken did =>
          cases queued.symm.trans taken
          obtain ⟨rfl, _, carried⟩ := did.of_task rfl
          have begins : Fresh { world with ready := [] } :=
            ⟨fresh.tasks, fresh.calls, fresh.owners, fresh.loader, fresh.reports,
              fresh.endpoint⟩
          have steps : ((world.tasks[0]?).map (·.steps)).getD [] = [.load] := by
            simp [fresh.tasks, newTask]
          rw [unasked, carried, carryOut, steps, List.append_nil]
          exact begins.begin

theorem Lone.asks {number : Nat} {request : Http.Request}
    (lone : Lone replies world) (steady : Steady world)
    (turned : Turned world given seen next)
    (sent : .sent number index request ∈ seen) :
    IsIdentityRequest world.client request := by
  cases lone with
  | allDone allDone told =>
      obtain ⟨_, rfl, _⟩ := allDone.turn steady turned
      cases sent
  | fresh queued fresh unasked =>
      cases turned with
      | rang => cases sent
      | did taken did =>
          cases queued.symm.trans taken
          obtain ⟨_, rfl, _⟩ := did.of_task rfl
          cases sent
  | loading loading =>
      cases turned with
      | rang => cases sent
      | did queued did =>
          cases did with
          | tasks | idle | unfit | windowless | noticed | again | returned |
              lost => cases sent
          | closed => simp at sent
          | launched found positive sentOne placed served composed =>
              obtain ⟨_, asks, heard⟩ := loading.found found
              cases heard with
              | asked transmits =>
                  have mine := asks.composed transmits composed
                  cases served <;> simp at sent
                  all_goals
                    obtain ⟨_, _, rfl⟩ := sent
                    exact mine

/-- At its end the session has told what its load has come to. -/
theorem Lone.told (lone : Lone (first.replies timeline.requests) world)
    (accounted : Accounted first timeline world)
    (ends : world.isOver = true ∨ world.turn? = none) :
    AllDone world ∧ Told world.client (first.replies timeline.requests) world.loader
      world.reports := by
  cases lone with
  | allDone allDone told => exact ⟨allDone, told⟩
  | fresh queued fresh unasked =>
      rcases ends with finished | rests
      · simp [isOver, fresh.tasks, newTask] at finished
      · simp [turn?, queued] at rests
  | loading loading =>
      obtain ⟨scopes, tasks⟩ := loading.task
      obtain ⟨call, stage, only, _, undone, _⟩ := loading.call
      rcases ends with finished | rests
      · simp [isOver, tasks] at finished
      · have reached : world.traffic.stage? 0 = some stage := by
          simp [Traffic.stage?, only]
        obtain ⟨outcome, rfl⟩ := accounted.scheduled.settled rests reached
        cases undone

theorem AllDone.requests_later (allDone : AllDone world) (steady : Steady world)
    (accounted : Accounted first timeline world) (turns : Nat) :
    (timeline ++ world.timeline turns : Timeline).requests =
      timeline.requests := by
  let Holds (others : Timeline) (other : World) : Prop :=
    others.requests = timeline.requests ∧ AllDone other ∧ Steady other
  refine (accounted.later_induction
    (show Holds timeline world from ⟨rfl, allDone, steady⟩) ?_ turns).1
  rintro others other given seen next - turned ⟨same, allDone, steady⟩
  obtain ⟨_, rfl, _, allDoneNext⟩ := allDone.turn steady turned
  exact ⟨by simp [Timeline.seenAt, same], allDoneNext, (steady.turn turned).1⟩

end World

/-! ## Sessions that load -/

/-- The requests of a session, from its beginning to its end. -/
def Session.requests (session : Session) : List Http.Request :=
  match session.world? with
  | .ok start => (start.timeline (World.turnsFor session.steps)).requests
  | .error _ => []

/-- The last request of a session was answered in time, and the answer reads like
this. -/
def Session.FinalAnswer (session : Session) (response : Http.Response) : Prop :=
  AnsweredLast session.window (session.server.replies session.requests) response

theorem Session.fresh {session : Session} {start : World}
    (loads : session.steps = [.load]) (endpoint : session.endpoint = none)
    (begins : session.world? = .ok start) :
    start.ready = [.run 0] ∧ World.Fresh start := by
  unfold Session.world? at begins
  obtain ⟨cell, _, begins⟩ := Http.bind_eq_ok_iff.mp begins
  split at begins
  · cases begins
  · obtain ⟨client, made, begins⟩ := Http.bind_eq_ok_iff.mp begins
    cases begins
    have settings := make?_settings (Http.mapError_eq_ok_iff.mp made)
    refine ⟨rfl, by rw [loads], rfl, rfl, rfl, rfl, ?_⟩
    simp [endpoint, settings]

/-- However many turns a session has taken, it is somewhere between its beginning
and its report, and has asked for nothing but the identity. -/
theorem Session.lone {session : Session} {start : World}
    (loads : session.steps = [.load]) (endpoint : session.endpoint = none)
    (begins : session.world? = .ok start) (turns : Nat) :
    World.Lone (session.server.replies (start.timeline turns).requests)
        (start.later turns) ∧
      World.Steady (start.later turns) ∧
      ∀ request ∈ (start.timeline turns).requests,
        IsIdentityRequest start.client request := by
  obtain ⟨accounted, _, _⟩ := Session.accounted begins
  obtain ⟨steady, _⟩ := Session.steady begins
  obtain ⟨queued, fresh⟩ := Session.fresh loads endpoint begins
  let Holds (timeline : Timeline) (world : World) : Prop :=
    World.Lone (session.server.replies timeline.requests) world ∧
      World.Steady world ∧ world.client = start.client ∧
      ∀ request ∈ timeline.requests, IsIdentityRequest start.client request
  have held := accounted.later_induction
    (show Holds [] start from ⟨.fresh queued fresh rfl, steady, rfl, nofun⟩)
    (by
      rintro timeline world given seen next accounted turned
        ⟨lone, steady, client, asks⟩
      refine ⟨lone.turn accounted steady turned, (steady.turn turned).1,
        (accounted.turn turned).1.trans client, fun request member => ?_⟩
      rw [Timeline.requests_append, List.mem_append] at member
      rcases member with old | new
      · exact asks request old
      · obtain ⟨sending, sent, rfl⟩ := List.mem_map.mp new
        obtain ⟨_, number, sent⟩ := Timeline.mem_sendings_seenAt.mp sent
        rw [← client]
        exact lone.asks steady turned sent) turns
  obtain ⟨lone, steady, _, asks⟩ := held
  exact ⟨lone, steady, asks⟩

/-- A session that loads reports a failure, or what its loader makes of a result
that brings an admin exactly when the final answer does. -/
theorem Session.told {session : Session} {last : World}
    (loads : session.steps = [.load]) (endpoint : session.endpoint = none)
    (ends : session.outcome? = .ok last) :
    World.Told last.client (session.server.replies session.requests) last.loader
        last.reports ∧ last.client.settings = session.settings ∧
      ∃ start, session.world? = .ok start ∧
        ∀ request ∈ session.requests, IsIdentityRequest start.client request := by
  unfold Session.outcome? at ends
  cases begins : session.world? with
  | error cause =>
      rw [begins] at ends
      cases ends
  | ok start =>
      rw [begins] at ends
      obtain rfl : start.run (World.turnsFor session.steps) = last :=
        Except.ok.inj ends
      obtain ⟨accounted, settings, _⟩ := Session.accounted begins
      obtain ⟨steady, enough⟩ := Session.steady begins
      obtain ⟨turns, few, same, settles⟩ :=
        start.exists_run_eq_later (World.turnsFor session.steps)
      obtain ⟨accountedLast, client⟩ := accounted.later turns
      obtain ⟨lone, steadyLast, _⟩ := Session.lone loads endpoint begins turns
      have finished : (start.later turns).isOver = true ∨
          (start.later turns).turn? = none := by
        rcases settles with rfl | settles
        · exact .inr (steady.rests enough)
        · exact settles
      obtain ⟨allDone, told⟩ := lone.told accountedLast finished
      -- the run may end before the time of every request is up
      have requests : session.requests = (start.timeline turns).requests := by
        obtain ⟨more, total⟩ := Nat.exists_eq_add_of_le few
        simp only [Session.requests, begins]
        rw [total, World.timeline_add]
        exact allDone.requests_later steadyLast accountedLast more
      rw [same, requests, client]
      exact ⟨client ▸ told, settings, start, rfl,
        (Session.lone loads endpoint begins turns).2.2⟩

end Scenario

end AdminGate

import AdminGate.Proofs.Exchanges
import AdminGate.Proofs.TrafficSteps
import AdminGate.Scenario.World

/-!
# What one turn of a world does

A turn takes the first job of the queue, or lets time pass until the next alarm.
`Did` lists what a job can do; `Busy` collects what the tasks do between two
requests, which begins calls and otherwise concerns neither the requests nor
their jobs.
-/

namespace AdminGate

/-- When a reply comes, and what it is. -/
def Reply.due? : Reply → Option (Nat × Except Http.TransportFailure Http.Response)
  | answer response delay => some (delay, .ok response)
  | failure cause delay => some (delay, .error cause)
  | silence => none

/-- How a request that is replied to is seen to end. -/
def Closing.ofResult :
    Except Http.TransportFailure Http.Response → Closing
  | .ok response => .answered response.status
  | .error cause => .failed cause

/-- The time of a request was up, for its caller or for the transport. -/
def Closing.TimedOut : Closing → Prop
  | .cancelled => True
  | .failed cause => cause.IsTimeout
  | .answered _ => False

/-- How a request ends for its caller when it is replied to.  An answer that tells
of success is read as it is, unless reading it fails in a way that no caller
expects. -/
inductive Ending.OfResult :
    Except Http.TransportFailure Http.Response → Ending → Prop where
  | answered {response plain : Http.Response}
      (decoded : response.decoded? = some plain) :
      OfResult (.ok response) (.answered plain)
  | spoiled {response : Http.Response} {failure : Http.Failure}
      (spoiled : ∀ plain, response.decoded? = some plain →
        plain.isSuccess = true → failure.IsForeign) :
      OfResult (.ok response) (.failed failure)
  | failed {cause : Http.TransportFailure} :
      OfResult (.error cause) (.failed (.transport cause))

theorem Ending.OfResult.late {ending : Ending}
    {result : Except Http.TransportFailure Http.Response}
    (reads : OfResult result ending) (late : (Closing.ofResult result).TimedOut) :
    ending.TimedOut := by
  cases reads with
  | answered | spoiled => exact late.elim
  | failed => exact .inr ⟨_, rfl, .transport late⟩

theorem Ending.ofResult_receive (request : Http.Request) (year : Nat)
    (second : Int) (jar : Http.CookieJar) (response : Http.Response) :
    OfResult (.ok response)
      (match (request.receive year second jar response).result with
        | .ok response => .answered response
        | .error failure => .failed failure) := by
  cases read : (request.receive year second jar response).result with
  | ok plain => exact .answered (Http.Request.decoded_of_receive read)
  | error failure => exact .spoiled (Http.Request.receive_spoiled read)

/-- The step by which the request of a call is replied to. -/
def Move.ofResult (call : Nat) :
    Except Http.TransportFailure Http.Response → Move
  | .ok response => .answer call response
  | .error cause => .fail call cause

namespace Traffic

/-- A change of the traffic that concerns none of its requests. -/
structure Aside (traffic next : Traffic) : Prop where
  calls : next.calls = traffic.calls
  now : next.now = traffic.now
  sent : next.sent = traffic.sent
  logged : ∃ entries : List LogEntry,
    next.observations = traffic.observations ++ entries.map .logged

/-- A call comes to a stage, and something is seen of it. -/
structure Placed (traffic next : Traffic) (index : Nat) (call : Call)
    (stage : Stage) (seen : List Observation) : Prop where
  calls : next.calls = traffic.calls.set index ⟨call, stage⟩
  now : next.now = traffic.now
  seen : ∃ entries : List LogEntry,
    next.observations = traffic.observations ++ seen ++ entries.map .logged

variable {client : Client} {traffic next last : Traffic} {index : Nat}

theorem Aside.refl (traffic : Traffic) : Aside traffic traffic :=
  ⟨rfl, rfl, rfl, [], by simp⟩

theorem Aside.trans (first : Aside traffic next) (second : Aside next last) :
    Aside traffic last := by
  obtain ⟨entries, logged⟩ := first.logged
  obtain ⟨more, loggedMore⟩ := second.logged
  exact ⟨second.calls.trans first.calls, second.now.trans first.now,
    second.sent.trans first.sent, entries ++ more, by
      rw [loggedMore, logged, List.map_append, List.append_assoc]⟩

theorem Placed.stage?_other {call : Call} {stage : Stage}
    {seen : List Observation} {other : Nat}
    (placed : Placed traffic next index call stage seen) (ne : other ≠ index) :
    next.stage? other = traffic.stage? other := by
  rw [stage?, placed.calls, List.getElem?_set_ne (Ne.symm ne), stage?]

theorem Placed.found {call before : Call} {stage old : Stage}
    {seen : List Observation}
    (placed : Placed traffic next index call stage seen)
    (found : traffic.calls[index]? = some ⟨before, old⟩) :
    next.calls[index]? = some ⟨call, stage⟩ := by
  rw [placed.calls, List.getElem?_set_self (List.getElem?_eq_some_iff.mp found).1]

theorem stage?_eq_of_found {call : Call} {stage : Stage}
    (found : traffic.calls[index]? = some ⟨call, stage⟩) :
    traffic.stage? index = some stage := by
  rw [stage?, found]
  rfl

theorem exists_found_of_stage? {stage : Stage}
    (reached : traffic.stage? index = some stage) :
    ∃ call, traffic.calls[index]? = some ⟨call, stage⟩ := by
  obtain ⟨⟨call, stage⟩, found, rfl⟩ := Option.map_eq_some_iff.mp reached
  exact ⟨call, found⟩

theorem placed_of_launch (taken : launch client traffic index = some next) :
    ∃ call what since,
      traffic.calls[index]? = some ⟨call, .asked what since⟩ ∧
      0 < client.settings.timeoutMs ∧
      ((next.sent = traffic.sent ∧ ∃ failure,
          Placed traffic next index call (.ended what (.failed failure)) []) ∨
        (next.sent = traffic.sent + 1 ∧ ∃ request,
          Http.Request.compose? client.base traffic.jar
              (call.inquiry client.settings what) = .ok request ∧
            Placed traffic next index call
              (.inFlight what since traffic.sent request)
              [.sent traffic.sent index request])) := by
  unfold launch at taken
  split at taken
  · rename_i call what since found
    split at taken
    · cases taken
    · rename_i open_
      refine ⟨call, what, since, found, Int.not_le.mp open_, ?_⟩
      split at taken <;> cases taken
      · exact .inl ⟨rfl, _, rfl, rfl, [], by simp [place]⟩
      · rename_i request composed
        exact .inr ⟨rfl, request, composed, rfl, rfl, [],
          by simp [place, observe]⟩
  · cases taken

theorem placed_of_answer {response : Http.Response}
    (taken : answer client traffic index response = some next) :
    ∃ call what since number request ending,
      traffic.calls[index]? =
        some ⟨call, .inFlight what since number request⟩ ∧
      next.sent = traffic.sent ∧
      Ending.OfResult (.ok response) ending ∧
      Placed traffic next index call (.ended what ending)
        [.closed number (.answered response.status)] := by
  unfold answer at taken
  split at taken
  · rename_i call what since number request found
    obtain rfl := Option.some.inj taken
    exact ⟨call, what, since, number, request, _, found, rfl,
      Ending.ofResult_receive request client.year client.second traffic.jar
        response, rfl, rfl, _, rfl⟩
  · cases taken

theorem placed_of_fail {cause : Http.TransportFailure}
    (taken : fail traffic index cause = some next) :
    ∃ call what since number request ending,
      traffic.calls[index]? =
        some ⟨call, .inFlight what since number request⟩ ∧
      next.sent = traffic.sent ∧
      ending = .failed (.transport cause) ∧
      Placed traffic next index call (.ended what ending)
        [.closed number (.failed cause)] := by
  unfold fail at taken
  split at taken
  · rename_i call what since number request found
    obtain rfl := Option.some.inj taken
    exact ⟨call, what, since, number, request, _, found, rfl, rfl, rfl, rfl,
      [], by simp [place, observe]⟩
  · cases taken

theorem placed_of_expire (taken : expire client traffic index = some next) :
    ∃ call what stage, traffic.calls[index]? = some ⟨call, stage⟩ ∧
      next.sent = traffic.sent ∧
      ((client.settings.timeoutMs ≤ 0 ∧ ∃ since, stage = .asked what since ∧
          Placed traffic next index call (.ended what .expired) []) ∨
        ∃ since number request, stage = .inFlight what since number request ∧
          since + client.window ≤ traffic.now ∧
          Placed traffic next index call (.ended what .expired)
            [.closed number .cancelled]) := by
  unfold expire at taken
  split at taken
  · rename_i call what since found
    split at taken <;> cases taken
    rename_i closed
    exact ⟨call, what, _, found, rfl, .inl ⟨closed, since, rfl, rfl, rfl, [],
      by simp [place]⟩⟩
  · rename_i call what since number request found
    split at taken <;> cases taken
    rename_i late
    exact ⟨call, what, _, found, rfl, .inr ⟨since, number, request, rfl, late,
      rfl, rfl, [], by simp [place, observe]⟩⟩
  · cases taken

theorem placed_of_resume (taken : resume client traffic index = some next) :
    ∃ call what ending stage,
      traffic.calls[index]? = some ⟨call, .ended what ending⟩ ∧
      next.sent = traffic.sent ∧
      Placed traffic next index call (stageOf traffic.now stage) [] ∧
      ∃ cell, call.Resumed client.settings traffic.jar traffic.cell what ending
        cell stage := by
  unfold resume at taken
  split at taken
  · rename_i call what ending found
    obtain rfl := Option.some.inj taken
    exact ⟨call, what, ending, _, found, rfl,
      ⟨rfl, rfl, _, by simp [place, apply, observe]; rfl⟩, _,
      call.resume_resumed client.settings traffic.jar traffic.cell what ending⟩
  · cases taken

end Traffic

namespace Scenario

/-- The call that a job is about; the other jobs are those of tasks. -/
def Job.call? : Job → Option Nat
  | .launch call | .answer call _ _ | .fail call _ _ | .expire call
  | .notice call | .resume call => some call
  | .run _ | .tally _ | .wake _ => none

/-- The job by which a request comes to its end as it is replied to. -/
def Job.ofResult (call number : Nat) :
    Except Http.TransportFailure Http.Response → Job
  | .ok response => .answer call number response
  | .error cause => .fail call number cause

namespace World

/-- A change of a world that concerns none of the requests and their jobs. -/
structure Calm (world next : World) : Prop where
  client : next.client = world.client
  server : next.server = world.server
  traffic : Traffic.Aside world.traffic next.traffic
  ready : ∃ more, next.ready = world.ready ++ more ∧
    ∀ job ∈ more, job.call? = none
  alarms : ∃ more, next.alarms = world.alarms ++ more ∧
    ∀ alarm ∈ more, world.traffic.now ≤ alarm.1 ∧ alarm.2.call? = none

/-- What tasks do until all of them have to wait. -/
inductive Busy (world : World) : World → Prop where
  | refl : Busy world world
  | calm {next last : World} (busy : Busy world next) (calm : Calm next last) :
      Busy world last
  | begun {next : World} (busy : Busy world next) (task : Nat) (call : Call) :
      Busy world (next.beginCall task call)

variable {world next last : World}

theorem calm_of_eq (client : next.client = world.client)
    (server : next.server = world.server)
    (traffic : next.traffic = world.traffic) (ready : next.ready = world.ready)
    (alarms : next.alarms = world.alarms) : Calm world next := by
  refine ⟨client, server, ?_, ⟨[], by simp [ready], by simp⟩,
    ⟨[], by simp [alarms], by simp⟩⟩
  rw [traffic]
  exact .refl _

theorem Calm.refl (world : World) : Calm world world :=
  calm_of_eq rfl rfl rfl rfl rfl

theorem Calm.trans (first : Calm world next) (second : Calm next last) :
    Calm world last := by
  obtain ⟨jobs, ready, tasks⟩ := first.ready
  obtain ⟨moreJobs, readyMore, tasksMore⟩ := second.ready
  obtain ⟨set, alarms, later⟩ := first.alarms
  obtain ⟨setMore, alarmsMore, laterMore⟩ := second.alarms
  refine ⟨second.client.trans first.client, second.server.trans first.server,
    first.traffic.trans second.traffic, ⟨jobs ++ moreJobs, ?_, ?_⟩,
    ⟨set ++ setMore, ?_, ?_⟩⟩
  · rw [readyMore, ready, List.append_assoc]
  · exact List.forall_mem_append.mpr ⟨tasks, tasksMore⟩
  · rw [alarmsMore, alarms, List.append_assoc]
  · rw [first.traffic.now] at laterMore
    exact List.forall_mem_append.mpr ⟨later, laterMore⟩

theorem Busy.of_calm (calm : Calm world next) : Busy world next :=
  Busy.refl.calm calm

theorem Busy.trans (first : Busy world next) (second : Busy next last) :
    Busy world last := by
  induction second with
  | refl => exact first
  | calm _ calm ih => exact ih.calm calm
  | begun _ task call ih => exact ih.begun task call

/-! ## What tasks do -/

theorem calm_change (world : World) (index : Nat) (how : Task → Task) :
    Calm world (world.change index how) :=
  calm_of_eq rfl rfl rfl rfl rfl

theorem calm_enqueue (world : World) {job : Job} (task : job.call? = none) :
    Calm world (world.enqueue job) :=
  ⟨rfl, rfl, .refl _, ⟨[job], rfl, by simpa using task⟩, ⟨[], by simp [enqueue],
    by simp⟩⟩

theorem calm_alarm (world : World) {moment : Nat} {job : Job}
    (later : world.traffic.now ≤ moment) (task : job.call? = none) :
    Calm world (world.alarm moment job) :=
  ⟨rfl, rfl, .refl _, ⟨[], by simp [alarm], by simp⟩,
    ⟨[(moment, job)], rfl, by simpa using ⟨later, task⟩⟩⟩

theorem calm_spawn (world : World) (parent : Nat) (steps : List Step)
    (followers : List Follower) :
    Calm world (world.spawn parent steps followers).1 :=
  have begun : Calm world { world with tasks := world.tasks ++
      [{ newTask steps (world.scopesOf parent).inherited with followers }] } :=
    calm_of_eq rfl rfl rfl rfl rfl
  begun.trans (calm_enqueue _ rfl)

theorem calm_spawnAll (parent : Nat) (world : World) (steps : List Step) :
    Calm world (spawnAll parent world steps).1 := by
  induction steps generalizing world with
  | nil => exact .refl world
  | cons step rest ih => exact (calm_spawn world parent _ _).trans (ih _)

theorem calm_settle (world : World) (task : Nat) (outcome : StepOutcome) :
    Calm world (world.settle task outcome) := by
  unfold settle
  split <;> exact calm_of_eq rfl rfl rfl rfl rfl

theorem calm_complete (world : World) (task : Nat) :
    Calm world (world.complete task) := by
  have told : ∀ (followers : List Follower) (world : World),
      Calm world (followers.foldl (fun world follower => world.enqueue
        (if follower.isCounting then .tally follower.task
          else .wake follower.task)) world) := by
    intro followers
    induction followers with
    | nil => exact .refl
    | cons first rest ih =>
        intro world
        refine (calm_enqueue world ?_).trans (ih _)
        split <;> rfl
  exact (calm_change world task _).trans (told _ _)

theorem calm_tally (world : World) (task : Nat) :
    Calm world (world.tally task) := by
  unfold tally
  split
  · dsimp only
    split
    · exact (calm_change world task _).trans (calm_enqueue _ rfl)
    · exact calm_change world task _
  · exact .refl world

theorem busy_send (world : World) (task : Nat) (activity : Activity)
    (descriptor : Except DescriptorError Descriptor) :
    Busy world (world.send task activity descriptor).1 := by
  unfold send
  split
  · exact .refl
  · split
    · exact .refl
    · exact (Busy.of_calm (calm_change world task _)).begun task _

theorem calm_cell (world : World) (cell : TokenCell)
    (entries : List LogEntry) :
    Calm world { world with
      traffic := { world.traffic with cell }.observe
        (entries.map .logged) } :=
  ⟨rfl, rfl, ⟨rfl, rfl, rfl, entries, rfl⟩, ⟨[], by simp, by simp⟩,
    ⟨[], by simp, by simp⟩⟩

theorem calm_remember (world : World) (token : Json) (provenance : Provenance) :
    Calm world (world.remember token provenance).1 := by
  unfold remember
  split
  · exact .refl world
  · exact calm_cell world _ [_]

theorem calm_invalidate (world : World) (expected : Option Json) :
    Calm world (world.invalidate expected).1 := by
  unfold invalidate
  cases world.traffic.cell.invalidate expected with
  | mk cell dropped =>
      cases dropped with
      | none => exact calm_cell world cell []
      | some token => exact calm_cell world cell [_]

theorem busy_load (world : World) (task : Nat) :
    Busy world (world.perform task .load).1 := by
  have started : Calm world { world with loader := world.loader.start } :=
    calm_of_eq rfl rfl rfl rfl rfl
  have sent := busy_send { world with loader := world.loader.start } task
    .loading (Descriptor.make? (.text "GET") (.text world.endpoint) none none)
  simp only [perform]
  split
  · rename_i next begins
    rw [begins] at sent
    exact (Busy.of_calm started).trans sent
  · rename_i next outcome begins
    rw [begins] at sent
    exact ((Busy.of_calm started).trans sent).calm
      (calm_of_eq rfl rfl rfl rfl rfl)

theorem busy_perform (world : World) (task : Nat) (step : Step) :
    Busy world (world.perform task step).1 := by
  have pauses : ∀ (world : World) (activity : Activity),
      Calm world (world.change task ({ · with activity })) :=
    fun world activity => calm_change world task _
  cases step with
  | send => exact busy_send world task _ _
  | load => exact busy_load world task
  | remember token provenance =>
      simp only [perform]
      split
      · exact .refl
      · exact .of_calm (calm_remember world token _)
  | invalidate expected => exact .of_calm (calm_invalidate world expected)
  | keepEngine => exact .of_calm (calm_of_eq rfl rfl rfl rfl rfl)
  | query | current | render | guarded => exact .refl
  | enter provider =>
      simp only [perform]
      split
      · exact .refl
      · exact .of_calm (calm_change world task _)
  | leave isRaising => exact .of_calm (calm_change world task _)
  | sleep microseconds =>
      cases microseconds with
      | zero => exact .of_calm ((pauses world _).trans (calm_enqueue _ rfl))
      | succ =>
          exact .of_calm ((pauses world _).trans
            (calm_alarm _ (Nat.le_add_right _ _) rfl))
  | start name step =>
      have spawned := calm_spawn world task [step] []
      simp only [perform]
      cases begun : world.spawn task [step] [] with
      | mk next child =>
          rw [begun] at spawned
          have named : Calm next
              { next with names := next.names.insert name child } :=
            calm_of_eq rfl rfl rfl rfl rfl
          exact .of_calm (((spawned.trans named).trans (pauses _ _)).trans
            (calm_alarm _ (Nat.le_add_right _ _) rfl))
  | join name =>
      simp only [perform]
      split
      · exact .refl
      · split
        · exact .refl
        · split
          · exact .refl
          · exact .of_calm ((calm_change world _ _).trans (pauses _ _))
  | parallel steps =>
      cases steps with
      | nil => exact .refl
      | cons first rest =>
          exact .of_calm ((calm_spawnAll task world (first :: rest)).trans
            (pauses _ _))
  | isolated steps =>
      exact .of_calm ((calm_spawn world task steps _).trans (pauses _ _))

theorem busy_advance (task : Nat) (world : World) (steps : List Step) :
    Busy world (advance task world steps) := by
  induction steps generalizing world with
  | nil => exact .of_calm (calm_complete world task)
  | cons step rest ih =>
      have performed := busy_perform world task step
      simp only [advance]
      cases done : world.perform task step with
      | mk next outcome =>
          rw [done] at performed
          cases outcome with
          | some outcome =>
              exact (performed.calm (calm_settle next task outcome)).trans
                (ih _)
          | none => exact performed.calm (calm_change next task _)

theorem busy_goOn (world : World) (task : Nat) (outcome : StepOutcome) :
    Busy world (world.goOn task outcome) :=
  (Busy.of_calm (calm_settle world task outcome)).trans
    (busy_advance task _ _)

theorem busy_finishCall (world : World) (index : Nat) (outcome : Outcome) :
    Busy world (world.finishCall index outcome) := by
  unfold finishCall
  simp only
  split
  · rename_i result waits
    cases world.loader.finish result world.client.settings.locale with
    | mk loader event =>
        have finished : Calm world { world with
            loader, traffic := world.traffic.observe [.logged event.alone] } :=
          ⟨rfl, rfl, ⟨rfl, rfl, rfl, [event.alone], rfl⟩, ⟨[], by simp, by simp⟩,
            ⟨[], by simp, by simp⟩⟩
        exact (Busy.of_calm finished).trans (busy_goOn _ _ _)
  · have abandoned : Calm world { world with loader := world.loader.abandon } :=
      calm_of_eq rfl rfl rfl rfl rfl
    exact (Busy.of_calm abandoned).trans (busy_goOn _ _ _)
  · exact busy_goOn world _ _
  · exact busy_goOn world _ _

/-! ## What a job does -/

/-- The end of a request with the transport as a job brings it about. -/
inductive Closes (client : Client) (traffic : Traffic) (index since number : Nat) :
    Job → Closing → Ending → Prop where
  | replied {result : Except Http.TransportFailure Http.Response}
      {ending : Ending} (reads : Ending.OfResult result ending) :
      Closes client traffic index since number
        (.ofResult index number result) (.ofResult result) ending
  | expired (late : since + client.window ≤ traffic.now) :
      Closes client traffic index since number (.expire index) .cancelled .expired

/-- A job that comes to nothing, because its request does not stand where the job
expects it. -/
inductive Idle (client : Client) (traffic : Traffic) : Job → Prop where
  | launch {index : Nat} (unasked : 0 < client.settings.timeoutMs →
      ∀ what since, traffic.stage? index ≠ some (.asked what since)) :
      Idle client traffic (.launch index)
  | reply {index number : Nat}
      {result : Except Http.TransportFailure Http.Response}
      (unawaited : ∀ what since request,
        traffic.stage? index ≠ some (.inFlight what since number request)) :
      Idle client traffic (.ofResult index number result)
  | expire {index : Nat}
      (unasked : client.settings.timeoutMs ≤ 0 →
        ∀ what since, traffic.stage? index ≠ some (.asked what since))
      (early : ∀ what since number request,
        traffic.stage? index = some (.inFlight what since number request) →
          traffic.now < since + client.window) :
      Idle client traffic (.expire index)

/-- What becomes of a request that the server has dealt with, and what is seen of
it at once. -/
inductive Served (world : World) (index number : Nat) (call : Call)
    (what : Wait) : Reply → List Observation → World → Prop where
  | silent {reply : Reply} (silent : reply.due? = none) :
      Served world index number call what reply [] world
  | later {reply : Reply} {delay : Nat}
      {result : Except Http.TransportFailure Http.Response}
      (due : reply.due? = some (delay, result)) (positive : 0 < delay) :
      Served world index number call what reply []
        (world.alarm (world.traffic.now + delay) (.ofResult index number result))
  | atOnce {reply : Reply} {traffic : Traffic} {ending : Ending}
      {result : Except Http.TransportFailure Http.Response}
      (due : reply.due? = some (0, result))
      (sent : traffic.sent = world.traffic.sent)
      (placed : Traffic.Placed world.traffic traffic index call
        (.ended what ending) [.closed number (.ofResult result)])
      (reads : Ending.OfResult result ending) :
      Served world index number call what reply [.closed number (.ofResult result)]
        (({ world with traffic } : World).enqueue (.notice index))

/-- What a job of the queue does to the world, with the replies that the server
gives and what is seen of the requests. -/
inductive Did (world : World) :
    Job → List Reply → List Observation → World → Prop where
  | tasks {job : Job} {next : World} (task : job.call? = none)
      (busy : Busy world next) (carried : next = world.carryOut job) :
      Did world job [] [] next
  | idle {job : Job} (idle : Idle world.client world.traffic job) : Did world job [] [] world
  | unfit {index since : Nat} {call : Call} {what : Wait}
      {failure : Http.Failure} {traffic : Traffic}
      (found : world.traffic.calls[index]? = some ⟨call, .asked what since⟩)
      (positive : 0 < world.client.settings.timeoutMs)
      (sent : traffic.sent = world.traffic.sent)
      (placed : Traffic.Placed world.traffic traffic index call
        (.ended what (.failed failure)) []) :
      Did world (.launch index) [] []
        (({ world with traffic } : World).enqueue (.notice index))
  | launched {index since : Nat} {call : Call} {what : Wait}
      {request : Http.Request} {traffic : Traffic} {closed : List Observation}
      {next : World}
      (found : world.traffic.calls[index]? = some ⟨call, .asked what since⟩)
      (positive : 0 < world.client.settings.timeoutMs)
      (sent : traffic.sent = world.traffic.sent + 1)
      (placed : Traffic.Placed world.traffic traffic index call
        (.inFlight what since world.traffic.sent request)
        [.sent world.traffic.sent index request])
      (served : Served
        { world with traffic, server := (world.server.reply request).1 }
        index world.traffic.sent call what (world.server.reply request).2 closed
        next)
      (composed : Http.Request.compose? world.client.base world.traffic.jar
        (call.inquiry world.client.settings what) = .ok request) :
      Did world (.launch index) [(world.server.reply request).2]
        (.sent world.traffic.sent index request :: closed) next
  | closed {job : Job} {index since number : Nat} {call : Call} {what : Wait}
      {request : Http.Request} {ending : Ending} {closing : Closing}
      {traffic : Traffic}
      (found : world.traffic.calls[index]? =
        some ⟨call, .inFlight what since number request⟩)
      (closes : Closes world.client world.traffic index since number job closing
        ending)
      (sent : traffic.sent = world.traffic.sent)
      (placed : Traffic.Placed world.traffic traffic index call
        (.ended what ending) [.closed number closing]) :
      Did world job [] [.closed number closing]
        (({ world with traffic } : World).enqueue (.notice index))
  | windowless {index since : Nat} {call : Call} {what : Wait}
      {traffic : Traffic}
      (found : world.traffic.calls[index]? = some ⟨call, .asked what since⟩)
      (closed : world.client.settings.timeoutMs ≤ 0)
      (sent : traffic.sent = world.traffic.sent)
      (placed : Traffic.Placed world.traffic traffic index call
        (.ended what .expired) []) :
      Did world (.expire index) [] []
        (({ world with traffic } : World).enqueue (.notice index))
  | noticed {index : Nat} :
      Did world (.notice index) [] [] (world.enqueue (.resume index))
  | again {index : Nat} {call : Call} {what after : Wait} {ending : Ending}
      {traffic : Traffic} {cell : TokenCell}
      (found : world.traffic.calls[index]? = some ⟨call, .ended what ending⟩)
      (resumed : call.Resumed world.client.settings world.traffic.jar
        world.traffic.cell what ending cell (.wait after))
      (sent : traffic.sent = world.traffic.sent)
      (placed : Traffic.Placed world.traffic traffic index call
        (.asked after world.traffic.now) []) :
      Did world (.resume index) [] []
        (({ world.silence index with traffic } : World).dispatch index)
  | returned {index : Nat} {call : Call} {what : Wait} {ending : Ending}
      {outcome : Outcome} {traffic : Traffic} {cell : TokenCell} {next : World}
      (found : world.traffic.calls[index]? = some ⟨call, .ended what ending⟩)
      (resumed : call.Resumed world.client.settings world.traffic.jar
        world.traffic.cell what ending cell (.done outcome))
      (sent : traffic.sent = world.traffic.sent)
      (placed : Traffic.Placed world.traffic traffic index call
        (.done outcome) [])
      (busy : Busy { world.silence index with traffic } next)
      (finished : next =
        World.finishCall { world.silence index with traffic } index outcome) :
      Did world (.resume index) [] [] next
  | lost {index : Nat} (lost : ∀ what ending,
      world.traffic.stage? index ≠ some (.ended what ending)) :
      Did world (.resume index) [] [] (world.silence index)

theorem move_eq {move : Move} {traffic : Traffic}
    (taken : world.traffic.step world.client move = some traffic)
    (next : World → World) :
    world.move move next = next { world with traffic } := by
  simp [World.move, taken]

theorem move_refused {move : Move}
    (refused : world.traffic.step world.client move = none)
    (next : World → World) : world.move move next = world := by
  simp [World.move, refused]

theorem awaits_eq_true_iff {index number : Nat} :
    world.awaits index number = true ↔ ∃ what since request,
      world.traffic.stage? index =
        some (.inFlight what since number request) := by
  unfold awaits
  cases world.traffic.stage? index with
  | none => simp
  | some stage => cases stage <;> simp

theorem closed_of_awaits (world : World) {index since number : Nat} {call : Call} {what : Wait}
    {request : Http.Request}
    (result : Except Http.TransportFailure Http.Response)
    (found : world.traffic.calls[index]? =
      some ⟨call, .inFlight what since number request⟩) :
    ∃ traffic ending,
      world.move (.ofResult index result) (·.enqueue (.notice index)) =
          ({ world with traffic } : World).enqueue (.notice index) ∧
      traffic.sent = world.traffic.sent ∧
      Traffic.Placed world.traffic traffic index call (.ended what ending)
        [.closed number (.ofResult result)] ∧
      Ending.OfResult result ending := by
  cases result with
  | ok response =>
      have taken : (world.traffic.step world.client
          (.answer index response)).isSome = true := by
        simp [Traffic.step, Traffic.answer, found]
      obtain ⟨traffic, taken⟩ := Option.isSome_iff_exists.mp taken
      obtain ⟨_, _, _, _, _, ending, same, sent, reads, placed⟩ :=
        Traffic.placed_of_answer taken
      cases found.symm.trans same
      exact ⟨traffic, ending, move_eq taken _, sent, placed, reads⟩
  | error cause =>
      have taken : (world.traffic.step world.client
          (.fail index cause)).isSome = true := by
        simp [Traffic.step, Traffic.fail, found]
      obtain ⟨traffic, taken⟩ := Option.isSome_iff_exists.mp taken
      obtain ⟨_, _, _, _, _, ending, same, sent, rfl, placed⟩ :=
        Traffic.placed_of_fail taken
      cases found.symm.trans same
      exact ⟨traffic, _, move_eq taken _, sent, placed, .failed⟩

theorem did_reply (index number : Nat)
    (result : Except Http.TransportFailure Http.Response) :
    ∃ seen, Did world (.ofResult index number result) [] seen
      (world.carryOut (.ofResult index number result)) := by
  by_cases awaited : world.awaits index number = true
  · obtain ⟨what, since, request, reached⟩ := awaits_eq_true_iff.mp awaited
    obtain ⟨call, found⟩ := Traffic.exists_found_of_stage? reached
    obtain ⟨traffic, ending, moved, sent, placed, reads⟩ :=
      closed_of_awaits world result found
    have carried : world.carryOut (.ofResult index number result) =
        ({ world with traffic } : World).enqueue (.notice index) := by
      cases result <;>
        simpa [carryOut, Job.ofResult, Move.ofResult, awaited] using moved
    rw [carried]
    exact ⟨_, .closed found (.replied reads) sent placed⟩
  · have carried : world.carryOut (.ofResult index number result) = world := by
      cases result <;> simp [carryOut, Job.ofResult, awaited]
    rw [carried]
    refine ⟨_, .idle (.reply ?_)⟩
    intro what since request reached
    exact awaited (awaits_eq_true_iff.mpr ⟨what, since, request, reached⟩)

theorem served_of_serve (world : World) {index since number : Nat} {call : Call} {what : Wait}
    {request : Http.Request}
    (found : world.traffic.calls[index]? =
      some ⟨call, .inFlight what since number request⟩) :
    ∃ closed, Served { world with server := (world.server.reply request).1 }
      index number call what (world.server.reply request).2 closed
      (world.serve index) := by
  simp only [serve, Traffic.stage?_eq_of_found found]
  cases world.server.reply request with
  | mk server reply =>
      have atOnce : ∀ result, reply.due? = some (0, result) →
          ∃ closed, Served { world with server } index number call what reply closed
            (({ world with server } : World).move (.ofResult index result)
              (·.enqueue (.notice index))) := by
        intro result due
        obtain ⟨traffic, ending, moved, sent, placed, reads⟩ :=
          closed_of_awaits { world with server } result found
        rw [moved]
        exact ⟨_, .atOnce due sent placed reads⟩
      cases reply with
      | silence => exact ⟨_, .silent (by rfl)⟩
      | answer response delay =>
          cases delay with
          | zero => exact atOnce (.ok response) rfl
          | succ delay =>
              have due : (Reply.answer response (delay + 1)).due? =
                some (delay + 1, .ok response) := rfl
              exact ⟨_, .later due (Nat.succ_pos delay)⟩
      | failure cause delay =>
          cases delay with
          | zero => exact atOnce (.error cause) rfl
          | succ delay =>
              have due : (Reply.failure cause (delay + 1)).due? =
                some (delay + 1, .error cause) := rfl
              exact ⟨_, .later due (Nat.succ_pos delay)⟩

theorem did_launch (index : Nat) :
    ∃ given seen, Did world (.launch index) given seen
      (world.carryOut (.launch index)) := by
  cases taken : world.traffic.step world.client (.launch index) with
  | none =>
      rw [carryOut, move_refused taken]
      refine ⟨_, _, .idle (.launch ?_)⟩
      intro positive what since reached
      obtain ⟨call, found⟩ := Traffic.exists_found_of_stage? reached
      simp only [Traffic.step, Traffic.launch, found,
        if_neg (Int.not_le.mpr positive)] at taken
      split at taken <;> cases taken
  | some traffic =>
      obtain ⟨call, what, since, found, positive, placed⟩ :=
        Traffic.placed_of_launch taken
      rw [carryOut, move_eq taken]
      rcases placed with ⟨sent, failure, placed⟩ |
        ⟨sent, request, composed, placed⟩
      · have ended := Traffic.stage?_eq_of_found (placed.found found)
        simp only [serve, ended]
        exact ⟨_, _, .unfit found positive sent placed⟩
      · obtain ⟨closed, served⟩ :=
          served_of_serve { world with traffic } (placed.found found)
        exact ⟨_, _, .launched found positive sent placed served composed⟩

theorem did_expire (index : Nat) :
    ∃ seen, Did world (.expire index) [] seen
      (world.carryOut (.expire index)) := by
  cases taken : world.traffic.step world.client (.expire index) with
  | none =>
      rw [carryOut, move_refused taken]
      refine ⟨_, .idle (.expire ?_ ?_)⟩
      · intro closed what since reached
        obtain ⟨call, found⟩ := Traffic.exists_found_of_stage? reached
        simp [Traffic.step, Traffic.expire, found, closed] at taken
      · intro what since number request reached
        obtain ⟨call, found⟩ := Traffic.exists_found_of_stage? reached
        simpa [Traffic.step, Traffic.expire, found] using taken
  | some traffic =>
      rw [carryOut, move_eq taken]
      obtain ⟨call, what, stage, found, sent, placed⟩ :=
        Traffic.placed_of_expire taken
      rcases placed with ⟨closed, since, rfl, placed⟩ |
        ⟨since, number, request, rfl, late, placed⟩
      · exact ⟨_, .windowless found closed sent placed⟩
      · exact ⟨_, .closed found (.expired late) sent placed⟩

theorem did_resume (index : Nat) :
    Did world (.resume index) [] [] (world.carryOut (.resume index)) := by
  cases taken : (world.silence index).traffic.step (world.silence index).client
      (.resume index) with
  | none =>
      rw [carryOut, move_refused taken]
      refine .lost ?_
      intro what ending reached
      obtain ⟨call, found⟩ := Traffic.exists_found_of_stage? reached
      simp [Traffic.step, silence, Traffic.resume, found] at taken
  | some traffic =>
      rw [carryOut, move_eq taken]
      obtain ⟨call, what, ending, stage, found, sent, placed, cell, resumed⟩ :=
        Traffic.placed_of_resume taken
      have reached := Traffic.stage?_eq_of_found (placed.found found)
      cases stage with
      | wait after =>
          simp only [reached, Traffic.stageOf]
          exact .again found resumed sent placed
      | done outcome =>
          simp only [reached, Traffic.stageOf]
          exact .returned found resumed sent placed (busy_finishCall _ _ _) rfl

theorem carryOut_did (job : Job) :
    ∃ given seen, Did world job given seen (world.carryOut job) := by
  cases job with
  | run task => exact ⟨_, _, .tasks rfl (busy_advance task world _) rfl⟩
  | tally task => exact ⟨_, _, .tasks rfl (.of_calm (calm_tally world task)) rfl⟩
  | wake task => exact ⟨_, _, .tasks rfl (busy_goOn world task _) rfl⟩
  | launch index => exact did_launch index
  | answer index number response =>
      exact ⟨_, did_reply index number (.ok response)⟩
  | fail index number cause => exact ⟨_, did_reply index number (.error cause)⟩
  | expire index => exact ⟨_, did_expire index⟩
  | notice index => exact ⟨_, _, .noticed⟩
  | resume index => exact ⟨_, _, did_resume index⟩

/-! ## Turns -/

/-- The world when time has moved on to a moment and its alarms have rung. -/
def rung (world : World) (moment : Nat) : World :=
  { world with
    traffic := { world.traffic with
      now := world.traffic.now + (moment - world.traffic.now) }
    ready := (world.alarms.filter (·.1 == moment)).map (·.2)
    alarms := world.alarms.filter (!·.1 == moment) }

/-- What happens in one turn of a world. -/
inductive Turned (world : World) :
    List Reply → List Observation → World → Prop where
  | did {job : Job} {rest : List Job} {given : List Reply}
      {seen : List Observation} {next : World}
      (queued : world.ready = job :: rest)
      (did : Did { world with ready := rest } job given seen next) :
      Turned world given seen next
  | rang {moment : Nat}
      (quiet : world.ready = [])
      (moments : world.nextMoment? = some moment)
      (patient : world.traffic.calls.all (OpenCall.isPatient world.client
        (world.rung moment).traffic.now) = true) :
      Turned world [] [] (world.rung moment)

theorem turned_of_turn? (turned : world.turn? = some next) :
    ∃ given seen, Turned world given seen next := by
  unfold turn? at turned
  split at turned
  · rename_i job rest queued
    cases turned
    obtain ⟨given, seen, did⟩ := carryOut_did job
    exact ⟨given, seen, .did queued did⟩
  · rename_i quiet
    obtain ⟨moment, moments, turned⟩ := Option.bind_eq_some_iff.mp turned
    obtain ⟨traffic, passed, turned⟩ := Option.bind_eq_some_iff.mp turned
    rw [List.partition_eq_filter_filter] at turned
    obtain rfl := Option.some.inj turned
    simp only [Traffic.step, Traffic.pass] at passed
    split at passed
    · rename_i patient
      obtain rfl := Option.some.inj passed
      exact ⟨_, _, .rang quiet moments patient⟩
    · cases passed

end World

end Scenario

end AdminGate

import AdminGate.Scenario.Server
import AdminGate.Scenario.Step

/-!
# The world of a scenario

Tasks run beside each other on one client.  At any moment at most one of them does something; what
is ready to go on waits in a queue and is taken in order.  Only when the queue is empty does time
move, straight to the next alarm.  Every step of the traffic is one of `Traffic.step`, so a scenario
is a run of the traffic in one particular order.

A request passes through four jobs: it is launched, its end is noticed, the call is woken, and the
call goes on.
-/

namespace AdminGate.Scenario

/-- Something that is ready to happen. -/
inductive Job where
  /-- A task begins. -/
  | run (task : Nat)
  /-- The request that a call waits for is handed to the transport. -/
  | launch (call : Nat)
  /-- The request with a number is answered. -/
  | answer (call number : Nat) (response : Http.Response)
  /-- The request with a number fails. -/
  | fail (call number : Nat) (cause : Http.TransportFailure)
  /-- The time of a request is up. -/
  | expire (call : Nat)
  /-- The end of a request is noticed. -/
  | notice (call : Nat)
  /-- A call goes on. -/
  | resume (call : Nat)
  /-- A task that waits for several others counts one more that is done. -/
  | tally (task : Nat)
  /-- A task that waits for something else than a request goes on. -/
  | wake (task : Nat)

/-- What a task waits for in its current step. -/
inductive Activity where
  | idle
  | sending
  | loading
  | pausing
  | joining (task : Nat)
  | gathering (tasks : List Nat) (uncounted : Nat)
  | containing (task : Nat)

/-- Who is told that a task is done, and whether it counts before it goes on. -/
structure Follower where
  task : Nat
  isCounting : Bool

/-- A task: the steps to come, the outcomes so far, its scopes and what it waits for. -/
structure Task where
  steps : List Step
  outcomes : List StepOutcome
  scopes : Scopes
  activity : Activity
  followers : List Follower
  isDone : Bool

/-- What is seen after a step of the first task. -/
structure Report where
  outcome : StepOutcome
  cell : TokenCell
  status : IdentityStatus
  isLoading : Bool
  observations : List Observation

structure World where
  client : Client
  endpoint : String
  traffic : Traffic
  loader : IdentityLoader
  server : Server
  engines : Assoc PermissionEngine
  tasks : List Task
  names : Assoc Nat
  /-- The task that each call belongs to. -/
  owners : List Nat
  ready : List Job
  /-- Alarms with their moments, in the order in which they were set. -/
  alarms : List (Nat × Job)
  reports : List Report
  /-- How many observations the reports hold. -/
  reported : Nat

/-- Whether a job is the end of the time of a call's request. -/
def Job.isExpiryOf (call : Nat) : Job → Bool
  | .expire other => other == call
  | _ => false

namespace World

def newTask (steps : List Step) (scopes : Scopes) : Task :=
  ⟨steps, [], scopes, .idle, [], false⟩

def change (world : World) (index : Nat) (how : Task → Task) : World :=
  { world with tasks := world.tasks.modify index how }

def scopesOf (world : World) (index : Nat) : Scopes :=
  ((world.tasks[index]?).map (·.scopes)).getD Scopes.none

/-- Put a job at the end of the queue. -/
def enqueue (world : World) (job : Job) : World :=
  { world with ready := world.ready ++ [job] }

def alarm (world : World) (moment : Nat) (job : Job) : World :=
  { world with alarms := world.alarms ++ [(moment, job)] }

/-- Take back the alarm of a call. -/
def silence (world : World) (call : Nat) : World :=
  { world with alarms := world.alarms.filter fun alarm => !alarm.2.isExpiryOf call }

/-- A task begins beside the others; it inherits the binding of the task that starts it. -/
def spawn (world : World) (parent : Nat) (steps : List Step) (followers : List Follower) :
    World × Nat :=
  let index := world.tasks.length
  let task := { newTask steps (world.scopesOf parent).inherited with followers }
  ({ world with tasks := world.tasks ++ [task] }.enqueue (.run index), index)

/-- Begin a task for each of several steps. -/
def spawnAll (parent : Nat) : World → List Step → World × List Nat
  | world, [] => (world, [])
  | world, step :: rest =>
      let (world, first) := world.spawn parent [step] [⟨parent, true⟩]
      let (world, others) := spawnAll parent world rest
      (world, first :: others)

/-- Bring the request that a call asks for on its way. -/
def dispatch (world : World) (index : Nat) : World :=
  if world.client.settings.timeoutMs ≤ 0 then world.enqueue (.expire index)
  else
    (world.enqueue (.launch index)).alarm (world.traffic.now + world.client.window)
      (.expire index)

def beginCall (world : World) (task : Nat) (call : Call) : World :=
  let index := world.traffic.calls.length
  dispatch { world with
    traffic := world.traffic.begin world.client call
    owners := world.owners ++ [task] } index

/-- The name that is generated for a call with a number: the number in hexadecimal digits. -/
def generatedName (number : Nat) : String :=
  String.ofList (Text.hexDigits 32 number)

def freshId (world : World) : String :=
  generatedName world.traffic.calls.length

def engine? (world : World) (name : String) : Except StepError PermissionEngine :=
  match world.engines.get? name with
  | some engine => .ok engine
  | none => .error (.unknownName name)

/-- The engine that a source stands for, or that of the scopes. -/
def engineFor (world : World) (task : Nat) (source : Option EngineSource) :
    Except StepError PermissionEngine :=
  match source with
  | some (.kept name) => world.engine? name
  | some (.given engine) => .ok engine
  | none => ((world.scopesOf task).engine? world.loader).mapError .scope

/-- The provider that a source stands for. -/
def providerFor (world : World) : ProviderSource → Option Provider
  | .given engine => some (.engine engine)
  | .named name =>
      if name == "loader" then some (.loader ()) else (world.engines.get? name).map .engine

def remember (world : World) (token : Json) (provenance : Provenance) : World × StepOutcome :=
  match world.traffic.cell.remember token provenance with
  | .error _ => (world, .failed .blankToken)
  | .ok (cell, kept) =>
      ({ world with
          traffic := { world.traffic with cell }.observe
            [.logged (Event.tokenStored provenance).alone] },
        .token (some kept))

/-- Take something out of the token cell. -/
def invalidate (world : World) (expected : Option Json) : World × StepOutcome :=
  let (cell, dropped) := world.traffic.cell.invalidate expected
  let seen : List Observation :=
    if dropped.isSome then [.logged Event.tokenInvalidated.alone] else []
  ({ world with traffic := { world.traffic with cell }.observe seen }, .token dropped)

/-- Begin a call for a task, as a step of its own or as part of a load. -/
def send (world : World) (task : Nat) (activity : Activity)
    (descriptor : Except DescriptorError Descriptor) : World × Option StepOutcome :=
  match descriptor with
  | .error cause => (world, some (.failed (.descriptor cause)))
  | .ok descriptor =>
      match Call.open? descriptor world.freshId with
      | .error cause => (world, some (.failed (.failure cause)))
      | .ok call => ((world.change task ({ · with activity })).beginCall task call, none)

/-- Perform a step of a task; no outcome yet when the task has to wait. -/
def perform (world : World) (task : Nat) : Step → World × Option StepOutcome
  | .send method url body headers =>
      world.send task .sending (Descriptor.make? method url body headers)
  | .load =>
      match { world with loader := world.loader.start }.send task .loading
          (Descriptor.make? (.text "GET") (.text world.endpoint) none none) with
      | (world, none) => (world, none)
      | (world, outcome) => ({ world with loader := world.loader.abandon }, outcome)
  | .remember token provenance =>
      match Provenance.ofName? provenance with
      | none => (world, some (.failed (.unknownProvenance provenance)))
      | some provenance => (world.remember token provenance).map id some
  | .invalidate expected => (world.invalidate expected).map id some
  | .keepEngine name =>
      ({ world with engines := world.engines.insert name world.loader.engine }, some .nothing)
  | .query queries source =>
      let engine := match source with
        | none => Except.ok world.loader.engine
        | some name => world.engine? name
      (world, some (match engine with
        | .error cause => .failed cause
        | .ok engine => .answers (queries.map engine.answer)))
  | .enter provider =>
      match (world.scopesOf task).enter? (world.providerFor provider) with
      | .error cause => (world, some (.failed (.scope cause)))
      | .ok scopes => (world.change task ({ · with scopes }), some (.depth scopes.depth))
  | .leave isRaising =>
      let scopes := (world.scopesOf task).leave
      (world.change task ({ · with scopes }),
        some (if isRaising then .propagated else .depth scopes.depth))
  | .current queries =>
      (world, some (match world.engineFor task none with
        | .error cause => .failed cause
        | .ok engine => .answers (queries.map engine.answer)))
  | .render criteria content fallback source =>
      (world, some (match world.engineFor task source with
        | .error cause => .rendering (.error cause) (.refused cause)
        | .ok engine => .rendering (.ok (criteria.evaluate engine))
            (.ofEffect (criteria.render engine content fallback))))
  | .guarded criteria content fallback arguments isAsync =>
      let panel : Panel (List Json) := ⟨criteria, Panel.functionOf content, fallback⟩
      (world, some (.panel isAsync (match world.engineFor task none with
        | .error cause => .refused cause
        | .ok engine => .ofEffect
            (if isAsync then panel.callLater engine arguments
              else panel.call engine arguments))))
  | .sleep 0 => ((world.change task ({ · with activity := .pausing })).enqueue (.wake task), none)
  | .sleep microseconds =>
      ((world.change task ({ · with activity := .pausing })).alarm
        (world.traffic.now + microseconds) (.wake task), none)
  | .start name step =>
      let (world, child) := world.spawn task [step] []
      let world := { world with names := world.names.insert name child }
      ((world.change task ({ · with activity := .pausing })).alarm (world.traffic.now + 500)
        (.wake task), none)
  | .join name =>
      match world.names.get? name with
      | none => (world, some (.failed (.unknownName name)))
      | some child =>
          match world.tasks[child]? with
          | none => (world, some (.failed (.unknownName name)))
          | some other =>
              if other.isDone then (world, some (other.outcomes.headD .nothing))
              else
                ((world.change child fun other =>
                    { other with followers := other.followers ++ [⟨task, false⟩] }).change task
                  ({ · with activity := .joining child }), none)
  | .parallel [] => (world, some (.all []))
  | .parallel steps =>
      let (world, children) := spawnAll task world steps
      (world.change task ({ · with activity := .gathering children children.length }), none)
  | .isolated steps =>
      let (world, child) := world.spawn task steps [⟨task, false⟩]
      (world.change task ({ · with activity := .containing child }), none)

/-- Note the outcome of a step.  What has been observed since the last report goes into the next
one. -/
def settle (world : World) (task : Nat) (outcome : StepOutcome) : World :=
  let world := world.change task fun task =>
    { task with outcomes := task.outcomes ++ [outcome], activity := .idle }
  if task = 0 then
    let report : Report := {
      outcome
      cell := world.traffic.cell
      status := world.loader.state.status
      isLoading := world.loader.isLoading
      observations := world.traffic.observations.drop world.reported }
    { world with
      reports := world.reports ++ [report]
      reported := world.traffic.observations.length }
  else world

/-- A task is done; its followers are told. -/
def complete (world : World) (task : Nat) : World :=
  let followers := ((world.tasks[task]?).map (·.followers)).getD []
  followers.foldl (fun world follower =>
      world.enqueue (if follower.isCounting then .tally follower.task else .wake follower.task))
    (world.change task ({ · with isDone := true }))

/-- Perform steps until one has to wait. -/
def advance (task : Nat) : World → List Step → World
  | world, [] => world.complete task
  | world, step :: rest =>
      match world.perform task step with
      | (world, some outcome) => advance task (world.settle task outcome) rest
      | (world, none) => world.change task ({ · with steps := rest })

/-- The current step of a task has an outcome; the task goes on with the next one. -/
def goOn (world : World) (task : Nat) (outcome : StepOutcome) : World :=
  let steps := ((world.tasks[task]?).map (·.steps)).getD []
  advance task (world.settle task outcome) steps

def activityOf (world : World) (task : Nat) : Activity :=
  match world.tasks[task]? with
  | some other => other.activity
  | none => .idle

def firstOutcome (world : World) (task : Nat) : StepOutcome :=
  match world.tasks[task]? with
  | some other => other.outcomes.headD .nothing
  | none => .nothing

/-- The outcome of the step that a task has been waiting in. -/
def awaited (world : World) (task : Nat) : StepOutcome :=
  match world.activityOf task with
  | .joining other => world.firstOutcome other
  | .gathering others _ => .all (others.map world.firstOutcome)
  | .containing other => .all (((world.tasks[other]?).map (·.outcomes)).getD [])
  | _ => .nothing

/-- A task counts one more of the tasks that it waits for; it is woken when none is left. -/
def tally (world : World) (task : Nat) : World :=
  match world.activityOf task with
  | .gathering others uncounted =>
      let world := world.change task
        ({ · with activity := .gathering others (uncounted - 1) })
      if uncounted = 1 then world.enqueue (.wake task) else world
  | _ => world

/-- A call has come to its end; the task that it belongs to goes on. -/
def finishCall (world : World) (index : Nat) (outcome : Outcome) : World :=
  let task := world.owners.getD index 0
  match world.activityOf task, outcome with
  | .loading, .ok result =>
      let (loader, event) := world.loader.finish result world.client.settings.locale
      let world := { world with
        loader, traffic := world.traffic.observe [.logged event.alone] }
      world.goOn task (.state loader.state)
  | .loading, .error cause =>
      { world with loader := world.loader.abandon }.goOn task (.failed (.failure cause))
  | _, .ok result => world.goOn task (.result result)
  | _, .error cause => world.goOn task (.failed (.failure cause))

/-- A step of the traffic, and what follows from it. -/
def move (world : World) (step : Move) (next : World → World) : World :=
  match world.traffic.step world.client step with
  | some traffic => next { world with traffic }
  | none => world

/-- Whether a call still waits for the request with a number. -/
def awaits (world : World) (index number : Nat) : Bool :=
  match world.traffic.stage? index with
  | some (.inFlight _ _ current _) => current == number
  | _ => false

/-- The server deals with a request that has reached the transport. -/
def serve (world : World) (index : Nat) : World :=
  match world.traffic.stage? index with
  | some (.inFlight _ _ number request) =>
      let (server, reply) := world.server.reply request
      let world := { world with server }
      match reply with
      | .silence => world
      | .answer response 0 => world.move (.answer index response) (·.enqueue (.notice index))
      | .answer response delay =>
          world.alarm (world.traffic.now + delay) (.answer index number response)
      | .failure cause 0 => world.move (.fail index cause) (·.enqueue (.notice index))
      | .failure cause delay =>
          world.alarm (world.traffic.now + delay) (.fail index number cause)
  | _ => world.enqueue (.notice index)

def carryOut (world : World) : Job → World
  | .run task => advance task world (((world.tasks[task]?).map (·.steps)).getD [])
  | .launch call => world.move (.launch call) (·.serve call)
  | .answer call number response =>
      if world.awaits call number then
        world.move (.answer call response) (·.enqueue (.notice call))
      else world
  | .fail call number cause =>
      if world.awaits call number then
        world.move (.fail call cause) (·.enqueue (.notice call))
      else world
  | .expire call => world.move (.expire call) (·.enqueue (.notice call))
  | .notice call => world.enqueue (.resume call)
  | .resume call =>
      (world.silence call).move (.resume call) fun world =>
        match world.traffic.stage? call with
        | some (.done outcome) => world.finishCall call outcome
        | _ => world.dispatch call
  | .tally task => world.tally task
  | .wake task => world.goOn task (world.awaited task)

/-- The moment of the alarm that rings next. -/
def nextMoment? (world : World) : Option Nat :=
  (world.alarms.map (·.1)).min?

/-- Do the next job, or let time pass until the next alarm: the jobs of all alarms of that moment
become ready, in the order in which the alarms were set. -/
def turn? (world : World) : Option World :=
  match world.ready with
  | job :: rest => some ({ world with ready := rest }.carryOut job)
  | [] => do
      let moment ← world.nextMoment?
      let traffic ← world.traffic.step world.client (.pass (moment - world.traffic.now))
      let (due, alarms) := world.alarms.partition (·.1 == moment)
      return { world with alarms, traffic, ready := due.map (·.2) }

def isOver (world : World) : Bool :=
  ((world.tasks.head?).map (·.isDone)).getD true

/-- Take turns until the first task is done; the first argument bounds their number. -/
def run : Nat → World → World
  | 0, world => world
  | bound + 1, world =>
      if world.isOver then world
      else
        match world.turn? with
        | some world => run bound world
        | none => world

/-- The number of turns that suffices for a scenario: no step takes more than four requests, and
no request more than a few turns. -/
def turnsFor (steps : List Step) : Nat :=
  64 * (Step.sizeOfAll steps + 1)

end World

end AdminGate.Scenario

import AdminGate.Proofs.HeaderFields
import AdminGate.Proofs.OverlappingLoads
import AdminGate.Scenario.Session

/-!
# The loads of a session

The loader of a session goes through loads that overlap as the tasks of the
session run beside each other.  A task that waits for a load has a load running,
`Follows.enough`; therefore every load that a session ends is one that has begun
and not ended.  `Quiet` collects the changes of a world that neither begin nor
end a load.
-/

namespace AdminGate.Scenario

def Task.isLoading (task : Task) : Bool :=
  match task.activity with
  | .loading => true
  | _ => false

namespace World

/-- The number of tasks that wait for a load. -/
def waiting (world : World) : Nat :=
  world.tasks.countP Task.isLoading

/-- A change of a world that neither begins nor ends a load. -/
structure Quiet (world next : World) : Prop where
  client : next.client = world.client
  loader : next.loader = world.loader
  waiting : next.waiting ≤ world.waiting

/-- The loader of a world has gone through these loads. -/
structure Follows (locale : String) (moves : List LoadMove) (loading : Loading)
    (world : World) : Prop where
  ran : Loading.run? locale moves = some loading
  loader : loading.loader = world.loader
  locale : world.client.settings.locale = locale
  enough : world.waiting ≤ world.loader.running

/-- The loader of a world has gone through some loads. -/
def Loads (locale : String) (world : World) : Prop :=
  ∃ moves loading, Follows locale moves loading world

variable {world next last : World} {locale : String} {task : Nat}

theorem Quiet.refl (world : World) : Quiet world world :=
  ⟨rfl, rfl, Nat.le_refl _⟩

theorem Quiet.trans (first : Quiet world next) (second : Quiet next last) :
    Quiet world last :=
  ⟨second.client.trans first.client, second.loader.trans first.loader,
    Nat.le_trans second.waiting first.waiting⟩

theorem Quiet.from (quiet : Quiet next last) (client : next.client = world.client)
    (loader : next.loader = world.loader) (tasks : next.tasks = world.tasks) :
    Quiet world last :=
  .trans ⟨client, loader,
    Nat.le_of_eq (congrArg (List.countP Task.isLoading) tasks)⟩ quiet

/-! ## Beginning and ending loads -/

theorem Loads.quiet (loads : Loads locale world) (quiet : Quiet world next) :
    Loads locale next := by
  obtain ⟨moves, loading, follows⟩ := loads
  refine ⟨moves, loading, follows.ran, ?_, ?_, ?_⟩
  · rw [follows.loader, quiet.loader]
  · rw [quiet.client, follows.locale]
  · rw [quiet.loader]
    exact Nat.le_trans quiet.waiting follows.enough

theorem Loads.start (loads : Loads locale world)
    (client : next.client = world.client)
    (loader : next.loader = world.loader.start)
    (waiting : next.waiting ≤ world.waiting + 1) : Loads locale next := by
  obtain ⟨moves, loading, follows⟩ := loads
  have enough := follows.enough
  refine ⟨moves ++ [.start], ⟨loading.loader.start, loading.loads ++ [.running]⟩,
    ?_, ?_, ?_, ?_⟩
  · rw [Loading.run?_concat, follows.ran]
    rfl
  · rw [loader, follows.loader]
  · rw [client, follows.locale]
  · rw [loader]
    simp only [IdentityLoader.start]
    omega

theorem Follows.running {moves : List LoadMove} {loading : Loading}
    (follows : Follows locale moves loading world) (waits : 0 < world.waiting) :
    ∃ load : Nat, loading.loads[load]? = some LoadStage.running := by
  have counts : 0 < loading.loads.countP LoadStage.isRunning := by
    rw [← (Loading.run_kept follows.ran).running, follows.loader]
    exact Nat.lt_of_lt_of_le waits follows.enough
  obtain ⟨stage, member, running⟩ := List.countP_pos_iff.mp counts
  cases stage with
  | running => exact List.mem_iff_getElem?.mp member
  | returned | raised => cases running

/-- The load of a task that waits for it ends, with a result or without. -/
theorem Loads.close (loads : Loads locale world)
    (client : next.client = world.client)
    (loader : (∃ result,
        next.loader = (world.loader.finish result locale).1) ∨
      next.loader = world.loader.abandon)
    (waiting : next.waiting + 1 ≤ world.waiting) : Loads locale next := by
  obtain ⟨moves, loading, follows⟩ := loads
  have enough := follows.enough
  -- which of the running loads ends makes no difference to the loader
  obtain ⟨load, running⟩ := follows.running (by omega)
  have ended : next.loader.running = world.loader.running - 1 := by
    rcases loader with ⟨result, loader⟩ | loader <;> rw [loader] <;> rfl
  have taken : ∃ move after, Loading.step locale loading move = some after ∧
      after.loader = next.loader := by
    rcases loader with ⟨result, loader⟩ | loader
    · refine ⟨.finish load result, _,
        Loading.close?_eq_some_iff.mpr ⟨running, rfl⟩, ?_⟩
      rw [loader, follows.loader]
    · refine ⟨.abandon load, _,
        Loading.close?_eq_some_iff.mpr ⟨running, rfl⟩, ?_⟩
      rw [loader, follows.loader]
  obtain ⟨move, after, taken, same⟩ := taken
  refine ⟨moves ++ [move], after, ?_, same, ?_, ?_⟩
  · rw [Loading.run?_concat, follows.ran]
    exact taken
  · rw [client, follows.locale]
  · omega

/-! ## Changes of the world -/

theorem countP_modify {α : Type} (counts : α → Bool) (how : α → α)
    {items : List α} {index : Nat} {item : α}
    (found : items[index]? = some item) :
    (items.modify index how).countP counts + (if counts item then 1 else 0) =
      items.countP counts + if counts (how item) then 1 else 0 := by
  induction items generalizing index with
  | nil => cases found
  | cons first rest ih =>
      cases index with
      | zero =>
          cases found
          rw [List.modify_zero_cons, List.countP_cons, List.countP_cons]
          omega
      | succ index =>
          have later := ih found
          rw [List.modify_succ_cons, List.countP_cons, List.countP_cons]
          omega

theorem waiting_change {index : Nat} (how : Task → Task) {task : Task}
    (found : world.tasks[index]? = some task) :
    (world.change index how).waiting + (if task.isLoading then 1 else 0) =
      world.waiting + if (how task).isLoading then 1 else 0 :=
  countP_modify Task.isLoading how found

theorem change_absent {index : Nat} (how : Task → Task)
    (absent : world.tasks[index]? = none) : world.change index how = world := by
  have tasks : world.tasks.modify index how = world.tasks :=
    List.modify_eq_self (List.getElem?_eq_none_iff.mp absent)
  rw [change, tasks]

theorem quiet_change (world : World) (index : Nat) {how : Task → Task}
    (keeps : ∀ task, (how task).isLoading = true → task.isLoading = true) :
    Quiet world (world.change index how) := by
  refine ⟨rfl, rfl, ?_⟩
  cases found : world.tasks[index]? with
  | none =>
      exact Nat.le_of_eq (congrArg World.waiting (change_absent how found))
  | some task =>
      have counted := waiting_change how found
      by_cases waits : (how task).isLoading = true
      · rw [if_pos waits, if_pos (keeps task waits)] at counted
        omega
      · rw [if_neg waits] at counted
        omega

theorem waiting_change_le (world : World) (index : Nat) (how : Task → Task) :
    (world.change index how).waiting ≤ world.waiting + 1 := by
  cases found : world.tasks[index]? with
  | none => rw [change_absent how found]; omega
  | some task =>
      have counted := waiting_change how found
      split at counted <;> split at counted <;> omega

theorem quiet_spawn (world : World) (parent : Nat) (steps : List Step)
    (followers : List Follower) :
    Quiet world (world.spawn parent steps followers).1 := by
  refine ⟨rfl, rfl, ?_⟩
  simp [spawn, waiting, enqueue, newTask, Task.isLoading]

theorem quiet_spawnAll (parent : Nat) (world : World) (steps : List Step) :
    Quiet world (spawnAll parent world steps).1 := by
  induction steps generalizing world with
  | nil => exact .refl world
  | cons step rest ih => exact (quiet_spawn world parent _ _).trans (ih _)

theorem quiet_dispatch (world : World) (index : Nat) :
    Quiet world (world.dispatch index) := by
  unfold dispatch
  split <;> exact ⟨rfl, rfl, Nat.le_refl _⟩

theorem quiet_beginCall (world : World) (task : Nat) (call : Call) :
    Quiet world (world.beginCall task call) :=
  (quiet_dispatch _ _).from rfl rfl rfl

theorem quiet_settle (world : World) (task : Nat) (outcome : StepOutcome) :
    Quiet world (world.settle task outcome) := by
  have changed : Quiet world (world.change task fun task =>
      { task with outcomes := task.outcomes ++ [outcome], activity := .idle }) :=
    quiet_change world task (by intro task waits; cases waits)
  unfold settle
  split
  · exact changed.trans ⟨rfl, rfl, Nat.le_refl _⟩
  · exact changed

theorem quiet_complete (world : World) (task : Nat) :
    Quiet world (world.complete task) := by
  have told : ∀ (followers : List Follower) (world : World),
      Quiet world (followers.foldl (fun world follower => world.enqueue
        (if follower.isCounting then .tally follower.task
          else .wake follower.task)) world) := by
    intro followers
    induction followers with
    | nil => exact .refl
    | cons first rest ih =>
        intro world
        exact (ih _).from rfl rfl rfl
  have changed : Quiet world (world.change task ({ · with isDone := true })) :=
    quiet_change world task (fun _ waits => waits)
  exact changed.trans (told _ _)

theorem quiet_tally (world : World) (task : Nat) :
    Quiet world (world.tally task) := by
  unfold tally
  split
  · rename_i others uncounted gathers
    have changed : Quiet world (world.change task
        ({ · with activity := .gathering others (uncounted - 1) })) :=
      quiet_change world task (by intro task waits; cases waits)
    split
    · exact changed.trans ⟨rfl, rfl, Nat.le_refl _⟩
    · exact changed
  · exact .refl world

theorem quiet_move (world : World) (step : Move) {next : World → World}
    (quiet : ∀ world, Quiet world (next world)) :
    Quiet world (world.move step next) := by
  unfold move
  split
  · exact (quiet _).from rfl rfl rfl
  · exact .refl world

theorem quiet_enqueue (world : World) (job : Job) :
    Quiet world (world.enqueue job) :=
  ⟨rfl, rfl, Nat.le_refl _⟩

theorem quiet_serve (world : World) (index : Nat) :
    Quiet world (world.serve index) := by
  unfold serve
  split
  · rename_i what since number request stage
    cases replied : world.server.reply request with
    | mk server reply =>
        have served : Quiet world { world with server } :=
          ⟨rfl, rfl, Nat.le_refl _⟩
        simp only
        split
        · exact served
        · exact served.trans (quiet_move _ _ (quiet_enqueue · _))
        · exact served.trans ⟨rfl, rfl, Nat.le_refl _⟩
        · exact served.trans (quiet_move _ _ (quiet_enqueue · _))
        · exact served.trans ⟨rfl, rfl, Nat.le_refl _⟩
  · exact quiet_enqueue world _

/-! ## The steps of a session -/

/-- Beginning a call of a load makes one more task wait, unless the call cannot
begin. -/
theorem send_loading (world : World) (task : Nat)
    (descriptor : Except DescriptorError Descriptor) :
    (∃ outcome, world.send task .loading descriptor = (world, some outcome)) ∨
      ∃ call, world.send task .loading descriptor =
        ((world.change task ({ · with activity := .loading })).beginCall task
          call, none) := by
  unfold send
  split
  · exact .inl ⟨_, rfl⟩
  · split
    · exact .inl ⟨_, rfl⟩
    · exact .inr ⟨_, rfl⟩

theorem quiet_send (world : World) (task : Nat)
    (descriptor : Except DescriptorError Descriptor) :
    Quiet world (world.send task .sending descriptor).1 := by
  have changed : Quiet world
      (world.change task ({ · with activity := .sending })) :=
    quiet_change world task (by intro task waits; cases waits)
  unfold send
  split
  · exact .refl world
  · split
    · exact .refl world
    · exact changed.trans (quiet_beginCall _ _ _)

theorem Loads.load (loads : Loads locale world) :
    Loads locale (world.perform task .load).1 := by
  unfold perform
  rcases send_loading { world with loader := world.loader.start } task
      (Descriptor.make? (.text "GET") (.text world.endpoint) none none) with
    ⟨outcome, sent⟩ | ⟨call, sent⟩
  · rw [sent]
    exact loads.quiet ⟨rfl, rfl, Nat.le_refl _⟩
  · rw [sent]
    have begun := quiet_beginCall
      (({ world with loader := world.loader.start } : World).change task
        ({ · with activity := .loading })) task call
    exact loads.start begun.client begun.loader
      (Nat.le_trans begun.waiting (waiting_change_le _ task _))

theorem quiet_wait (world : World) (index : Nat) (activity : Activity)
    (other : ∀ task : Task,
      ({ task with activity } : Task).isLoading = false) :
    Quiet world (world.change index ({ · with activity })) :=
  quiet_change world index (by
    intro task waits
    rw [other task] at waits
    cases waits)

theorem quiet_perform (world : World) (task : Nat) {step : Step}
    (other : step ≠ .load) : Quiet world (world.perform task step).1 := by
  cases step with
  | load => exact absurd rfl other
  | send => exact quiet_send world task _
  | remember token provenance =>
      simp only [perform]
      split
      · exact .refl world
      · unfold World.remember
        simp only [Prod.map]
        split <;> exact ⟨rfl, rfl, Nat.le_refl _⟩
  | invalidate | keepEngine | query | current | render | guarded =>
      exact ⟨rfl, rfl, Nat.le_refl _⟩
  | enter provider =>
      simp only [perform]
      split
      · exact .refl world
      · exact quiet_change world task (fun _ waits => waits)
  | leave isRaising => exact quiet_change world task (fun _ waits => waits)
  | sleep microseconds =>
      have paused := quiet_wait world task .pausing fun _ => rfl
      cases microseconds with
      | zero => exact paused.trans (quiet_enqueue _ _)
      | succ => exact paused.trans ⟨rfl, rfl, Nat.le_refl _⟩
  | start name step =>
      have spawned := quiet_spawn world task [step] []
      simp only [perform]
      cases begun : world.spawn task [step] [] with
      | mk next child =>
          rw [begun] at spawned
          have paused := quiet_wait
            { next with names := next.names.insert name child } task .pausing
            fun _ => rfl
          exact (spawned.trans (paused.from rfl rfl rfl)).trans
            ⟨rfl, rfl, Nat.le_refl _⟩
  | join name =>
      simp only [perform]
      split
      · exact .refl world
      · rename_i child named
        split
        · exact .refl world
        · split
          · exact .refl world
          · have told : Quiet world (world.change child fun other =>
                { other with
                  followers := other.followers ++ [⟨task, false⟩] }) :=
              quiet_change world child fun _ waits => waits
            exact told.trans (quiet_wait _ task _ fun _ => rfl)
  | parallel steps =>
      cases steps with
      | nil => exact .refl world
      | cons first rest =>
          exact (quiet_spawnAll task world (first :: rest)).trans
            (quiet_wait _ task _ fun _ => rfl)
  | isolated steps =>
      exact (quiet_spawn world task steps _).trans
        (quiet_wait _ task _ fun _ => rfl)

theorem Loads.perform (loads : Loads locale world) (task : Nat) (step : Step) :
    Loads locale (world.perform task step).1 := by
  by_cases isLoad : step = .load
  · subst isLoad
    exact loads.load
  · exact loads.quiet (quiet_perform world task isLoad)

theorem Loads.advance (loads : Loads locale world) (task : Nat)
    (steps : List Step) : Loads locale (advance task world steps) := by
  induction steps generalizing world with
  | nil => exact loads.quiet (quiet_complete world task)
  | cons step rest ih =>
      have performed := loads.perform task step
      simp only [World.advance]
      cases done : world.perform task step with
      | mk next outcome =>
          rw [done] at performed
          cases outcome with
          | some outcome =>
              exact ih (performed.quiet (quiet_settle next task outcome))
          | none => exact performed.quiet (quiet_change next task fun _ => id)

theorem Loads.goOn (loads : Loads locale world) (task : Nat)
    (outcome : StepOutcome) : Loads locale (world.goOn task outcome) :=
  (loads.quiet (quiet_settle world task outcome)).advance task _

theorem waiting_settle (outcome : StepOutcome)
    (waits : world.activityOf task = .loading) :
    (world.settle task outcome).waiting + 1 ≤ world.waiting := by
  have settled : (world.settle task outcome).waiting =
      (world.change task fun task => { task with
        outcomes := task.outcomes ++ [outcome], activity := .idle }).waiting := by
    unfold settle
    split <;> rfl
  unfold activityOf at waits
  cases found : world.tasks[task]? with
  | none =>
      rw [found] at waits
      cases waits
  | some other =>
      rw [found] at waits
      have counts : other.isLoading = true := by
        have loading : other.activity = .loading := waits
        rw [Task.isLoading, loading]
      have counted := waiting_change (fun task => { task with
        outcomes := task.outcomes ++ [outcome], activity := .idle }) found
      rw [settled]
      rw [if_pos counts] at counted
      exact Nat.le_of_eq counted

theorem Loads.closeAndGoOn (loads : Loads locale world)
    (waits : world.activityOf task = .loading)
    (client : next.client = world.client) (tasks : next.tasks = world.tasks)
    (loader : (∃ result,
        next.loader = (world.loader.finish result locale).1) ∨
      next.loader = world.loader.abandon)
    (outcome : StepOutcome) : Loads locale (next.goOn task outcome) := by
  have settled := quiet_settle next task outcome
  have same : next.activityOf task = world.activityOf task := by
    rw [activityOf, tasks, activityOf]
  have fewer := waiting_settle outcome (same.trans waits)
  -- the task no longer waits once it has its outcome, so its load may end there
  have closed : Loads locale (next.settle task outcome) := by
    apply loads.close (settled.client.trans client)
    · rwa [settled.loader]
    · exact Nat.le_trans fewer
        (Nat.le_of_eq (congrArg (List.countP Task.isLoading) tasks))
  exact closed.advance task _

theorem Loads.finishCall (loads : Loads locale world) (index : Nat)
    (outcome : Outcome) : Loads locale (world.finishCall index outcome) := by
  have locale : world.client.settings.locale = locale := by
    obtain ⟨_, _, follows⟩ := loads
    exact follows.locale
  unfold World.finishCall
  simp only
  split
  · rename_i result waits
    subst locale
    cases finished :
        world.loader.finish result world.client.settings.locale with
    | mk loader event =>
        refine loads.closeAndGoOn waits ?_ ?_ (.inl ⟨result, ?_⟩) _
        · rfl
        · rfl
        · rw [finished]
  · rename_i cause waits
    refine loads.closeAndGoOn waits ?_ ?_ (.inr ?_) _ <;> rfl
  · exact loads.goOn _ _
  · exact loads.goOn _ _

theorem Loads.move (loads : Loads locale world) (step : Move)
    {next : World → World}
    (keeps : ∀ {world}, Loads locale world → Loads locale (next world)) :
    Loads locale (world.move step next) := by
  unfold World.move
  split
  · exact keeps (loads.quiet ⟨rfl, rfl, Nat.le_refl _⟩)
  · exact loads

theorem Loads.carryOut (loads : Loads locale world) (job : Job) :
    Loads locale (world.carryOut job) := by
  cases job with
  | run task => exact loads.advance task _
  | launch call => exact loads.quiet (quiet_move world _ (quiet_serve · call))
  | answer call number response =>
      simp only [World.carryOut]
      split
      · exact loads.quiet (quiet_move world _ (quiet_enqueue · _))
      · exact loads
  | fail call number cause =>
      simp only [World.carryOut]
      split
      · exact loads.quiet (quiet_move world _ (quiet_enqueue · _))
      · exact loads
  | expire call =>
      exact loads.quiet (quiet_move world _ (quiet_enqueue · _))
  | notice call => exact loads.quiet (quiet_enqueue world _)
  | resume call =>
      have silenced : Loads locale (world.silence call) :=
        loads.quiet ⟨rfl, rfl, Nat.le_refl _⟩
      simp only [World.carryOut]
      refine silenced.move _ ?_
      intro moved loads
      split
      · exact loads.finishCall call _
      · exact loads.quiet (quiet_dispatch _ call)
  | tally task => exact loads.quiet (quiet_tally world task)
  | wake task => exact loads.goOn task _

theorem Loads.turn (loads : Loads locale world)
    (turned : world.turn? = some next) : Loads locale next := by
  unfold World.turn? at turned
  split at turned
  · rename_i job rest queued
    cases turned
    have taken : Quiet world { world with ready := rest } :=
      ⟨rfl, rfl, Nat.le_refl _⟩
    exact (loads.quiet taken).carryOut job
  · obtain ⟨moment, _, turned⟩ := Option.bind_eq_some_iff.mp turned
    obtain ⟨traffic, _, turned⟩ := Option.bind_eq_some_iff.mp turned
    cases turned
    exact loads.quiet ⟨rfl, rfl, Nat.le_refl _⟩

theorem Loads.run (loads : Loads locale world) (bound : Nat) :
    Loads locale (world.run bound) := by
  induction bound generalizing world with
  | zero => exact loads
  | succ bound ih =>
      unfold World.run
      split
      · exact loads
      · cases turned : world.turn? with
        | none => exact loads
        | some next => exact ih (loads.turn turned)

end World

theorem make?_settings {settings : Settings} {year : Nat} {second : Int}
    {client : Client} (made : Client.make? settings year second = .ok client) :
    client.settings = settings := by
  unfold Client.make? at made
  obtain ⟨url, _, made⟩ := Http.bind_eq_ok_iff.mp made
  obtain ⟨base, _, made⟩ := Http.bind_eq_ok_iff.mp made
  cases made
  rfl

theorem Session.loads_world {session : Session} {world : World}
    (begins : session.world? = .ok world) :
    world.Loads session.settings.locale := by
  unfold Session.world? at begins
  obtain ⟨cell, _, begins⟩ := Http.bind_eq_ok_iff.mp begins
  split at begins
  · cases begins
  · obtain ⟨client, made, begins⟩ := Http.bind_eq_ok_iff.mp begins
    cases begins
    have settings := make?_settings (Http.mapError_eq_ok_iff.mp made)
    exact ⟨[], .initial, rfl, rfl, congrArg Settings.locale settings,
      Nat.le_refl 0⟩

/-- However a session goes, its loads overlap like those of any loader, and the
loader is loading while a task waits for a load. -/
theorem Session.run_loads {session : Session} {world : World}
    (begins : session.world? = .ok world) (bound : Nat) :
    (∃ moves loading, Loading.Overlap session.settings.locale moves loading ∧
        loading.loader = (world.run bound).loader) ∧
      (0 < (world.run bound).waiting →
        (world.run bound).loader.isLoading = true) := by
  obtain ⟨moves, loading, follows⟩ := (loads_world begins).run bound
  refine ⟨⟨moves, loading, ?_, follows.loader⟩, ?_⟩
  · exact (Loading.run_kept follows.ran).overlap (Loading.run_wrote follows.ran)
  · intro waits
    exact decide_eq_true (Nat.lt_of_lt_of_le waits follows.enough)

end AdminGate.Scenario

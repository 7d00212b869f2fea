import AdminGate.Proofs.Workload

/-!
# What takes something off the workload

A task that is activated does its steps until it has to wait or is done; a call
goes on from one request to the next with one window less ahead of it.  Either
takes something off the workload and leaves each task activated from one place at
most.  A scenario thus comes to rest, and within the number of turns that a run
allows for.
-/

namespace AdminGate

namespace Scenario

namespace World

variable {world next last : World} {task cost more : Nat}

/-! ## Tasks -/

theorem complete_eq (world : World) (task : Nat) :
    world.complete task =
      { world.change task ({ · with isDone := true }) with
        ready := world.ready ++
          (((world.tasks[task]?).map (·.followers)).getD []).map
            Follower.job } := by
  have told : ∀ (followers : List Follower) (world : World),
      followers.foldl (fun world follower => world.enqueue follower.job) world =
        { world with ready := world.ready ++ followers.map Follower.job } := by
    intro followers
    induction followers with
    | nil => simp
    | cons first rest ih =>
        intro world
        rw [List.foldl_cons, ih]
        simp [enqueue]
  exact told _ _

theorem total_told_le (followers : List Follower) :
    total Job.weight (followers.map Follower.job) ≤ 2 * followers.length := by
  induction followers with
  | nil => exact Nat.le_refl _
  | cons first rest ih =>
      have least : first.job.weight ≤ 2 := by
        unfold Follower.job
        split <;> simp [Job.weight]
      simp only [List.map_cons, total_cons, List.length_cons]
      omega

theorem total_told (task : Nat) (followers : List Follower) :
    total (Job.activates task) (followers.map Follower.job) =
      total (Follower.activates task) followers := by
  induction followers with
  | nil => rfl
  | cons first rest ih =>
      have same : first.job.activates task = first.activates task := by
        unfold Follower.job Follower.activates
        cases first.isCounting <;> simp [Job.activates]
      rw [List.map_cons, total_cons, total_cons, same, ih]

theorem complete_spares {this : Task}
    (found : world.tasks[task]? = some this) (undone : this.isDone = false) :
    Spares world (world.complete task) task 1 ∧
      (world.complete task).workload + total Step.weight this.steps ≤
        world.workload := by
  rw [complete_eq, found]
  refine ⟨⟨id, fun other => ?_⟩, ?_⟩
  · have tasks := total_modify (Task.activates other) found
      ({ · with isDone := true })
    have told := total_told other this.followers
    have gathered : gathers (world.tasks.modify task ({ · with isDone := true }))
        other = gathers world.tasks other := by
      rw [gathers_modify, gathers]
      cases world.tasks[other]? with
      | none => rfl
      | some before => by_cases same : task = other <;> simp [same]
    have room : world.room other ≤
        ((((world.tasks.modify task ({ · with isDone := true }))[other]?).map
          fun task => if task.isDone then 0 else 1).getD 0) +
            if other = task then 1 else 0 := by
      simp only [World.room, List.getElem?_modify]
      by_cases same : task = other
      · subst same
        simp [found, undone]
      · cases world.tasks[other]? <;> simp [same, Ne.symm same]
    simp only [activations, change, total_append, Option.map_some,
      Option.getD_some, told, gathered]
    simp only [World.room] at room ⊢
    simp only [Task.activates, undone, if_true, Bool.false_eq_true, if_false]
      at tasks ⊢
    omega
  · have tasks := total_modify Task.weight found ({ · with isDone := true })
    have told := total_told_le this.followers
    simp only [workload, change, total_append, Option.map_some,
      Option.getD_some]
    simp only [Task.weight, undone, if_true, Bool.false_eq_true, if_false]
      at tasks
    omega

theorem keep_steps {this : Task} (found : world.tasks[task]? = some this)
    (undone : this.isDone = false) (rest : List Step) :
    Spares world (world.change task ({ · with steps := rest })) task 0 ∧
      (world.change task ({ · with steps := rest })).workload +
          total Step.weight this.steps =
        world.workload + total Step.weight rest := by
  refine ⟨⟨id, fun other => ?_⟩, ?_⟩
  · have tasks := total_modify (Task.activates other) found
      ({ · with steps := rest })
    have gathered : gathers (world.tasks.modify task ({ · with steps := rest }))
        other = gathers world.tasks other := by
      rw [gathers_modify, gathers]
      cases world.tasks[other]? with
      | none => rfl
      | some before => by_cases same : task = other <;> simp [same]
    have room : (world.change task ({ · with steps := rest })).room other =
        world.room other := by
      simp only [World.room, change, List.getElem?_modify]
      cases world.tasks[other]? with
      | none => rfl
      | some before => by_cases same : task = other <;> simp [same]
    rw [room]
    simp only [activations, change, gathered]
    simp only [Task.activates] at tasks ⊢
    omega
  · have tasks := total_modify Task.weight found ({ · with steps := rest })
    simp only [Task.weight, undone, Bool.false_eq_true, if_false] at tasks
    simp only [workload, change]
    omega

theorem advance_spares {this : Task} (steps : List Step)
    (found : world.tasks[task]? = some this) (undone : this.isDone = false)
    (owned : world.owners.length = world.traffic.calls.length) :
    Spares world (advance task world steps) task 1 ∧
      (advance task world steps).workload + total Step.weight this.steps ≤
        world.workload + total Step.weight steps := by
  induction steps generalizing world this with
  | nil => exact complete_spares found undone
  | cons step rest ih =>
      have performed := works_perform world task step owned
      simp only [advance, total_cons]
      generalize done : world.perform task step = result at performed
      obtain ⟨next, outcome⟩ := result
      dsimp only at performed
      cases outcome with
      | some outcome =>
          have settled := performed.aside (works_settle next task task outcome)
          obtain ⟨after, foundAfter, steps, doneAfter⟩ :=
            settled.kept task this found
          rw [undone] at doneAfter
          obtain ⟨spares, less⟩ :=
            ih foundAfter doneAfter (settled.owned owned)
          have cost := settled.workload
          rw [steps] at less
          refine ⟨settled.toSpares.trans spares, ?_⟩
          dsimp only
          omega
      | none =>
          obtain ⟨after, foundAfter, steps, doneAfter⟩ :=
            performed.kept task this found
          rw [undone] at doneAfter
          obtain ⟨spares, same⟩ := keep_steps foundAfter doneAfter rest
          have cost := performed.workload
          rw [steps] at same
          refine ⟨performed.toSpares.trans spares, ?_⟩
          dsimp only
          omega

/-- A task that is activated adds nothing to the workload; it is activated from
one more place afterwards, or it is done. -/
structure Advances (world next : World) (task : Nat) : Prop
    extends Spares world next task 1 where
  workload : next.workload ≤ world.workload

theorem Works.advances {this : Task} (works : Works world next task 0 0)
    (found : world.tasks[task]? = some this) (undone : this.isDone = false)
    (owned : world.owners.length = world.traffic.calls.length) :
    Advances world
      (advance task next (((next.tasks[task]?).map (·.steps)).getD [])) task := by
  obtain ⟨after, foundAfter, steps, doneAfter⟩ := works.kept task this found
  rw [undone] at doneAfter
  rw [foundAfter]
  obtain ⟨spares, less⟩ :=
    advance_spares after.steps foundAfter doneAfter (works.owned owned)
  have cost := works.workload
  refine ⟨works.toSpares.trans spares, ?_⟩
  simp only [Option.map_some, Option.getD_some]
  omega

theorem Works.goOn {this : Task} (works : Works world next task 0 0)
    (found : world.tasks[task]? = some this) (undone : this.isDone = false)
    (owned : world.owners.length = world.traffic.calls.length)
    (outcome : StepOutcome) :
    Advances world (next.goOn task outcome) task := by
  have settled := works.aside (works_settle next task task outcome)
  obtain ⟨after, foundAfter, steps, -⟩ := works.kept task this found
  obtain ⟨last, foundLast, stepsLast, -⟩ :=
    (works_settle next task task outcome).kept task after foundAfter
  have same : ((next.tasks[task]?).map (·.steps)).getD [] =
      (((next.settle task outcome).tasks[task]?).map (·.steps)).getD [] := by
    rw [foundAfter, foundLast, Option.map_some, Option.map_some, stepsLast]
  unfold World.goOn
  simp only [same]
  exact settled.advances found undone owned

theorem finishCall_advances {this : Task} (index : Nat) (outcome : Outcome)
    (owner : world.owners.getD index 0 = task)
    (found : world.tasks[task]? = some this) (undone : this.isDone = false)
    (owned : world.owners.length = world.traffic.calls.length) :
    Advances world (world.finishCall index outcome) task := by
  have goes : ∀ {next : World}, Works world next task 0 0 → ∀ outcome,
      Advances world (next.goOn task outcome) task :=
    fun works outcome => works.goOn found undone owned outcome
  unfold finishCall
  simp only [owner]
  split
  · refine goes ?_ _
    exact works_of_eq rfl rfl rfl rfl rfl
  · refine goes ?_ _
    exact works_of_eq rfl rfl rfl rfl rfl
  · exact goes (.refl world) _
  · exact goes (.refl world) _

theorem gathers_activity (world : World) (task : Nat) (activity : Activity)
    {this : Task} (found : world.tasks[task]? = some this) (other : Nat) :
    gathers (world.change task ({ · with activity })).tasks other =
      if other = task then activity.gathers else gathers world.tasks other := by
  simp only [change, gathers_modify]
  by_cases same : other = task
  · simp [same, found]
  · simp [gathers, same, Ne.symm same]

theorem activations_activity (world : World) (task : Nat) (activity : Activity)
    (other : Nat) :
    (world.change task ({ · with activity })).activations other +
        gathers world.tasks other =
      world.activations other +
        gathers (world.change task ({ · with activity })).tasks other := by
  have same : total (Task.activates other)
      (world.tasks.modify task ({ · with activity })) =
        total (Task.activates other) world.tasks := by
    refine total_modify_of_eq _ (fun _ => ?_) _ _
    rfl
  simp only [activations, change, same]
  omega

theorem room_activity (world : World) (task : Nat) (activity : Activity)
    (other : Nat) :
    (world.change task ({ · with activity })).room other = world.room other := by
  simp only [World.room, change, List.getElem?_modify]
  cases world.tasks[other]? with
  | none => rfl
  | some before => by_cases same : task = other <;> simp [same]

theorem gathering_of_activityOf {activity : Activity}
    (waits : world.activityOf task = activity) (busy : activity ≠ .idle) :
    ∃ this, world.tasks[task]? = some this ∧ this.activity = activity := by
  unfold activityOf at waits
  split at waits
  · exact ⟨_, ‹_›, waits⟩
  · exact absurd waits.symm busy

theorem gathers_counted (others : List Nat) (uncounted : Nat) :
    (Activity.gathering others (uncounted - 1)).gathers +
        (if uncounted = 1 then 1 else 0) ≤
      (Activity.gathering others uncounted).gathers := by
  match uncounted with
  | 0 | 1 | more + 2 => simp [Activity.gathers]

theorem works_tally (world : World) (task : Nat) :
    Works world (world.tally task) task 1 0 := by
  unfold tally
  split
  · rename_i others uncounted waits
    obtain ⟨this, found, gathering⟩ := gathering_of_activityOf waits (by simp)
    have waited : gathers world.tasks task =
        (Activity.gathering others uncounted).gathers := by
      simp [gathers, found, gathering]
    have fewer := gathers_counted others uncounted
    generalize Activity.gathering others (uncounted - 1) = activity at fewer ⊢
    have works := works_activity world task activity
    have room := room_activity world task activity
    have counted : ∀ other,
        (world.change task ({ · with activity })).activations other +
            (if other = task then if uncounted = 1 then 1 else 0 else 0) ≤
          world.activations other := by
      intro other
      have before := activations_activity world task activity other
      rw [gathers_activity world task activity found] at before
      by_cases same : other = task
      · subst same
        rw [waited, if_pos rfl] at before
        rw [if_pos rfl]
        omega
      · rw [if_neg same] at before ⊢
        omega
    have spares : Spares world (world.change task ({ · with activity })) task
        0 := by
      refine ⟨works.owned, fun other => ?_⟩
      have counted := counted other
      have room := room other
      omega
    dsimp only
    split
    · rename_i last
      refine ⟨⟨works.owned, fun other => ?_⟩, ?_, works.kept⟩
      · have counted := counted other
        have room := room other
        rw [activations_enqueue, Job.activates]
        rw [if_pos last] at counted
        simp only [eq_comm (a := task)] at counted ⊢
        change _ + world.room other ≤
          _ + (world.change task ({ · with activity })).room other + _
        omega
      · rw [workload_enqueue]
        exact Nat.succ_le_succ works.workload
    · exact ⟨spares, Nat.le_succ_of_le works.workload, works.kept⟩
  · exact (Works.refl world).mono (Nat.zero_le _) (Nat.le_refl _)

/-! ## Turns -/

/-- One call has come from a stage to another, and nothing else has changed that
the workload weighs. -/
structure Moved (world next : World) (index : Nat) (call : Call)
    (old new : Stage) : Prop where
  tasks : next.tasks = world.tasks
  owners : next.owners = world.owners
  ready : next.ready = world.ready
  alarms : next.alarms = world.alarms
  found : world.traffic.calls[index]? = some ⟨call, old⟩
  calls : next.traffic.calls = world.traffic.calls.set index ⟨call, new⟩

variable {index : Nat} {call : Call} {old new : Stage}

theorem Moved.workload (moved : Moved world next index call old new) :
    next.workload + OpenCall.weight ⟨call, old⟩ =
      world.workload + OpenCall.weight ⟨call, new⟩ := by
  have calls := total_set OpenCall.weight moved.found ⟨call, new⟩
  simp only [World.workload, moved.tasks, moved.ready, moved.alarms, moved.calls]
  omega

/-- The task that a call belongs to is activated by it until it is done. -/
theorem Moved.activations (moved : Moved world next index call old new)
    (owned : world.owners.length = world.traffic.calls.length) (task : Nat) :
    next.activations task +
        activatedBy task (world.owners.getD index 0, ⟨call, old⟩) =
      world.activations task +
        activatedBy task (world.owners.getD index 0, ⟨call, new⟩) := by
  have inside := (List.getElem?_eq_some_iff.mp moved.found).1
  have owner : world.owners[index]? = some (world.owners.getD index 0) := by
    rw [List.getD_eq_getElem?_getD, List.getElem?_eq_getElem (owned ▸ inside)]
    rfl
  have paired : (world.owners.zip world.traffic.calls)[index]? =
      some (world.owners.getD index 0, ⟨call, old⟩) := by
    rw [List.getElem?_zip_eq_some]
    exact ⟨owner, moved.found⟩
  have calls := total_set (activatedBy task) paired
    (world.owners.getD index 0, ⟨call, new⟩)
  rw [← zip_set owner] at calls
  simp only [World.activations, moved.tasks, moved.ready, moved.alarms,
    moved.calls, moved.owners]
  omega

theorem Moved.owned (moved : Moved world next index call old new)
    (owned : world.owners.length = world.traffic.calls.length) :
    next.owners.length = next.traffic.calls.length := by
  rw [moved.owners, moved.calls, List.length_set, owned]

theorem Moved.spares (moved : Moved world next index call old new)
    (owned : world.owners.length = world.traffic.calls.length)
    (undone : old.outcome? = none) (undoneStill : new.outcome? = none)
    (task : Nat) : Spares world next task 0 := by
  refine ⟨moved.owned, fun other => ?_⟩
  have activations := moved.activations owned other
  have same : activatedBy other (world.owners.getD index 0, ⟨call, old⟩) =
      activatedBy other (world.owners.getD index 0, ⟨call, new⟩) := by
    simp only [activatedBy, undone, undoneStill]
  have room : next.room other = world.room other := by
    rw [World.room, moved.tasks, World.room]
  omega

theorem Steady.spared (steady : Steady world)
    (spares : Spares world next task 0) : Steady next := by
  refine ⟨spares.owned steady.owned, fun other => ?_⟩
  have spare := spares.spare other
  have single := steady.single other
  have nothing : (if other = task then 0 else 0) = 0 := ite_self 0
  omega

theorem exists_task_of_room (begun : 1 ≤ world.room task) :
    ∃ this, world.tasks[task]? = some this ∧ this.isDone = false := by
  unfold World.room at begun
  cases found : world.tasks[task]? with
  | none => simp [found] at begun
  | some this =>
      refine ⟨this, rfl, ?_⟩
      cases done : this.isDone with
      | false => rfl
      | true => simp [found, done] at begun

/-- When a task is activated, the place that it has been activated from is
gone. -/
theorem Advances.steady (advances : Advances world next task)
    (owned : world.owners.length = world.traffic.calls.length)
    (single : ∀ other, world.activations other +
      (if other = task then 1 else 0) ≤ world.room other) : Steady next := by
  refine ⟨advances.owned owned, fun other => ?_⟩
  have spare := advances.spare other
  have single := single other
  omega

theorem spares_silence (world : World) (index task : Nat) :
    Spares world (world.silence index) task 0 ∧
      (world.silence index).workload ≤ world.workload := by
  refine ⟨⟨id, fun other => ?_⟩, ?_⟩
  · have fewer := total_filter_le (fun alarm => alarm.2.activates other)
      (fun alarm => !alarm.2.isExpiryOf index) world.alarms
    have room : (world.silence index).room other = world.room other := rfl
    rw [room]
    simp only [activations, silence]
    omega
  · have fewer := total_filter_le (fun alarm => 1 + alarm.2.weight)
      (fun alarm => !alarm.2.isExpiryOf index) world.alarms
    simp only [workload, silence]
    omega

theorem spares_call {job : Job} (world : World) (about : job.call? ≠ none) :
    Spares world (world.enqueue job) 0 0 := by
  refine (works_enqueue world 0 0 fun other => ?_).toSpares
  cases job <;> simp [Job.call?, Job.activates] at about ⊢

theorem Moved.noticed (moved : Moved world next index call old new)
    (steady : Steady world) (undone : old.outcome? = none)
    (undoneStill : new.outcome? = none) :
    Steady (next.enqueue (.notice index)) ∧
      (next.enqueue (.notice index)).workload + OpenCall.weight ⟨call, old⟩ =
        world.workload + OpenCall.weight ⟨call, new⟩ + 2 := by
  have spares := moved.spares steady.owned undone undoneStill 0
  have weighs := moved.workload
  refine ⟨(steady.spared spares).spared (spares_call next (by simp [Job.call?])), ?_⟩
  rw [workload_enqueue, Job.weight]
  omega

theorem moved_of_placed {traffic : Traffic} {shown : List Observation}
    (found : world.traffic.calls[index]? = some ⟨call, old⟩)
    (placed : Traffic.Placed world.traffic traffic index call new shown) :
    Moved world { world with traffic } index call old new :=
  ⟨rfl, rfl, rfl, rfl, found, placed.calls⟩

theorem did_task {job : Job} (task : job.call? = none)
    (owned : world.owners.length = world.traffic.calls.length)
    (single : ∀ other, world.activations other + job.activates other ≤
      world.room other) :
    Steady (world.carryOut job) ∧
      (world.carryOut job).workload < world.workload + job.weight := by
  have activated : ∀ index, (∀ other, job.activates other =
      if other = index then 1 else 0) →
        (∃ this, world.tasks[index]? = some this ∧ this.isDone = false) ∧
          ∀ other, world.activations other +
            (if other = index then 1 else 0) ≤ world.room other := by
    intro index activates
    simp only [activates] at single
    refine ⟨exists_task_of_room ?_, single⟩
    have once := single index
    rw [if_pos rfl] at once
    omega
  cases job with
  | run index =>
      obtain ⟨⟨this, found, undone⟩, single⟩ := activated index
        fun other => by simp only [Job.activates, eq_comm]
      have advances := (Works.refl world).advances found undone owned
      exact ⟨advances.steady owned single, Nat.lt_succ_of_le advances.workload⟩
  | wake index =>
      obtain ⟨⟨this, found, undone⟩, single⟩ := activated index
        fun other => by simp only [Job.activates, eq_comm]
      have advances := (Works.refl world).goOn found undone owned
        (world.awaited index)
      exact ⟨advances.steady owned single, Nat.lt_succ_of_le advances.workload⟩
  | tally index =>
      have steady : Steady world := ⟨owned, single⟩
      have counted := works_tally world index
      exact ⟨steady.spared counted.toSpares, Nat.lt_succ_of_le counted.workload⟩
  | launch | answer | fail | expire | notice | resume => cases task

/-- A call goes on, and its next request is brought on its way. -/
theorem Moved.again {call : Call} {what after : Wait} {ending : Ending}
    (moved : Moved (world.silence index) next index call (.ended what ending)
      (.asked after world.traffic.now))
    (steady : Steady world) (fewer : call.windows after < call.windows what) :
    Steady (next.dispatch index) ∧
      (next.dispatch index).workload ≤ world.workload := by
  obtain ⟨silent, less⟩ := spares_silence world index 0
  have dispatched := works_dispatch next 0 index
  have asked := moved.spares steady.owned rfl rfl 0
  have weighs := moved.workload
  have cost := dispatched.workload
  refine ⟨((steady.spared silent).spared asked).spared dispatched.toSpares, ?_⟩
  simp only [OpenCall.weight] at weighs
  omega

theorem Moved.returned {call : Call} {what : Wait} {ending : Ending}
    {outcome : Outcome}
    (moved : Moved (world.silence index) next index call (.ended what ending)
      (.done outcome))
    (steady : Steady world) :
    Steady (next.finishCall index outcome) ∧
      (next.finishCall index outcome).workload ≤ world.workload := by
  obtain ⟨silent, less⟩ := spares_silence world index 0
  have silenced := steady.spared silent
  have single : ∀ other, next.activations other +
      (if other = next.owners.getD index 0 then 1 else 0) ≤
        next.room other := by
    intro other
    have activations := moved.activations silenced.owned other
    have single := silenced.single other
    have room : next.room other = (world.silence index).room other := by
      rw [World.room, moved.tasks, World.room]
    rw [room, moved.owners]
    simp only [activatedBy, Stage.outcome?, and_true, reduceCtorEq, and_false,
      if_false, eq_comm] at activations ⊢
    omega
  obtain ⟨this, found, undone⟩ : ∃ this,
      next.tasks[next.owners.getD index 0]? = some this ∧
        this.isDone = false := by
    refine exists_task_of_room ?_
    have once := single (next.owners.getD index 0)
    rw [if_pos rfl] at once
    omega
  have owned := moved.owned silenced.owned
  have advances := finishCall_advances index outcome rfl found undone owned
  have weighs := moved.workload
  have cost := advances.workload
  refine ⟨advances.steady owned single, ?_⟩
  simp only [OpenCall.weight] at weighs
  omega

theorem Served.steady {since number : Nat} {call : Call} {what : Wait}
    {request : Http.Request} {reply : Reply} {closed : List Observation}
    (served : Served world index number call what reply closed next)
    (found : world.traffic.calls[index]? =
      some ⟨call, .inFlight what since number request⟩)
    (steady : Steady world) :
    Steady next ∧ next.workload ≤ world.workload + 2 := by
  cases served with
  | silent => exact ⟨steady, Nat.le_add_right _ _⟩
  | later due late =>
      rename_i delay result
      have activates : ∀ other, (Job.ofResult index number result).activates
          other = if other = 0 then 0 else 0 := by
        cases result <;> simp [Job.ofResult, Job.activates]
      have light : (Job.ofResult index number result).weight = 1 := by
        cases result <;> rfl
      have alarmed := works_alarm world 0 0 (world.traffic.now + delay) activates
      have cost := alarmed.workload
      rw [light] at cost
      exact ⟨steady.spared alarmed.toSpares, cost⟩
  | atOnce due sent placed =>
      obtain ⟨steady, less⟩ :=
        (moved_of_placed found placed).noticed steady rfl rfl
      refine ⟨steady, ?_⟩
      simp only [OpenCall.weight] at less
      omega

/-- A job takes something off the workload, and leaves each task activated from
one place at most. -/
theorem Did.steady {job : Job} {given : List Reply} {seen : List Observation}
    (owned : world.owners.length = world.traffic.calls.length)
    (single : ∀ other, world.activations other + job.activates other ≤
      world.room other)
    (did : Did world job given seen next) :
    Steady next ∧ next.workload < world.workload + job.weight := by
  have steady : Steady world := ⟨owned, fun other =>
    Nat.le_trans (Nat.le_add_right _ _) (single other)⟩
  cases did with
  | tasks task busy carried =>
      subst carried
      exact did_task task owned single
  | idle =>
      refine ⟨steady, ?_⟩
      have : 0 < job.weight := by cases job <;> simp [Job.weight]
      omega
  | unfit found positive sent placed =>
      obtain ⟨steady, weighs⟩ := (moved_of_placed found placed).noticed steady rfl rfl
      refine ⟨steady, ?_⟩
      simp only [OpenCall.weight, Job.weight] at weighs ⊢
      omega
  | launched found positive sent placed served composed =>
      rename_i index since call what request traffic closed
      have flies : Moved world
          { world with traffic, server := (world.server.reply request).1 } index
          call (.asked what since)
          (.inFlight what since world.traffic.sent request) :=
        ⟨rfl, rfl, rfl, rfl, found, placed.calls⟩
      have launched := steady.spared (flies.spares owned rfl rfl 0)
      have weighs := flies.workload
      simp only [OpenCall.weight] at weighs
      obtain ⟨steady, less⟩ := served.steady (placed.found found) launched
      refine ⟨steady, ?_⟩
      simp only [Job.weight]
      omega
  | closed found closes sent placed =>
      obtain ⟨steady, weighs⟩ := (moved_of_placed found placed).noticed steady rfl rfl
      refine ⟨steady, ?_⟩
      have : 0 < job.weight := by cases job <;> simp [Job.weight]
      simp only [OpenCall.weight] at weighs
      omega
  | windowless found closed sent placed =>
      obtain ⟨steady, weighs⟩ := (moved_of_placed found placed).noticed steady rfl rfl
      refine ⟨steady, ?_⟩
      simp only [OpenCall.weight, Job.weight] at weighs ⊢
      omega
  | noticed =>
      refine ⟨steady.spared (spares_call world (by simp [Job.call?])), ?_⟩
      rw [workload_enqueue]
      simp [Job.weight]
  | again found resumed sent placed =>
      rename_i index call what after ending traffic cell
      have fewer : call.windows after < call.windows what :=
        (Call.GoesOn.windows_lt ⟨_, _, _, resumed⟩).1
      have moved : Moved (world.silence index)
          { world.silence index with traffic } index call (.ended what ending)
          (.asked after world.traffic.now) := moved_of_placed found placed
      obtain ⟨steady, less⟩ := moved.again steady fewer
      exact ⟨steady, Nat.lt_succ_of_le less⟩
  | returned found resumed sent placed busy finished =>
      rename_i index call what ending outcome traffic cell
      have moved : Moved (world.silence index)
          { world.silence index with traffic } index call (.ended what ending)
          (.done outcome) := moved_of_placed found placed
      subst finished
      obtain ⟨steady, less⟩ := moved.returned steady
      exact ⟨steady, Nat.lt_succ_of_le less⟩
  | lost lost =>
      obtain ⟨spares, less⟩ := spares_silence world _ 0
      refine ⟨steady.spared spares, ?_⟩
      simp only [Job.weight]
      omega

theorem Steady.rung {moment : Nat} (steady : Steady world)
    (quiet : world.ready = []) (moments : world.nextMoment? = some moment) :
    Steady (world.rung moment) ∧
      (world.rung moment).workload < world.workload := by
  have split : ∀ weight : Nat × Job → Nat,
      total weight (world.alarms.filter (·.1 == moment)) +
          total weight (world.alarms.filter (!·.1 == moment)) =
        total weight world.alarms := by
    intro weight
    rw [← total_append]
    exact total_perm weight (List.filter_append_perm _ _)
  have rings : 0 < (world.alarms.filter (·.1 == moment)).length := by
    obtain ⟨member, _⟩ := List.min?_eq_some_iff.mp moments
    obtain ⟨alarm, inside, rfl⟩ := List.mem_map.mp member
    exact List.length_pos_of_mem
      (List.mem_filter.mpr ⟨inside, beq_self_eq_true _⟩)
  have jobs : ∀ (weight : Job → Nat) (alarms : List (Nat × Job)),
      total weight (alarms.map (·.2)) =
        total (fun alarm => weight alarm.2) alarms := by
    intro weight alarms
    simp [total, Function.comp_def]
  have lighter : ∀ alarms : List (Nat × Job),
      total (fun alarm => 1 + alarm.2.weight) alarms =
        alarms.length + total (fun alarm => alarm.2.weight) alarms := by
    intro alarms
    induction alarms with
    | nil => rfl
    | cons first rest ih =>
        simp only [total_cons, List.length_cons, ih]
        omega
  refine ⟨⟨steady.owned, fun other => ?_⟩, ?_⟩
  · have single := steady.single other
    have split := split fun alarm => alarm.2.activates other
    have room : (world.rung moment).room other = world.room other := rfl
    rw [room]
    simp only [activations, World.rung, quiet, jobs, total_nil] at single ⊢
    omega
  · have split := split fun alarm => 1 + alarm.2.weight
    have due := lighter (world.alarms.filter (·.1 == moment))
    simp only [workload, World.rung, quiet, jobs, total_nil]
    omega

theorem activations_pop {job : Job} {rest : List Job}
    (queued : world.ready = job :: rest) (other : Nat) :
    ({ world with ready := rest } : World).activations other +
      job.activates other = world.activations other := by
  simp only [activations, queued, total_cons]
  omega

/-- The job that is taken has been the only place that its task is activated
from. -/
theorem Steady.popped {job : Job} {rest : List Job} (steady : Steady world)
    (queued : world.ready = job :: rest) (other : Nat) :
    ({ world with ready := rest } : World).activations other +
      job.activates other ≤ ({ world with ready := rest } : World).room other :=
  Nat.le_trans (Nat.le_of_eq (activations_pop queued other)) (steady.single other)

/-- The workload goes down by a turn, and each task stays activated from one place
at most. -/
theorem Steady.turn {given : List Reply} {seen : List Observation}
    (steady : Steady world) (turned : Turned world given seen next) :
    Steady next ∧ next.workload < world.workload := by
  cases turned with
  | rang quiet moments patient => exact steady.rung quiet moments
  | did queued did =>
      rename_i job rest
      have lighter : ({ world with ready := rest } : World).workload +
          job.weight = world.workload := by
        simp only [workload, queued, total_cons]
        omega
      rw [← lighter]
      exact did.steady steady.owned (steady.popped queued)

theorem Steady.rests {turns : Nat} (steady : Steady world)
    (enough : world.workload ≤ turns) : (world.later turns).turn? = none := by
  induction turns generalizing world with
  | zero =>
      cases turned : world.turn? with
      | none => exact turned
      | some next =>
          obtain ⟨given, seen, turn⟩ := turned_of_turn? turned
          have less := (steady.turn turn).2
          omega
  | succ turns ih =>
      cases turned : world.turn? with
      | none => rwa [later_succ_of_rest turned]
      | some next =>
          obtain ⟨given, seen, turn⟩ := turned_of_turn? turned
          obtain ⟨steadyNext, less⟩ := steady.turn turn
          rw [later_succ_of_turn? turned]
          exact ih steadyNext (by omega)

/-- A run ends when its first task is done or its bound is reached, or when the
world has come to rest. -/
theorem exists_run_eq_later (world : World) (bound : Nat) :
    ∃ turns ≤ bound, world.run bound = world.later turns ∧
      (turns = bound ∨ (world.later turns).isOver = true ∨
        (world.later turns).turn? = none) := by
  induction bound generalizing world with
  | zero => exact ⟨0, Nat.le_refl 0, rfl, .inl rfl⟩
  | succ bound ih =>
      cases finished : world.isOver with
      | true => exact ⟨0, Nat.zero_le _, by simp [run, finished, later], .inr (.inl finished)⟩
      | false =>
          cases turned : world.turn? with
          | none =>
              exact ⟨0, Nat.zero_le _, by simp [run, finished, turned, later],
                .inr (.inr turned)⟩
          | some next =>
              obtain ⟨turns, few, same, ends⟩ := ih next
              refine ⟨turns + 1, Nat.succ_le_succ few, ?_, ?_⟩
              · rw [later_succ_of_turn? turned, ← same]
                simp [run, finished, turned]
              · rw [later_succ_of_turn? turned]
                exact ends.imp_left (congrArg (· + 1))

end World

/-- A session begins with each task activated from one place, and with no more to
do than a run allows for. -/
theorem Session.steady {session : Session} {world : World}
    (begins : session.world? = .ok world) :
    World.Steady world ∧
      world.workload ≤ World.turnsFor session.steps := by
  unfold Session.world? at begins
  obtain ⟨cell, _, begins⟩ := Http.bind_eq_ok_iff.mp begins
  split at begins
  · cases begins
  · obtain ⟨client, made, begins⟩ := Http.bind_eq_ok_iff.mp begins
    cases begins
    refine ⟨⟨rfl, fun task => ?_⟩, ?_⟩
    · cases task with
      | zero => exact Nat.le_refl _
      | succ task =>
          simp [World.activations, World.newTask, Job.activates,
            Task.activates, gathers, Traffic.observe, Traffic.initial]
    · have := total_steps_le session.steps
      simp only [World.workload, World.newTask, Traffic.observe,
        Traffic.initial, total_cons, total_nil, Task.weight, Job.weight,
        World.turnsFor, List.length_nil, Bool.false_eq_true, if_false]
      omega

/-- The number of turns that a run allows for is enough: a session ends because its
first task is done, or because nothing more can happen. -/
theorem Session.outcome_settles {session : Session} {last : World}
    (ends : session.outcome? = .ok last) :
    last.isOver = true ∨ last.turn? = none := by
  unfold Session.outcome? at ends
  cases begins : session.world? with
  | error cause =>
      rw [begins] at ends
      cases ends
  | ok world =>
      rw [begins] at ends
      obtain rfl : world.run (World.turnsFor session.steps) = last :=
        Except.ok.inj ends
      obtain ⟨steady, enough⟩ := Session.steady begins
      obtain ⟨turns, _, same, all | finished | rests⟩ :=
        world.exists_run_eq_later (World.turnsFor session.steps)
      · rw [same, all]
        exact .inr (steady.rests enough)
      · exact .inl (same ▸ finished)
      · exact .inr (same ▸ rests)

end Scenario

end AdminGate

import Mathlib.Algebra.GroupWithZero.Nat
import AdminGate.Proofs.CallWindows
import AdminGate.Proofs.Timelines

/-!
# The workload of a world

The workload weighs what the tasks of a world, its calls, its queue and its alarms
have still to do.  Each task must be activated from one place only: by a job, by a
call that it waits for, by another task that is to tell it, or by the tasks that it
gathers.  `Works` says what a step adds to the workload and to the places that a
task is activated from.
-/

namespace AdminGate

def OpenCall.weight (entry : OpenCall) : Nat :=
  match entry.stage with
  | .asked what _ => 7 * entry.call.windows what + 4
  | .inFlight what _ _ _ => 7 * entry.call.windows what + 2
  | .ended what _ => 7 * entry.call.windows what
  | .done _ => 0

namespace Scenario

/-! ## Sums of weights -/

/-- The sum of the weights of some items. -/
def total {Item : Type} (weight : Item → Nat) (items : List Item) : Nat :=
  (items.map weight).sum

section total

variable {Item : Type} (weight : Item → Nat)

@[simp] theorem total_nil : total weight [] = 0 := rfl

@[simp] theorem total_cons (first : Item) (rest : List Item) :
    total weight (first :: rest) = weight first + total weight rest := by
  simp [total]

@[simp] theorem total_append (first second : List Item) :
    total weight (first ++ second) = total weight first + total weight second := by
  simp [total]

theorem total_set {items : List Item} {index : Nat} {old : Item}
    (found : items[index]? = some old) (new : Item) :
    total weight (items.set index new) + weight old =
      total weight items + weight new := by
  induction items generalizing index with
  | nil => cases found
  | cons first rest ih =>
      cases index with
      | zero =>
          cases found
          simp only [List.set_cons_zero, total_cons]
          omega
      | succ index =>
          have rest := ih found
          simp only [List.set_cons_succ, total_cons]
          omega

theorem total_modify {items : List Item} {index : Nat} {old : Item}
    (found : items[index]? = some old) (how : Item → Item) :
    total weight (items.modify index how) + weight old =
      total weight items + weight (how old) := by
  induction items generalizing index with
  | nil => cases found
  | cons first rest ih =>
      cases index with
      | zero =>
          cases found
          simp only [List.modify_zero_cons, total_cons]
          omega
      | succ index =>
          have rest := ih found
          simp only [List.modify_succ_cons, total_cons]
          omega

theorem total_modify_le {more : Nat} {how : Item → Item}
    (less : ∀ item, weight (how item) ≤ weight item + more) (items : List Item)
    (index : Nat) :
    total weight (items.modify index how) ≤ total weight items + more := by
  induction items generalizing index with
  | nil => simp
  | cons first rest ih =>
      cases index with
      | zero =>
          have := less first
          simp only [List.modify_zero_cons, total_cons]
          omega
      | succ index =>
          have := ih index
          simp only [List.modify_succ_cons, total_cons]
          omega

theorem total_modify_of_eq {how : Item → Item}
    (same : ∀ item, weight (how item) = weight item) (items : List Item)
    (index : Nat) :
    total weight (items.modify index how) = total weight items := by
  cases found : items[index]? with
  | none => rw [List.modify_eq_self (List.getElem?_eq_none_iff.mp found)]
  | some old =>
      have changed := total_modify weight found how
      rw [same] at changed
      omega

theorem total_filter_le (keeps : Item → Bool) (items : List Item) :
    total weight (items.filter keeps) ≤ total weight items := by
  induction items with
  | nil => exact Nat.le_refl _
  | cons first rest ih =>
      rw [List.filter_cons]
      split <;> simp only [total_cons] <;> omega

theorem total_perm {items others : List Item} (perm : items.Perm others) :
    total weight items = total weight others :=
  (perm.map weight).sum_nat

theorem total_le_of_forall {other : Item → Nat} {items : List Item}
    (less : ∀ item, weight item ≤ other item) :
    total weight items ≤ total other items := by
  induction items with
  | nil => exact Nat.le_refl _
  | cons first rest ih =>
      have := less first
      simp only [total_cons]
      omega

theorem zip_set {Owner : Type} {owners : List Owner} {items : List Item}
    {index : Nat} {owner : Owner} (found : owners[index]? = some owner)
    (new : Item) :
    owners.zip (items.set index new) =
      (owners.zip items).set index (owner, new) := by
  induction owners generalizing items index with
  | nil => cases found
  | cons first rest ih =>
      cases items with
      | nil => simp
      | cons item others =>
          cases index with
          | zero =>
              cases found
              rfl
          | succ index => simp [ih found]

end total

/-! ## What is still to do -/

def Job.weight : Job → Nat
  | .notice _ | .tally _ => 2
  | _ => 1

def Step.weight (step : Step) : Nat :=
  64 * step.size - 8

theorem Step.size_pos (step : Step) : 0 < step.size := by
  cases step <;> simp [Step.size]

theorem total_weight_le (steps : List Step) :
    total (fun step => 5 + step.weight) steps ≤
      64 * Step.sizeOfAll steps := by
  induction steps with
  | nil => exact Nat.le_refl _
  | cons first rest ih =>
      have := Step.size_pos first
      simp only [total_cons, Step.sizeOfAll, Step.weight] at ih ⊢
      omega

theorem total_steps_le (steps : List Step) :
    total Step.weight steps ≤ 64 * Step.sizeOfAll steps :=
  Nat.le_trans (total_le_of_forall _ fun _ => Nat.le_add_left _ _)
    (total_weight_le steps)

def Task.weight (task : Task) : Nat :=
  if task.isDone then 0
  else 1 + total Step.weight task.steps + 3 * task.followers.length

def Job.activates (task : Nat) : Job → Nat
  | .run other | .wake other => if other = task then 1 else 0
  | _ => 0

/-- Whether a task is told by another one and goes on at once. -/
def Follower.activates (task : Nat) (follower : Follower) : Nat :=
  if follower.isCounting = false ∧ follower.task = task then 1 else 0

/-- How a follower is told that a task is done. -/
def Follower.job (follower : Follower) : Job :=
  if follower.isCounting then .tally follower.task else .wake follower.task

/-- How often another task is going to activate a task. -/
def Task.activates (task : Nat) (other : Task) : Nat :=
  if other.isDone then 0 else total (Follower.activates task) other.followers

/-- Whether a call activates the task that owns it. -/
def activatedBy (task : Nat) (owned : Nat × OpenCall) : Nat :=
  if owned.1 = task ∧ owned.2.stage.outcome? = none then 1 else 0

/-- Whether a task that does this waits for others to be counted. -/
def Activity.gathers : Activity → Nat
  | .gathering _ (_ + 1) => 1
  | _ => 0

theorem Activity.gathers_le_one (activity : Activity) :
    activity.gathers ≤ 1 := by
  unfold gathers
  split <;> omega

/-- Whether a task waits for others to be counted. -/
def gathers (tasks : List Task) (task : Nat) : Nat :=
  ((tasks[task]?).map fun task => task.activity.gathers).getD 0

namespace World

/-- The weight of all that a world has still to do. -/
def workload (world : World) : Nat :=
  total Task.weight world.tasks + total OpenCall.weight world.traffic.calls +
    total Job.weight world.ready + total (fun alarm => 1 + alarm.2.weight) world.alarms

/-- From how many places a task is activated. -/
def activations (world : World) (task : Nat) : Nat :=
  total (Job.activates task) world.ready +
    total (fun alarm => alarm.2.activates task) world.alarms +
    total (activatedBy task) (world.owners.zip world.traffic.calls) +
    total (Task.activates task) world.tasks + gathers world.tasks task

/-- Whether a task has begun and is not done. -/
def room (world : World) (task : Nat) : Nat :=
  ((world.tasks[task]?).map fun task => if task.isDone then 0 else 1).getD 0

/-- Each task is activated from one place at most, and none that is done. -/
structure Steady (world : World) : Prop where
  owned : world.owners.length = world.traffic.calls.length
  single : ∀ task, world.activations task ≤ world.room task

/-- On the way from one world to another a task is activated from no more places
than this; no other task is from more places than before. -/
structure Spares (world next : World) (task more : Nat) : Prop where
  owned : world.owners.length = world.traffic.calls.length →
    next.owners.length = next.traffic.calls.length
  spare : ∀ other, next.activations other + world.room other ≤
    world.activations other + next.room other + if other = task then more else 0

/-- What a step of a task does: it adds no more than this to the workload, and the
tasks stay as far as they are. -/
structure Works (world next : World) (task cost more : Nat) : Prop
    extends Spares world next task more where
  workload : next.workload ≤ world.workload + cost
  kept : ∀ (index : Nat) (before : Task), world.tasks[index]? = some before →
    ∃ after, next.tasks[index]? = some after ∧ after.steps = before.steps ∧
      after.isDone = before.isDone

variable {world next last : World} {task cost more : Nat}

theorem Spares.trans {others : Nat} (first : Spares world next task more)
    (second : Spares next last task others) :
    Spares world last task (more + others) := by
  refine ⟨fun owned => second.owned (first.owned owned), fun other => ?_⟩
  have first := first.spare other
  have second := second.spare other
  split at first <;> simp_all <;> omega

theorem Works.trans {costs others : Nat} (first : Works world next task cost more)
    (second : Works next last task costs others) :
    Works world last task (cost + costs) (more + others) := by
  refine ⟨first.toSpares.trans second.toSpares, ?_, ?_⟩
  · have first := first.workload
    have second := second.workload
    omega
  · intro index before found
    obtain ⟨between, found, steps, done⟩ := first.kept index before found
    obtain ⟨after, found, stepsAfter, doneAfter⟩ :=
      second.kept index between found
    exact ⟨after, found, stepsAfter.trans steps, doneAfter.trans done⟩

theorem Works.mono {costs others : Nat} (works : Works world next task cost more)
    (dearer : cost ≤ costs) (oftener : more ≤ others) :
    Works world next task costs others := by
  refine ⟨⟨works.owned, fun other => ?_⟩, ?_, works.kept⟩
  · have spare := works.spare other
    by_cases same : other = task <;> simp only [same, if_true, if_false] at *
    all_goals omega
  · have workload := works.workload
    omega

theorem works_of_eq (tasks : next.tasks = world.tasks)
    (calls : next.traffic.calls = world.traffic.calls)
    (owners : next.owners = world.owners) (ready : next.ready = world.ready)
    (alarms : next.alarms = world.alarms) : Works world next task 0 0 := by
  refine ⟨⟨fun owned => ?_, fun other => ?_⟩, ?_, fun index before found => ?_⟩
  · rw [owners, calls, owned]
  · simp [activations, room, tasks, calls, owners, ready, alarms]
  · simp [workload, tasks, calls, ready, alarms]
  · exact ⟨before, tasks ▸ found, rfl, rfl⟩

theorem Works.refl (world : World) : Works world world task 0 0 :=
  works_of_eq rfl rfl rfl rfl rfl

theorem Works.aside (works : Works world next task cost more)
    (aside : Works next last task 0 0) : Works world last task cost more :=
  works.trans aside

theorem workload_enqueue (world : World) (job : Job) :
    (world.enqueue job).workload = world.workload + job.weight := by
  simp only [workload, enqueue, total_append, total_cons, total_nil]
  omega

theorem activations_enqueue (world : World) (job : Job) (task : Nat) :
    (world.enqueue job).activations task =
      world.activations task + job.activates task := by
  simp only [activations, enqueue, total_append, total_cons, total_nil]
  omega

theorem works_enqueue (world : World) (task more : Nat) {job : Job}
    (activates : ∀ other, job.activates other = if other = task then more else 0) :
    Works world (world.enqueue job) task job.weight more := by
  refine ⟨⟨id, fun other => ?_⟩, Nat.le_of_eq (workload_enqueue world job),
    fun _ before found => ⟨before, found, rfl, rfl⟩⟩
  rw [activations_enqueue, activates]
  exact Nat.le_of_eq (by rw [Nat.add_right_comm]; rfl)

theorem works_alarm (world : World) (task more moment : Nat) {job : Job}
    (activates : ∀ other, job.activates other = if other = task then more else 0) :
    Works world (world.alarm moment job) task (1 + job.weight) more := by
  refine ⟨⟨id, fun other => ?_⟩, ?_, fun _ before found =>
    ⟨before, found, rfl, rfl⟩⟩
  · have activates := activates other
    simp only [activations, room, alarm, total_append, total_cons, total_nil]
    omega
  · simp only [workload, alarm, total_append, total_cons, total_nil]
    omega

theorem gathers_modify (tasks : List Task) (index other : Nat)
    (how : Task → Task) :
    gathers (tasks.modify index how) other =
      ((tasks[other]?).map fun task =>
        (if index = other then how task else task).activity.gathers).getD 0 := by
  simp only [gathers, List.getElem?_modify]
  cases tasks[other]? <;> rfl

/-- A change of a task after which it has as far to go as before. -/
theorem works_change (world : World) (told waited : Nat) {index : Nat}
    {how : Task → Task}
    (steps : ∀ task, (how task).steps = task.steps)
    (done : ∀ task, (how task).isDone = task.isDone)
    (weighs : ∀ task, (how task).weight ≤ task.weight + cost)
    (tells : ∀ before other, (how before).activates other ≤
      before.activates other + if other = task then told else 0)
    (waits : ∀ before, (how before).activity.gathers ≤
      before.activity.gathers + if index = task then waited else 0) :
    Works world (world.change index how) task cost (told + waited) := by
  refine ⟨⟨id, fun other => ?_⟩, ?_, fun other before found => ?_⟩
  · have follows := total_modify_le (Task.activates other)
      (tells · other) world.tasks index
    have gathered : gathers (world.tasks.modify index how) other ≤
        gathers world.tasks other + if other = task then waited else 0 := by
      rw [gathers_modify, gathers]
      cases world.tasks[other]? with
      | none => exact Nat.zero_le _
      | some before =>
          have waits := waits before
          by_cases same : index = other
          · subst same
            simpa using waits
          · simp [same]
    have room : (world.change index how).room other = world.room other := by
      simp only [room, change, List.getElem?_modify]
      cases world.tasks[other]? with
      | none => rfl
      | some before => by_cases same : index = other <;> simp [same, done]
    simp only [activations, change] at follows gathered ⊢
    rw [← room]
    split at follows <;> simp_all [change] <;> omega
  · have weighs := total_modify_le Task.weight weighs world.tasks index
    simp only [workload, change]
    omega
  · by_cases same : index = other
    · exact ⟨how before, by simp [change, found, same], steps before, done before⟩
    · exact ⟨before, by simp [change, found, same], rfl, rfl⟩

theorem works_activity (world : World) (task : Nat) (activity : Activity) :
    Works world (world.change task ({ · with activity })) task 0
      activity.gathers := by
  have follows : ∀ (before : Task) (other : Nat),
      Task.activates other { before with activity } ≤
        before.activates other + if other = task then 0 else 0 :=
    fun _ _ => by simp [Task.activates]
  have works : Works world (world.change task ({ · with activity })) task 0
      (0 + activity.gathers) :=
    works_change world 0 _ (fun _ => rfl) (fun _ => rfl)
      (fun _ => Nat.le_refl _) follows fun _ => by simp
  rwa [Nat.zero_add] at works

theorem works_settle (world : World) (task index : Nat)
    (outcome : StepOutcome) :
    Works world (world.settle index outcome) task 0 0 := by
  have noted : Works world (world.change index fun task =>
      { task with outcomes := task.outcomes ++ [outcome], activity := .idle })
      task 0 0 :=
    works_change world 0 0 (fun _ => rfl) (fun _ => rfl) (fun _ => Nat.le_refl _)
      (fun _ _ => by simp [Task.activates]) fun _ => Nat.zero_le _
  unfold settle
  dsimp only
  split
  · exact noted.aside (works_of_eq rfl rfl rfl rfl rfl)
  · exact noted

theorem gathers_concat (tasks : List Task) {task : Task}
    (idle : task.activity.gathers = 0) (other : Nat) :
    gathers (tasks ++ [task]) other = gathers tasks other := by
  unfold gathers
  by_cases old : other < tasks.length
  · rw [List.getElem?_append_left old]
  · rw [List.getElem?_append_right (Nat.le_of_not_lt old),
      List.getElem?_eq_none (Nat.le_of_not_lt old)]
    cases other - tasks.length <;> simp [idle]

/-- A task that is spawned is activated by the queue, and may activate another
one when it is done. -/
theorem works_spawn (world : World) (task more parent : Nat)
    (steps : List Step) {followers : List Follower}
    (tells : ∀ other, total (Follower.activates other) followers =
      if other = task then more else 0) :
    Works world (world.spawn parent steps followers).1 task
      (2 + total Step.weight steps + 3 * followers.length) more := by
  let begun : Task :=
    { newTask steps (world.scopesOf parent).inherited with followers }
  have weighs : begun.weight =
      1 + total Step.weight steps + 3 * followers.length := rfl
  have room : ∀ other, ((world.spawn parent steps followers).1).room other =
      world.room other + if world.tasks.length = other then 1 else 0 := by
    intro other
    simp only [World.room, spawn, enqueue]
    by_cases old : other < world.tasks.length
    · rw [List.getElem?_append_left old, if_neg (Nat.ne_of_gt old),
        Nat.add_zero]
    · rw [List.getElem?_append_right (Nat.le_of_not_lt old),
        List.getElem?_eq_none (Nat.le_of_not_lt old)]
      by_cases new : world.tasks.length = other
      · rw [← new, Nat.sub_self, if_pos rfl]
        rfl
      · have beyond : 1 ≤ other - world.tasks.length := by omega
        rw [List.getElem?_eq_none beyond, if_neg new]
        rfl
  refine ⟨⟨id, fun other => ?_⟩, ?_, fun other before found => ?_⟩
  · have tells : begun.activates other = if other = task then more else 0 :=
      tells other
    have gathered : gathers (world.tasks ++ [begun]) other =
        gathers world.tasks other := gathers_concat world.tasks rfl other
    rw [room]
    simp only [activations, spawn, enqueue, total_append, total_cons, total_nil]
    rw [gathered, tells]
    simp only [Job.activates]
    omega
  · simp only [workload, spawn, enqueue, total_append, total_cons, total_nil]
    rw [weighs]
    simp only [Job.weight]
    omega
  · have old := (List.getElem?_eq_some_iff.mp found).1
    exact ⟨before, (List.getElem?_append_left old).trans found, rfl, rfl⟩

theorem works_spawnAll (world : World) (parent : Nat) (steps : List Step) :
    Works world (spawnAll parent world steps).1 parent
      (total (fun step => 5 + step.weight) steps) 0 := by
  induction steps generalizing world with
  | nil => exact .refl world
  | cons step rest ih =>
      have tells : ∀ other, total (Follower.activates other) [⟨parent, true⟩] =
          if other = parent then 0 else 0 := by simp [Follower.activates]
      have spawned := works_spawn world parent 0 parent [step] tells
      refine (spawned.trans (ih _)).mono ?_ (Nat.le_refl _)
      simp only [total_cons, total_nil, List.length_singleton]
      omega

theorem works_dispatch (world : World) (task index : Nat) :
    Works world (world.dispatch index) task 3 0 := by
  unfold dispatch
  split
  · refine (works_enqueue world task 0 ?_).mono ?_ (Nat.le_refl _)
    · simp [Job.activates]
    · simp [Job.weight]
  · exact (works_enqueue world task 0 (by simp [Job.activates])).trans
      (works_alarm _ task 0 _ (by simp [Job.activates]))

theorem works_beginCall (world : World) (task : Nat) (call : Call)
    (owned : world.owners.length = world.traffic.calls.length) :
    Works world (world.beginCall task call) task 40 1 := by
  obtain ⟨what, calls, attempted⟩ :=
    begin_calls world.client world.traffic call
  have few : call.windows what ≤ 4 := by
    have few := call.windows_le attempted.fits
    split at few <;> omega
  have begun : Works world { world with
      traffic := world.traffic.begin world.client call
      owners := world.owners ++ [task] } task 37 1 := by
    refine ⟨⟨fun _ => ?_, fun other => ?_⟩, ?_, fun _ before found =>
      ⟨before, found, rfl, rfl⟩⟩
    · simp [calls, owned]
    · simp only [activations, World.room, calls]
      rw [List.zip_append owned, total_append]
      by_cases same : other = task
      · simp [activatedBy, Stage.outcome?, same]
        omega
      · simp [activatedBy, same, Ne.symm same]
    · simp only [workload, calls, total_append, total_cons, total_nil]
      simp only [OpenCall.weight]
      omega
  exact begun.trans (works_dispatch _ task _)

/-- How often a step that has such an outcome activates its task. -/
def suspending : Option StepOutcome → Nat
  | none => 1
  | some _ => 0

theorem works_send (world : World) (task : Nat) (activity : Activity)
    (idle : activity.gathers = 0)
    (descriptor : Except DescriptorError Descriptor)
    (owned : world.owners.length = world.traffic.calls.length) :
    Works world (world.send task activity descriptor).1 task 40
      (suspending (world.send task activity descriptor).2) := by
  have stays : Works world world task 40 0 :=
    (Works.refl world).mono (Nat.zero_le _) (Nat.le_refl _)
  unfold send
  split
  · exact stays
  · split
    · exact stays
    · have paused := works_activity world task activity
      rw [idle] at paused
      refine (paused.trans (works_beginCall _ task _ owned)).mono ?_ ?_ <;> simp [suspending]

theorem works_load (world : World) (task : Nat)
    (owned : world.owners.length = world.traffic.calls.length) :
    Works world (world.perform task .load).1 task 40
      (suspending (world.perform task .load).2) := by
  have started : Works world { world with loader := world.loader.start } task
      0 0 := works_of_eq rfl rfl rfl rfl rfl
  have sent := works_send { world with loader := world.loader.start } task
    .loading rfl (Descriptor.make? (.text "GET") (.text world.endpoint) none none)
    owned
  have both := started.trans sent
  simp only [Nat.zero_add] at both
  simp only [perform]
  split
  · rename_i next begins
    rwa [begins] at both
  · rename_i next outcome begins
    rw [begins] at both
    exact both.aside (works_of_eq rfl rfl rfl rfl rfl)

theorem works_remember (world : World) (task : Nat) (token : Json)
    (provenance : Provenance) :
    Works world (world.remember token provenance).1 task 0 0 := by
  unfold remember
  split <;> exact works_of_eq rfl rfl rfl rfl rfl

theorem works_follower (world : World) (task child : Nat) :
    Works world (world.change child fun other =>
      { other with followers := other.followers ++ [⟨task, false⟩] }) task 3 1 := by
  refine works_change world 1 0 (fun _ => rfl) (fun _ => rfl) ?_ ?_ fun _ => ?_
  · intro before
    simp only [Task.weight]
    split <;> simp
    omega
  · intro before other
    simp only [Task.activates]
    split
    · exact Nat.zero_le _
    · simp [Follower.activates, eq_comm]
  · exact Nat.le_add_right _ _

theorem works_scopes (world : World) (task : Nat) (scopes : Scopes) :
    Works world (world.change task ({ · with scopes })) task 0 0 :=
  works_change world 0 0 (fun _ => rfl) (fun _ => rfl) (fun _ => Nat.le_refl _)
    (fun _ _ => by simp [Task.activates]) fun _ => by simp

/-- A step adds no more to the workload than it weighs, and it activates its task
once if the task has to wait for it. -/
theorem works_perform (world : World) (task : Nat) (step : Step)
    (owned : world.owners.length = world.traffic.calls.length) :
    Works world (world.perform task step).1 task step.weight
      (suspending (world.perform task step).2) := by
  have free : ∀ {next : World}, Works world next task 0 0 →
      Works world next task step.weight 0 :=
    fun works => works.mono (Nat.zero_le _) (Nat.le_refl _)
  have pauses : ∀ {next : World} {cost more : Nat} (activity : Activity),
      activity.gathers = 0 → Works world next task cost more →
        Works world (next.change task ({ · with activity })) task cost more := by
    intro next cost more activity idle works
    have paused := works_activity next task activity
    rw [idle] at paused
    exact works.aside paused
  have wakes : ∀ other, (Job.wake task).activates other =
      if other = task then 1 else 0 := by
    intro other
    simp only [Job.activates, eq_comm]
  have size := Step.size_pos step
  cases step with
  | send =>
      exact (works_send world task _ rfl _ owned).mono
        (by simp [Step.weight, Step.size]) (Nat.le_refl _)
  | load =>
      exact (works_load world task owned).mono
        (by simp [Step.weight, Step.size]) (Nat.le_refl _)
  | remember token provenance =>
      simp only [perform]
      split
      · exact free (.refl world)
      · exact free (works_remember world task token _)
  | invalidate expected => exact free (works_of_eq rfl rfl rfl rfl rfl)
  | keepEngine => exact free (works_of_eq rfl rfl rfl rfl rfl)
  | query | current | render | guarded => exact free (.refl world)
  | enter provider =>
      simp only [perform]
      split
      · exact free (.refl world)
      · exact free (works_scopes world task _)
  | leave isRaising => exact free (works_scopes world task _)
  | sleep microseconds =>
      have paused := pauses .pausing rfl (.refl world)
      cases microseconds with
      | zero =>
          exact (paused.trans (works_enqueue _ task 1 wakes)).mono
            (by simp [Step.weight, Step.size, Job.weight]) (Nat.le_refl _)
      | succ =>
          exact (paused.trans (works_alarm _ task 1 _ wakes)).mono
            (by simp [Step.weight, Step.size, Job.weight]) (Nat.le_refl _)
  | start name step =>
      have tells : ∀ other, total (Follower.activates other) [] =
          if other = task then 0 else 0 := by simp
      have spawned := works_spawn world task 0 task [step] tells
      have named : Works (world.spawn task [step] []).1
          { (world.spawn task [step] []).1 with
            names := (world.spawn task [step] []).1.names.insert name
              (world.spawn task [step] []).2 } task 0 0 :=
        works_of_eq rfl rfl rfl rfl rfl
      have paused := pauses .pausing rfl (spawned.aside named)
      refine (paused.trans (works_alarm _ task 1 _ wakes)).mono ?_ (Nat.le_refl _)
      have := Step.size_pos step
      simp [Step.weight, Step.size, Job.weight]
      omega
  | join name =>
      simp only [perform]
      split
      · exact free (.refl world)
      · split
        · exact free (.refl world)
        · split
          · exact free (.refl world)
          · exact ((works_follower world task _).trans
              (works_activity _ task _)).mono (by simp [Step.weight, Step.size]) (Nat.le_refl _)
  | parallel steps =>
      cases steps with
      | nil => exact free (.refl world)
      | cons first rest =>
          refine ((works_spawnAll world task (first :: rest)).trans
            (works_activity _ task _)).mono ?_ ?_
          · have := total_weight_le (first :: rest)
            have weight : (Step.parallel (first :: rest)).weight =
                64 * (Step.sizeOfAll (first :: rest) + 1) - 8 := by
              simp only [Step.weight, Step.size]
            omega
          · rw [Nat.zero_add]
            exact Activity.gathers_le_one _
  | isolated steps =>
      have tells : ∀ other, total (Follower.activates other) [⟨task, false⟩] =
          if other = task then 1 else 0 := by
        simp [Follower.activates, eq_comm]
      refine (pauses _ rfl (works_spawn world task 1 task steps tells)).mono
        ?_ (Nat.le_refl _)
      have := total_steps_le steps
      have weight : (Step.isolated steps).weight =
          64 * (Step.sizeOfAll steps + 1) - 8 := by
        simp only [Step.weight, Step.size]
      simp only [List.length_singleton]
      omega

end World

end Scenario

end AdminGate

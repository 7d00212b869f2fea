import AdminGate.Proofs.NestedScopes
import AdminGate.Scenario.World

/-!
# The scopes of a task

A task opens and leaves scopes by its own steps.  Whatever else happens, in other
tasks or to the loader, leaves it `Untouched`.
-/

namespace AdminGate.Scenario

/-- The steps that a task has still to do, its outcomes so far, and its scopes. -/
structure Standing where
  steps : List Step
  outcomes : List StepOutcome
  scopes : Scopes

def Task.standing (task : Task) : Standing :=
  ⟨task.steps, task.outcomes, task.scopes⟩

/-- A step that a task performs, and the world in which it does. -/
structure Act where
  world : World
  step : Step

/-- A step that opens or leaves a scope. -/
def Step.isScoping : Step → Bool
  | .enter _ | .leave _ => true
  | _ => false

/-- What a task makes of its scopes by a step. -/
def Act.after (act : Act) (scopes : Scopes) : Scopes :=
  match act.step with
  | .enter source =>
      match act.world.providerFor source with
      | some provider => scopes.inside provider
      | none => scopes
  | .leave _ => scopes.leave
  | _ => scopes

namespace World

/-- How the task at an index stands. -/
def standing? (world : World) (index : Nat) : Option Standing :=
  (world.tasks[index]?).map Task.standing

/-- The steps that the task at an index has still to do. -/
def stepsOf (world : World) (index : Nat) : List Step :=
  ((world.tasks[index]?).map (·.steps)).getD []

/-- What a task does one after the other until it has to wait. -/
def acts (task : Nat) : World → List Step → List Act
  | _, [] => []
  | world, step :: rest =>
      ⟨world, step⟩ :: match world.perform task step with
        | (next, some outcome) => acts task (next.settle task outcome) rest
        | (_, none) => []

/-- A task stands as before, whatever has happened beside it. -/
def Untouched (task : Nat) (world next : World) : Prop :=
  ∀ standing, world.standing? task = some standing →
    next.standing? task = some standing

variable {world next last : World} {task : Nat} {standing : Standing}

theorem Untouched.refl (task : Nat) (world : World) : Untouched task world world :=
  fun _ found => found

theorem Untouched.trans (first : Untouched task world next)
    (second : Untouched task next last) : Untouched task world last :=
  fun standing found => second standing (first standing found)

theorem untouched_of_tasks (tasks : next.tasks = world.tasks) :
    Untouched task world next := by
  intro standing found
  rwa [standing?, tasks]

theorem Untouched.from (untouched : Untouched task next last)
    (tasks : next.tasks = world.tasks) : Untouched task world last :=
  .trans (untouched_of_tasks tasks) untouched

theorem scopesOf_eq (found : world.standing? task = some standing) :
    world.scopesOf task = standing.scopes := by
  obtain ⟨entry, listed, rfl⟩ := Option.map_eq_some_iff.mp found
  rw [scopesOf, listed]
  rfl

/-! ## Changes of the world -/

theorem standing?_change (world : World) (task : Nat) (how : Task → Task) :
    (world.change task how).standing? task =
      (world.tasks[task]?).map fun entry => (how entry).standing := by
  simp [standing?, change, Function.comp_def]

theorem untouched_change_other {other : Nat} (ne : other ≠ task) (how : Task → Task) :
    Untouched task world (world.change other how) := by
  intro standing found
  have same : (world.tasks.modify other how)[task]? = world.tasks[task]? :=
    List.getElem?_modify_ne how world.tasks ne
  rwa [standing?, change, same]

theorem untouched_change (index : Nat) {how : Task → Task}
    (same : ∀ entry, (how entry).standing = entry.standing) :
    Untouched task world (world.change index how) := by
  by_cases self : index = task
  · subst self
    intro standing found
    rw [standing?_change]
    simp only [same]
    exact found
  · exact untouched_change_other self how

theorem untouched_spawn (parent : Nat) (steps : List Step) (followers : List Follower) :
    Untouched task world (world.spawn parent steps followers).1 := by
  intro standing found
  obtain ⟨entry, listed, same⟩ := Option.map_eq_some_iff.mp found
  have within : task < world.tasks.length :=
    (List.getElem?_eq_some_iff.mp listed).1
  refine Option.map_eq_some_iff.mpr ⟨entry, ?_, same⟩
  exact (List.getElem?_append_left within).trans listed

theorem untouched_spawnAll (parent : Nat) (steps : List Step) :
    Untouched task world (spawnAll parent world steps).1 := by
  induction steps generalizing world with
  | nil => exact .refl task world
  | cons step rest ih => exact (untouched_spawn parent _ _).trans ih

theorem untouched_dispatch (index : Nat) : Untouched task world (world.dispatch index) := by
  unfold dispatch
  split <;> exact untouched_of_tasks rfl

theorem untouched_beginCall (doer : Nat) (call : Call) :
    Untouched task world (world.beginCall doer call) :=
  (untouched_dispatch _).from rfl

theorem untouched_activity (index : Nat) (activity : Activity) :
    Untouched task world (world.change index ({ · with activity })) :=
  untouched_change index fun _ => rfl

theorem untouched_send (doer : Nat) (activity : Activity)
    (descriptor : Except DescriptorError Descriptor) :
    Untouched task world (world.send doer activity descriptor).1 := by
  unfold send
  split
  · exact .refl task world
  · split
    · exact .refl task world
    · exact (untouched_activity doer activity).trans (untouched_beginCall doer _)

theorem untouched_complete (doer : Nat) : Untouched task world (world.complete doer) := by
  have told : ∀ (followers : List Follower) (world : World),
      Untouched task world (followers.foldl (fun world follower => world.enqueue
        (if follower.isCounting then .tally follower.task
          else .wake follower.task)) world) := by
    intro followers
    induction followers with
    | nil => exact .refl task
    | cons first rest ih =>
        intro world
        exact (ih _).from rfl
  have done : Untouched task world (world.change doer ({ · with isDone := true })) :=
    untouched_change doer fun _ => rfl
  exact done.trans (told _ _)

theorem standing?_settle (outcome : StepOutcome)
    (found : world.standing? task = some standing) :
    (world.settle task outcome).standing? task =
      some { standing with outcomes := standing.outcomes ++ [outcome] } := by
  obtain ⟨entry, listed, rfl⟩ := Option.map_eq_some_iff.mp found
  have changed := standing?_change world task fun entry =>
    { entry with outcomes := entry.outcomes ++ [outcome], activity := .idle }
  rw [listed] at changed
  unfold settle
  split
  · exact changed
  · exact changed

theorem untouched_settle_other {other : Nat} (ne : other ≠ task) (outcome : StepOutcome) :
    Untouched task world (world.settle other outcome) := by
  have changed : Untouched task world (world.change other fun entry =>
      { entry with outcomes := entry.outcomes ++ [outcome], activity := .idle }) :=
    untouched_change_other ne _
  unfold settle
  split
  · exact changed.trans (untouched_of_tasks rfl)
  · exact changed

theorem untouched_tally (doer : Nat) : Untouched task world (world.tally doer) := by
  unfold tally
  split
  · dsimp only
    split
    · exact (untouched_activity doer _).trans (untouched_of_tasks rfl)
    · exact untouched_activity doer _
  · exact .refl task world

theorem untouched_move (step : Move) {goes : World → World}
    (untouched : ∀ world, Untouched task world (goes world)) :
    Untouched task world (world.move step goes) := by
  unfold move
  split
  · exact (untouched _).from rfl
  · exact .refl task world

theorem untouched_enqueue (job : Job) : Untouched task world (world.enqueue job) :=
  untouched_of_tasks rfl

theorem untouched_serve (index : Nat) : Untouched task world (world.serve index) := by
  unfold serve
  split
  · cases world.server.reply _ with
    | mk server reply =>
        have served : Untouched task world { world with server } := untouched_of_tasks rfl
        dsimp only
        split
        · exact served
        · exact served.trans (untouched_move _ fun _ => untouched_enqueue _)
        · exact served.trans (untouched_of_tasks rfl)
        · exact served.trans (untouched_move _ fun _ => untouched_enqueue _)
        · exact served.trans (untouched_of_tasks rfl)
  · exact untouched_enqueue _

/-! ## The steps of a task -/

theorem untouched_load (doer : Nat) : Untouched task world (world.perform doer .load).1 := by
  have sent : Untouched task { world with loader := world.loader.start }
      (send { world with loader := world.loader.start } doer .loading
        (Descriptor.make? (.text "GET") (.text world.endpoint) none none)).1 :=
    untouched_send doer _ _
  simp only [perform]
  split
  · rename_i next begins
    rw [begins] at sent
    exact sent.from rfl
  · rename_i next outcome begins
    rw [begins] at sent
    exact (sent.from rfl).trans (untouched_of_tasks rfl)

theorem untouched_perform (doer : Nat) {step : Step} (plain : step.isScoping = false) :
    Untouched task world (world.perform doer step).1 := by
  cases step with
  | enter | leave => cases plain
  | send => exact untouched_send doer _ _
  | load => exact untouched_load doer
  | remember token provenance =>
      simp only [perform]
      split
      · exact .refl task world
      · unfold World.remember
        simp only [Prod.map]
        split <;> exact untouched_of_tasks rfl
  | invalidate | keepEngine | query | current | render | guarded =>
      exact untouched_of_tasks rfl
  | sleep microseconds =>
      have paused : Untouched task world
          (world.change doer ({ · with activity := .pausing })) :=
        untouched_activity doer .pausing
      cases microseconds with
      | zero => exact paused.trans (untouched_enqueue _)
      | succ => exact paused.trans (untouched_of_tasks rfl)
  | start name step =>
      have spawned : Untouched task world (world.spawn doer [step] []).1 :=
        untouched_spawn doer [step] []
      simp only [perform]
      cases begun : world.spawn doer [step] [] with
      | mk next child =>
          rw [begun] at spawned
          have paused : Untouched task
              { next with names := next.names.insert name child }
              (World.change { next with names := next.names.insert name child } doer
                ({ · with activity := .pausing })) :=
            untouched_activity doer .pausing
          exact (spawned.trans (paused.from rfl)).trans (untouched_of_tasks rfl)
  | join name =>
      simp only [perform]
      split
      · exact .refl task world
      · rename_i child named
        split
        · exact .refl task world
        · split
          · exact .refl task world
          · have told : Untouched task world (world.change child fun other =>
                { other with
                  followers := other.followers ++ [⟨doer, false⟩] }) :=
              untouched_change child fun _ => rfl
            exact told.trans (untouched_activity doer _)
  | parallel steps =>
      cases steps with
      | nil => exact .refl task world
      | cons first rest =>
          exact (untouched_spawnAll doer (first :: rest)).trans (untouched_activity doer _)
  | isolated steps =>
      exact (untouched_spawn doer steps _).trans (untouched_activity doer _)

theorem untouched_perform_other {other : Nat} (ne : other ≠ task) (step : Step) :
    Untouched task world (world.perform other step).1 := by
  cases scoping : step.isScoping with
  | false => exact untouched_perform other scoping
  | true =>
      cases step with
      | enter source =>
          simp only [perform]
          split
          · exact .refl task world
          · exact untouched_change_other ne _
      | leave isRaising => exact untouched_change_other ne _
      | _ => cases scoping

theorem standing?_rescope (found : world.standing? task = some standing)
    (scopes : Scopes) :
    (world.change task ({ · with scopes })).standing? task =
      some { standing with scopes } := by
  obtain ⟨entry, listed, rfl⟩ := Option.map_eq_some_iff.mp found
  rw [standing?_change, listed]
  rfl

theorem standing?_perform (step : Step)
    (found : world.standing? task = some standing) :
    (world.perform task step).1.standing? task =
      some { standing with scopes := Act.after ⟨world, step⟩ standing.scopes } := by
  have here := scopesOf_eq found
  cases scoping : step.isScoping with
  | false =>
      have same : Act.after ⟨world, step⟩ standing.scopes = standing.scopes := by
        cases step <;> first | rfl | cases scoping
      rw [same]
      exact untouched_perform task scoping standing found
  | true =>
      cases step with
      | enter source =>
          simp only [perform, Act.after]
          cases world.providerFor source with
          | none => exact found
          | some provider =>
              rw [here]
              exact standing?_rescope found _
      | leave isRaising =>
          simp only [perform, Act.after, here]
          exact standing?_rescope found _
      | _ => cases scoping

end World

end AdminGate.Scenario

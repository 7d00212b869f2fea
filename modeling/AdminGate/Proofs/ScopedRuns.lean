import AdminGate.Proofs.TaskScopes

/-!
# Scopes in the runs of a scenario

As a scenario runs, its tasks take turns and the loader moves on.  `Course` follows
one task through a run: what it does in each of the turns in which it goes on.  A
scope that it has opened is in force until it is left, scopes inside that have been
left and all that other tasks do put aside.
-/

namespace AdminGate.Scenario

variable {world next last start : World} {task : Nat} {standing : Standing}
  {act opening closing asking : Act} {acts more inside outside rest : List Act}
  {scopes : Scopes} {provider : Provider}

/-! ## What a task does in order -/

/-- A task stands in these scopes when it begins an act. -/
def Act.Finds (act : Act) (task : Nat) (scopes : Scopes) : Prop :=
  ∃ standing, act.world.standing? task = some standing ∧ standing.scopes = scopes

/-- Each act finds the scopes that the acts before it have left. -/
def Chained (task : Nat) : Scopes → List Act → Scopes → Prop
  | scopes, [], last => last = scopes
  | scopes, act :: acts, last =>
      act.Finds task scopes ∧ Chained task (act.after scopes) acts last

theorem chained_append {last : Scopes} :
    Chained task scopes (acts ++ more) last ↔
      ∃ middle, Chained task scopes acts middle ∧ Chained task middle more last := by
  induction acts generalizing scopes with
  | nil => simp [Chained]
  | cons act acts ih =>
      simp only [List.cons_append, Chained, ih]
      constructor
      · rintro ⟨finds, middle, first, second⟩
        exact ⟨middle, ⟨finds, first⟩, second⟩
      · rintro ⟨middle, ⟨finds, first⟩, second⟩
        exact ⟨finds, middle, first, second⟩

/-- An act opens a scope over a provider. -/
def Act.Opens (act : Act) (provider : Provider) : Prop :=
  ∃ source, act.step = .enter source ∧ act.world.providerFor source = some provider

/-- An act tries to open a scope over what is no provider. -/
def Act.IsRefused (act : Act) : Prop :=
  ∃ source, act.step = .enter source ∧ act.world.providerFor source = none

theorem Act.Opens.after_eq (opens : act.Opens provider) (scopes : Scopes) :
    act.after scopes = scopes.inside provider := by
  obtain ⟨source, step, found⟩ := opens
  simp only [Act.after, step, found]

theorem Act.IsRefused.after_eq (refused : act.IsRefused) (scopes : Scopes) :
    act.after scopes = scopes := by
  obtain ⟨source, step, absent⟩ := refused
  simp only [Act.after, step, absent]

theorem Act.after_of_plain (plain : act.step.isScoping = false) (scopes : Scopes) :
    act.after scopes = scopes := by
  obtain ⟨world, step⟩ := act
  cases step <;> first | rfl | cases plain

/-- Acts that leave every scope that they open, and no other. -/
inductive Balanced : List Act → Prop where
  | none : Balanced []
  | plain {act : Act} (plain : act.step.isScoping = false) : Balanced [act]
  | refused {act : Act} (refused : act.IsRefused) : Balanced [act]
  | scope {opening closing : Act} {inside : List Act} {provider : Provider}
      {isRaising : Bool} (opens : opening.Opens provider) (balanced : Balanced inside)
      (leaves : closing.step = .leave isRaising) :
      Balanced (opening :: (inside ++ [closing]))
  | append {acts more : List Act} (first : Balanced acts) (second : Balanced more) :
      Balanced (acts ++ more)

/-- Acts that leave what they open end in the scopes that they began in. -/
theorem Balanced.restores (balanced : Balanced acts) {last : Scopes}
    (chained : Chained task scopes acts last) : last = scopes := by
  induction balanced generalizing scopes last with
  | none => exact chained
  | plain plain => exact chained.2.trans (Act.after_of_plain plain scopes)
  | refused refused => exact chained.2.trans (refused.after_eq scopes)
  | scope opens _ leaves ih =>
      obtain ⟨_, chained⟩ := chained
      obtain ⟨middle, within, _, ended⟩ := chained_append.mp chained
      rw [opens.after_eq] at within
      -- What is left in the end is the opened scope itself, since the acts within are balanced.
      have left : last = middle.leave := by
        simpa [Chained, Act.after, leaves] using ended
      rw [left, ih within, Scopes.leave_inside]
  | append _ _ first second =>
      obtain ⟨middle, begun, ended⟩ := chained_append.mp chained
      exact (second ended).trans (first begun)

/-! ## The turns of a run -/

/-- A task stands as before, but for the outcome of the step that it has been
waiting in. -/
def Awakes (task : Nat) (world start : World) : Prop :=
  ∀ standing, world.standing? task = some standing → ∃ outcome : Option StepOutcome,
    start.standing? task =
      some { standing with outcomes := standing.outcomes ++ outcome.toList }

/-- What a task does in one turn: nothing, or it goes on with its steps. -/
inductive TakesTurn (task : Nat) (world : World) : List Act → World → Prop where
  | aside {next : World} (untouched : World.Untouched task world next) :
      TakesTurn task world [] next
  | goesOn {start : World} (awakes : Awakes task world start) :
      TakesTurn task world (World.acts task start (world.stepsOf task))
        (World.advance task start (world.stepsOf task))

/-- What a task does in the turns of a run. -/
inductive Course (task : Nat) : World → List Act → World → Prop where
  | rest {world : World} : Course task world [] world
  | turn {world next last : World} {acts more : List Act}
      (taken : world.turn? = some next) (turned : TakesTurn task world acts next)
      (course : Course task next more last) : Course task world (acts ++ more) last

theorem TakesTurn.from (turned : TakesTurn task next acts last)
    (tasks : next.tasks = world.tasks) : TakesTurn task world acts last := by
  have steps : next.stepsOf task = world.stepsOf task := by
    rw [World.stepsOf, tasks, World.stepsOf]
  cases turned with
  | aside untouched => exact .aside (untouched.from tasks)
  | goesOn awakes =>
      rw [steps]
      exact .goesOn fun standing found =>
        awakes standing (World.untouched_of_tasks tasks standing found)

namespace World

theorem untouched_advance {other : Nat} (ne : other ≠ task) (steps : List Step) :
    Untouched task world (advance other world steps) := by
  induction steps generalizing world with
  | nil => exact untouched_complete other
  | cons step rest ih =>
      have performed : Untouched task world (world.perform other step).1 :=
        untouched_perform_other ne step
      simp only [advance]
      cases done : world.perform other step with
      | mk next outcome =>
          rw [done] at performed
          cases outcome with
          | some outcome =>
              exact (performed.trans (untouched_settle_other ne outcome)).trans ih
          | none => exact performed.trans (untouched_change_other ne _)

theorem exists_turned_run (task : Nat) (world : World) (doer : Nat) :
    ∃ acts, TakesTurn task world acts (advance doer world (world.stepsOf doer)) := by
  by_cases self : doer = task
  · subst self
    exact ⟨_, .goesOn fun standing found => ⟨none, by simpa using found⟩⟩
  · exact ⟨[], .aside (untouched_advance self _)⟩

theorem exists_turned_goOn (task : Nat) (world : World) (doer : Nat) (outcome : StepOutcome) :
    ∃ acts, TakesTurn task world acts (world.goOn doer outcome) := by
  by_cases self : doer = task
  · subst self
    exact ⟨_, .goesOn fun standing found =>
      ⟨some outcome, standing?_settle outcome found⟩⟩
  · exact ⟨[], .aside ((untouched_settle_other self outcome).trans (untouched_advance self _))⟩

theorem exists_turned_finishCall (task : Nat) (world : World) (index : Nat) (outcome : Outcome) :
    ∃ acts, TakesTurn task world acts (world.finishCall index outcome) := by
  unfold finishCall
  dsimp only
  split
  · cases world.loader.finish _ world.client.settings.locale with
    | mk loader event =>
        obtain ⟨acts, turned⟩ := exists_turned_goOn task { world with
          loader, traffic := world.traffic.observe [.logged event.alone] }
          (world.owners.getD index 0) (.state loader.state)
        exact ⟨acts, turned.from rfl⟩
  · rename_i cause _
    obtain ⟨acts, turned⟩ := exists_turned_goOn task
      { world with loader := world.loader.abandon } (world.owners.getD index 0)
      (.failed (.failure cause))
    exact ⟨acts, turned.from rfl⟩
  · exact exists_turned_goOn task world _ _
  · exact exists_turned_goOn task world _ _

theorem exists_turned_carryOut (task : Nat) (world : World) (job : Job) :
    ∃ acts, TakesTurn task world acts (world.carryOut job) := by
  have noticed : ∀ (step : Move) (call : Nat),
      Untouched task world (world.move step (·.enqueue (.notice call))) :=
    fun step call => untouched_move step fun _ => untouched_enqueue _
  cases job with
  | run doer => exact exists_turned_run task world doer
  | launch call => exact ⟨[], .aside (untouched_move _ fun _ => untouched_serve call)⟩
  | answer call number response | fail call number cause =>
      simp only [carryOut]
      split
      · exact ⟨[], .aside (noticed _ call)⟩
      · exact ⟨[], .aside (.refl task world)⟩
  | expire call => exact ⟨[], .aside (noticed _ call)⟩
  | notice call => exact ⟨[], .aside (untouched_enqueue _)⟩
  | resume call =>
      simp only [carryOut, move]
      split
      · rename_i traffic taken
        split
        · rename_i outcome reached
          obtain ⟨acts, turned⟩ := exists_turned_finishCall task
            { world.silence call with traffic } call outcome
          exact ⟨acts, turned.from rfl⟩
        · exact ⟨[], .aside ((untouched_dispatch call).from rfl)⟩
      · exact ⟨[], .aside (untouched_of_tasks rfl)⟩
  | tally doer => exact ⟨[], .aside (untouched_tally doer)⟩
  | wake doer => exact exists_turned_goOn task world doer _

theorem exists_turned (task : Nat) (taken : world.turn? = some next) :
    ∃ acts, TakesTurn task world acts next := by
  unfold turn? at taken
  split at taken
  · rename_i job rest queued
    cases taken
    obtain ⟨acts, turned⟩ :=
      exists_turned_carryOut task { world with ready := rest } job
    exact ⟨acts, turned.from rfl⟩
  · obtain ⟨moment, _, taken⟩ := Option.bind_eq_some_iff.mp taken
    obtain ⟨traffic, _, taken⟩ := Option.bind_eq_some_iff.mp taken
    cases taken
    exact ⟨[], .aside (untouched_of_tasks rfl)⟩

theorem exists_course (world : World) (task bound : Nat) :
    ∃ acts, Course task world acts (world.run bound) := by
  induction bound generalizing world with
  | zero => exact ⟨[], .rest⟩
  | succ bound ih =>
      unfold run
      split
      · exact ⟨[], .rest⟩
      · cases taken : world.turn? with
        | none => exact ⟨[], .rest⟩
        | some next =>
            obtain ⟨acts, turned⟩ := exists_turned task taken
            obtain ⟨more, course⟩ := ih next
            exact ⟨acts ++ more, .turn taken turned course⟩

/-- A task that goes on finds at each step the scopes that it has left. -/
theorem chained_advance (steps : List Step)
    (found : world.standing? task = some standing) : ∃ after,
      (advance task world steps).standing? task = some after ∧
        Chained task standing.scopes (World.acts task world steps) after.scopes := by
  induction steps generalizing world standing with
  | nil => exact ⟨standing, untouched_complete task standing found, rfl⟩
  | cons step rest ih =>
      have performed := standing?_perform step found
      have finds : Act.Finds ⟨world, step⟩ task standing.scopes := ⟨standing, found, rfl⟩
      simp only [advance, World.acts]
      cases done : world.perform task step with
      | mk next outcome =>
          rw [done] at performed
          cases outcome with
          | some outcome =>
              obtain ⟨after, reached, chained⟩ := ih (standing?_settle outcome performed)
              exact ⟨after, reached, finds, chained⟩
          | none =>
              obtain ⟨entry, listed, same⟩ := Option.map_eq_some_iff.mp performed
              refine ⟨{ entry with steps := rest }.standing, ?_, finds, ?_⟩
              · rw [standing?_change, listed]
                rfl
              · exact congrArg Standing.scopes same

end World

theorem TakesTurn.chained (turned : TakesTurn task world acts next)
    (found : world.standing? task = some standing) : ∃ after,
      next.standing? task = some after ∧
        Chained task standing.scopes acts after.scopes := by
  cases turned with
  | aside untouched => exact ⟨standing, untouched standing found, rfl⟩
  | goesOn awakes =>
      obtain ⟨outcome, awake⟩ := awakes standing found
      obtain ⟨after, reached, chained⟩ :=
        World.chained_advance (world.stepsOf task) awake
      exact ⟨after, reached, chained⟩

theorem Course.chained (course : Course task world acts last)
    (found : world.standing? task = some standing) : ∃ after,
      last.standing? task = some after ∧
        Chained task standing.scopes acts after.scopes := by
  induction course generalizing standing with
  | rest => exact ⟨standing, found, rfl⟩
  | turn _ turned _ ih =>
      obtain ⟨middle, reached, first⟩ := turned.chained found
      obtain ⟨after, ends, second⟩ := ih reached
      exact ⟨after, ends, chained_append.mpr ⟨_, first, second⟩⟩

/-! ## Scopes in a run -/

/-- What comes of the step of an act at once. -/
def Act.outcome? (act : Act) (task : Nat) : Option StepOutcome :=
  (act.world.perform task act.step).2

/-- The scopes of a task when it has done the step of an act. -/
def Act.scopesAfter (act : Act) (task : Nat) : Scopes :=
  (act.world.perform task act.step).1.scopesOf task

/-- The scopes that a task opens and leaves by these acts nest. -/
structure Nests (task : Nat) (world : World) (acts : List Act) : Prop where
  /-- A question is answered for the innermost scope that is open, for a loader as it
  stands at this moment. -/
  innermost : ∀ {outside inside rest : List Act} {opening asking : Act}
    {provider : Provider} {queries : List Query},
    acts = outside ++ opening :: (inside ++ asking :: rest) →
      opening.Opens provider → Balanced inside → asking.step = .current queries →
      asking.outcome? task = some (.answers (queries.map
        (provider.engineAmong fun _ => asking.world.loader).answer))
  /-- Leaving a scope, with an error or without, brings back the scopes around it; the
  error goes on. -/
  restored : ∀ {outside inside rest : List Act} {opening closing : Act}
    {provider : Provider} {isRaising : Bool},
    acts = outside ++ opening :: (inside ++ closing :: rest) →
      opening.Opens provider → Balanced inside → closing.step = .leave isRaising →
      closing.scopesAfter task = opening.world.scopesOf task ∧
        closing.outcome? task = some (if isRaising then .propagated
          else .depth (opening.world.scopesOf task).depth)
  /-- What is no provider is refused and changes nothing. -/
  refused : ∀ {act : Act}, act ∈ acts → act.IsRefused →
    act.world.perform task act.step =
      (act.world, some (.failed (.scope .notAProvider)))
  /-- Outside of every scope nothing is answered. -/
  outside : ∀ {inside rest : List Act} {asking : Act} {queries : List Query},
    acts = inside ++ asking :: rest → Balanced inside →
      (world.scopesOf task).current = none → asking.step = .current queries →
      asking.outcome? task = some (.failed (.scope .outsideScope))

theorem Act.Finds.scopesOf_eq (finds : act.Finds task scopes) :
    act.world.scopesOf task = scopes := by
  obtain ⟨standing, found, rfl⟩ := finds
  exact World.scopesOf_eq found

theorem Act.Finds.scopesAfter_eq (finds : act.Finds task scopes) :
    act.scopesAfter task = act.after scopes := by
  obtain ⟨standing, found, rfl⟩ := finds
  exact World.scopesOf_eq (World.standing?_perform act.step found)

theorem Act.IsRefused.perform_eq (refused : act.IsRefused) (task : Nat) :
    act.world.perform task act.step =
      (act.world, some (.failed (.scope .notAProvider))) := by
  obtain ⟨source, step, absent⟩ := refused
  simp only [step, World.perform, absent]
  rfl

theorem Act.Finds.outcome?_current {queries : List Query}
    (finds : act.Finds task scopes) (asks : act.step = .current queries) :
    act.outcome? task = some (match scopes.engine? act.world.loader with
      | .ok engine => .answers (queries.map engine.answer)
      | .error cause => .failed (.scope cause)) := by
  rw [Act.outcome?, asks]
  simp only [World.perform, World.engineFor, finds.scopesOf_eq]
  cases scopes.engine? act.world.loader <;> rfl

/-- What follows acts that leave all that they open behind an opened scope finds this
scope. -/
theorem finds_inside {first last : Scopes}
    (chained : Chained task first (outside ++ opening :: (inside ++ act :: rest)) last)
    (opens : opening.Opens provider) (balanced : Balanced inside) :
    act.Finds task ((opening.world.scopesOf task).inside provider) := by
  obtain ⟨around, _, finds, chained⟩ := chained_append.mp chained
  obtain ⟨middle, within, found, _⟩ := chained_append.mp chained
  rw [opens.after_eq] at within
  rw [finds.scopesOf_eq, ← balanced.restores within]
  exact found

theorem Course.nests (course : Course task world acts last)
    (listed : task < world.tasks.length) : Nests task world acts := by
  have found : world.standing? task = some (world.tasks[task]).standing := by
    rw [World.standing?, List.getElem?_eq_getElem listed]
    rfl
  obtain ⟨after, _, chained⟩ := course.chained found
  rw [← World.scopesOf_eq found] at chained
  refine { innermost := ?innermost, restored := ?restored, refused := ?refused,
           outside := ?outside }
  case innermost =>
    intro outside inside rest opening asking provider queries whole opens balanced asks
    rw [whole] at chained
    have finds := finds_inside chained opens balanced
    rw [finds.outcome?_current asks, Scopes.engine?,
      Scopes.engineAmong?_of_bound (Scopes.current_inside _ provider)]
  case restored =>
    intro outside inside rest opening closing provider isRaising whole opens balanced
      leaves
    rw [whole] at chained
    have finds := finds_inside chained opens balanced
    refine ⟨?_, ?_⟩
    · rw [finds.scopesAfter_eq]
      simp [Act.after, leaves]
    · rw [Act.outcome?, leaves]
      simp only [World.perform, finds.scopesOf_eq, Scopes.leave_inside]
  case refused =>
    intro act _ refused
    exact refused.perform_eq task
  case outside =>
    intro inside rest asking queries whole balanced unbound asks
    rw [whole] at chained
    obtain ⟨middle, within, finds, _⟩ := chained_append.mp chained
    rw [balanced.restores within] at finds
    rw [finds.outcome?_current asks, Scopes.engine?,
      Scopes.engineAmong?_of_unbound unbound]

/-- A task has a course from one world to another, and in every such course its
scopes nest. -/
structure KeepsScopes (task : Nat) (world last : World) : Prop where
  exists_course : ∃ acts, Course task world acts last
  nests : ∀ {acts : List Act}, Course task world acts last → Nests task world acts

end AdminGate.Scenario

namespace AdminGate

/-- Code in one context runs where the innermost scope around it binds its provider,
and all scopes are back when it is left, in whichever way; and so it is with each
task in every run of a scenario. -/
theorem Scopes.nest_restores :
    (∀ {Loader Error : Type} (block : Block Loader Error) (scopes : Scopes Loader)
      (loaders : Loader → IdentityLoader),
        (block.run scopes loaders).scopes = scopes ∧
        ∀ later notes exit, block.run scopes loaders = ⟨scopes, later, notes, exit⟩ ↔
          Block.Runs scopes.current loaders block later notes exit) ∧
      ∀ (world : Scenario.World) (task : Fin world.tasks.length) (bound : Nat),
        Scenario.KeepsScopes task world (world.run bound) := by
  constructor
  · intro Loader Error block scopes loaders
    exact ⟨block.scopes_run scopes loaders, fun _ _ _ => Block.run_eq_iff⟩
  · intro world task bound
    exact ⟨world.exists_course task bound, fun course => course.nests task.isLt⟩

end AdminGate

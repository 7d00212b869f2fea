import Mathlib.Data.List.Induction
import AdminGate.Identity.Loader
import AdminGate.Permission.Query

/-!
# Overlapping loads

Loads of one loader begin at any moments and end in any order, with a result or
with an exception.  What the loader knows is a fold over the results in the order
of their return, `knownAfter`; the exceptions leave no trace but in the counter,
which never runs below zero.
-/

namespace AdminGate

/-- Where a load stands; one that has returned has returned a state. -/
inductive LoadStage where
  | running
  | returned (state : IdentityState)
  | raised
deriving DecidableEq, Repr

def LoadStage.isRunning : LoadStage → Bool
  | running => true
  | returned _ | raised => false

/-- A loader and its loads, in the order in which they have begun. -/
structure Loading where
  loader : IdentityLoader
  loads : List LoadStage
deriving DecidableEq, Repr

/-- A load begins, returns after a result, or raises. -/
inductive LoadMove where
  | start
  | finish (load : Nat) (result : ApiResult)
  | abandon (load : Nat)

namespace LoadMove

def starts : LoadMove → Bool
  | start => true
  | finish _ _ | abandon _ => false

def ends : LoadMove → Bool
  | start => false
  | finish _ _ | abandon _ => true

/-- The result after which a load returns. -/
def result? : LoadMove → Option ApiResult
  | finish _ result => some result
  | start | abandon _ => none

end LoadMove

namespace Loading

def initial : Loading := ⟨.initial, []⟩

def close? (loading : Loading) (load : Nat) (loader : IdentityLoader)
    (stage : LoadStage) : Option Loading :=
  if loading.loads[load]? = some .running then
    some ⟨loader, loading.loads.set load stage⟩
  else none

def step (locale : String) (loading : Loading) : LoadMove → Option Loading
  | .start => some ⟨loading.loader.start, loading.loads ++ [.running]⟩
  | .finish load result =>
      let loader := (loading.loader.finish result locale).1
      loading.close? load loader (.returned loader.state)
  | .abandon load => loading.close? load loading.loader.abandon .raised

def run? (locale : String) (moves : List LoadMove) : Option Loading :=
  moves.foldlM (step locale) initial

end Loading

/-- What a loader knows after these results. -/
def knownAfter (locale : String) (results : List ApiResult) : IdentityState :=
  results.foldl (fun known result => (IdentityLoader.learn known result locale).1)
    .initial

variable {locale : String} {known : IdentityState} {results : List ApiResult}
  {result : ApiResult}

/-! ## What is known -/

theorem learn_of_admin {payload : Fields}
    (brings : IdentityLoader.admin? result = some payload) :
    (IdentityLoader.learn known result locale).1 =
      .loaded (some (.ofPayload payload)) := by
  simp [IdentityLoader.learn, brings]

theorem learn_of_none (brings : IdentityLoader.admin? result = none) :
    (IdentityLoader.learn known result locale).1 =
      .failed (IdentityLoader.errorOf result locale) known.identity := by
  simp [IdentityLoader.learn, brings]

theorem knownAfter_concat (locale : String) (results : List ApiResult)
    (result : ApiResult) :
    knownAfter locale (results ++ [result]) =
      (IdentityLoader.learn (knownAfter locale results) result locale).1 := by
  simp [knownAfter]

theorem knownAfter_status (locale : String) (results : List ApiResult) :
    (knownAfter locale results).status =
      match results.getLast? with
      | none => .unloaded
      | some result =>
          if (IdentityLoader.admin? result).isSome then .loaded else .failed := by
  induction results using List.reverseRecOn with
  | nil => rfl
  | append_singleton results result =>
      rw [knownAfter_concat, List.getLast?_concat]
      cases brings : IdentityLoader.admin? result with
      | none =>
          rw [learn_of_none brings]
          simp [IdentityState.failed, brings]
      | some payload =>
          rw [learn_of_admin brings]
          simp [IdentityState.loaded, brings]

theorem knownAfter_identity (locale : String) (results : List ApiResult) :
    (knownAfter locale results).identity =
      (results.filterMap IdentityLoader.admin?).getLast?.map
        Identity.ofPayload := by
  induction results using List.reverseRecOn with
  | nil => rfl
  | append_singleton results result ih =>
      rw [knownAfter_concat, List.filterMap_append]
      cases brings : IdentityLoader.admin? result with
      | none =>
          rw [learn_of_none brings]
          simp [brings, IdentityState.failed, ih]
      | some payload =>
          rw [learn_of_admin brings]
          simp [brings, IdentityState.loaded]

theorem knownAfter_unloaded_iff :
    (knownAfter locale results).status = .unloaded ↔ results = [] := by
  rw [knownAfter_status, ← List.getLast?_eq_none_iff]
  cases results.getLast? with
  | none => simp
  | some result =>
      simp only [reduceCtorEq, iff_false]
      split <;> simp

/-! ## Answers -/

namespace PermissionEngine

variable {engine other : PermissionEngine}

theorem isDecided_iff : engine.isDecided = true ↔
    engine.state.status ≠ .unloaded ∧ engine.isLoading = false := by
  simp [isDecided, and_comm]

/-- Two engines that are decided for the same identity differ at most in what they
report of its state. -/
theorem answer_congr (decided : engine.isDecided = true)
    (otherDecided : other.isDecided = true)
    (same : engine.identity = other.identity) {query : Query}
    (notState : query ≠ .state) : engine.answer query = other.answer query := by
  have permissions : engine.permissions = other.permissions := by
    rw [PermissionEngine.permissions, same, PermissionEngine.permissions]
  have isSuperAdmin : engine.isSuperAdmin = other.isSuperAdmin := by
    rw [PermissionEngine.isSuperAdmin, same, PermissionEngine.isSuperAdmin]
  have holds : engine.holds = other.holds := by
    funext permission
    rw [PermissionEngine.holds, permissions, PermissionEngine.holds]
  have pages : engine.canAccessPage = other.canAccessPage := by
    funext page
    simp [canAccessPage, whenDecided, decided, otherDecided, permissions,
      isSuperAdmin]
  cases query with
  | state => exact absurd rfl notState
  | isDecided => simp [answer, decided, otherDecided]
  | isSuperAdmin => simp [answer, isSuperAdmin]
  | permissions => simp [answer, permissions]
  | identity => simp [answer, same]
  | hasPermission permission =>
      simp [answer, hasPermission, whenDecided, decided, otherDecided,
        isSuperAdmin, holds]
  | hasAny permissions =>
      simp [answer, hasAny, whenDecided, decided, otherDecided, isSuperAdmin,
        holds]
  | hasAll permissions =>
      simp [answer, hasAll, whenDecided, decided, otherDecided, isSuperAdmin,
        holds]
  | canAccessPage page => simp [answer, pages]
  | accessiblePages => simp [answer, accessiblePages, pages]
  | landingPage current =>
      simp [answer, landingPage, accessiblePages, pages]

theorem hasPermission_of_decided (decided : engine.isDecided = true)
    (permission : String) :
    engine.hasPermission permission = some (engine.identity.any fun identity =>
      identity.isSuperAdmin || identity.permissions.contains permission) := by
  simp only [hasPermission, whenDecided, decided, if_true, isSuperAdmin, holds,
    permissions]
  cases engine.identity <;> simp

theorem answered_of_decided (decided : engine.isDecided = true) {query : Query}
    {value : Option Bool} (answers : engine.answer query = .verdict value) :
    value.isSome = true := by
  cases query with
  | isDecided | isSuperAdmin | hasPermission | hasAny | hasAll
  | canAccessPage =>
      cases answers
      simp [hasPermission, hasAny, hasAll, canAccessPage, whenDecided, decided]
  | permissions | identity | state | accessiblePages | landingPage =>
      cases answers

theorem denies_of_nobody (decided : engine.isDecided = true)
    (nobody : engine.identity = none) :
    (∀ permission, engine.hasPermission permission = some false) ∧
      (∀ permissions, engine.hasAny permissions = some false) ∧
      ∀ permissions, permissions ≠ [] →
        engine.hasAll permissions = some false := by
  have noOverride : engine.isSuperAdmin = false := by
    simp [isSuperAdmin, nobody]
  have holdsNothing : engine.holds = fun _ => false := by
    funext permission
    simp [holds, permissions, nobody]
  refine ⟨?_, ?_, ?_⟩
  · simp [hasPermission, whenDecided, decided, noOverride, holdsNothing]
  · simp [hasAny, whenDecided, decided, noOverride, holdsNothing]
  · intro permissions some
    cases permissions with
    | nil => exact absurd rfl some
    | cons first rest =>
        simp [hasAll, whenDecided, decided, noOverride, holdsNothing]

/-- All questions are answered, and from this identity. -/
structure AnswersFor (engine : PermissionEngine) (retained : Option Identity) :
    Prop where
  identity : engine.identity = retained
  answered : ∀ {query value}, engine.answer query = .verdict value →
    value.isSome = true
  hasPermission : ∀ permission, engine.hasPermission permission =
    some (retained.any fun identity =>
      identity.isSuperAdmin || identity.permissions.contains permission)
  /-- Nothing but the identity and the report of the state itself tells it from
  another engine that is decided. -/
  alike : ∀ {other : PermissionEngine}, other.isDecided = true →
    other.identity = retained → ∀ {query}, query ≠ .state →
      engine.answer query = other.answer query

theorem answersFor_of_decided (decided : engine.isDecided = true) :
    engine.AnswersFor engine.identity where
  identity := rfl
  answered := answered_of_decided decided
  hasPermission := hasPermission_of_decided decided
  alike otherDecided same _ notState :=
    answer_congr decided otherDecided same.symm notState

end PermissionEngine

/-! ## Steps -/

namespace Loading

variable {loading next : Loading} {moves : List LoadMove} {move : LoadMove}

theorem close?_eq_some_iff {load : Nat} {loader : IdentityLoader}
    {stage : LoadStage} :
    loading.close? load loader stage = some next ↔
      loading.loads[load]? = some .running ∧
        next = ⟨loader, loading.loads.set load stage⟩ := by
  simp [close?, eq_comm]

/-- What a step does to the loader and to the loads. -/
inductive Stepped (locale : String) (loading : Loading) :
    LoadMove → Loading → Prop where
  | started : Stepped locale loading .start
      ⟨loading.loader.start, loading.loads ++ [.running]⟩
  | finished {load : Nat} {result : ApiResult}
      (running : loading.loads[load]? = some .running) :
      Stepped locale loading (.finish load result)
        ⟨(loading.loader.finish result locale).1, loading.loads.set load
          (.returned (loading.loader.finish result locale).1.state)⟩
  | abandoned {load : Nat} (running : loading.loads[load]? = some .running) :
      Stepped locale loading (.abandon load)
        ⟨loading.loader.abandon, loading.loads.set load .raised⟩

theorem step_stepped (taken : step locale loading move = some next) :
    Stepped locale loading move next := by
  cases move with
  | start =>
      cases taken
      exact .started
  | finish load result =>
      obtain ⟨running, rfl⟩ := close?_eq_some_iff.mp taken
      exact .finished running
  | abandon load =>
      obtain ⟨running, rfl⟩ := close?_eq_some_iff.mp taken
      exact .abandoned running

theorem run?_concat (locale : String) (moves : List LoadMove)
    (move : LoadMove) :
    run? locale (moves ++ [move]) =
      (run? locale moves).bind fun loading => step locale loading move := by
  simp [run?, List.foldlM_append]

theorem countP_close {loads : List LoadStage} {load : Nat} (stage : LoadStage)
    (running : loads[load]? = some .running)
    (ended : stage.isRunning = false) :
    (loads.set load stage).countP LoadStage.isRunning + 1 =
      loads.countP LoadStage.isRunning := by
  obtain ⟨inside, entry⟩ := List.getElem?_eq_some_iff.mp running
  -- the load that ends has counted, so nothing is subtracted from zero
  have counts : 0 < loads.countP LoadStage.isRunning :=
    List.countP_pos_iff.mpr ⟨_, List.mem_of_getElem? running, rfl⟩
  rw [List.countP_set inside, entry, ended]
  simp only [LoadStage.isRunning, if_true, Bool.false_eq_true, if_false]
  omega

/-- What every step keeps: the counter counts the loads that are running, and the
state is what is known after the results so far. -/
structure Kept (locale : String) (moves : List LoadMove) (loading : Loading) :
    Prop where
  running : loading.loader.running = loading.loads.countP LoadStage.isRunning
  counter : loading.loader.running + moves.countP LoadMove.ends =
    moves.countP LoadMove.starts
  state : loading.loader.state =
    knownAfter locale (moves.filterMap LoadMove.result?)

theorem Kept.step (kept : Kept locale moves loading)
    (taken : step locale loading move = some next) :
    Kept locale (moves ++ [move]) next := by
  obtain ⟨running, counter, state⟩ := kept
  cases step_stepped taken with
  | started =>
      refine ⟨?_, ?_, ?_⟩
      · simp [IdentityLoader.start, running, List.countP_append,
          LoadStage.isRunning]
      · simp only [IdentityLoader.start, List.countP_append, List.countP_singleton,
          LoadMove.ends, LoadMove.starts, if_true, Bool.false_eq_true, if_false]
        omega
      · simpa [IdentityLoader.start, LoadMove.result?, List.filterMap_cons] using
          state
  | @finished load result ended =>
      have closed := countP_close
        (.returned (loading.loader.finish result locale).1.state) ended rfl
      refine ⟨?_, ?_, ?_⟩
      · simp only [IdentityLoader.finish, IdentityLoader.abandon, running] at closed ⊢
        omega
      · simp only [IdentityLoader.finish, IdentityLoader.abandon,
          List.countP_append, List.countP_singleton, LoadMove.ends,
          LoadMove.starts, if_true, Bool.false_eq_true, if_false]
        omega
      · simp only [IdentityLoader.finish, List.filterMap_append]
        rw [state]
        exact (knownAfter_concat ..).symm
  | abandoned ended =>
      have closed := countP_close .raised ended rfl
      refine ⟨?_, ?_, ?_⟩
      · simp only [IdentityLoader.abandon, running]
        omega
      · simp only [IdentityLoader.abandon, List.countP_append,
          List.countP_singleton, LoadMove.ends, LoadMove.starts, if_true,
          Bool.false_eq_true, if_false]
        omega
      · simpa [IdentityLoader.abandon, LoadMove.result?, List.filterMap_cons] using
          state

theorem run_kept (ran : run? locale moves = some loading) :
    Kept locale moves loading := by
  induction moves using List.reverseRecOn generalizing loading with
  | nil =>
      cases ran
      exact ⟨rfl, rfl, rfl⟩
  | append_singleton moves move ih =>
      rw [run?_concat] at ran
      obtain ⟨before, ranBefore, taken⟩ := Option.bind_eq_some_iff.mp ran
      exact (ih ranBefore).step taken

/-- Where the state that a load has returned comes from: the load has written it
when it ended. -/
inductive Wrote (locale : String) (load : Nat) (state : IdentityState) :
    List LoadMove → Prop where
  | now {earlier : List LoadMove} {result : ApiResult} {before after : Loading}
      (ran : run? locale earlier = some before)
      (taken : Loading.step locale before (.finish load result) = some after)
      (written : after.loader.state = state) :
      Wrote locale load state (earlier ++ [.finish load result])
  | before {earlier : List LoadMove} {move : LoadMove}
      (wrote : Wrote locale load state earlier) :
      Wrote locale load state (earlier ++ [move])

theorem run_wrote {load : Nat} {state : IdentityState}
    (ran : run? locale moves = some loading)
    (returned : loading.loads[load]? = some (.returned state)) :
    Wrote locale load state moves := by
  induction moves using List.reverseRecOn generalizing loading with
  | nil =>
      cases ran
      cases returned
  | append_singleton moves move ih =>
      rw [run?_concat] at ran
      obtain ⟨before, ranBefore, taken⟩ := Option.bind_eq_some_iff.mp ran
      cases step_stepped taken with
      | started =>
          rw [List.getElem?_append] at returned
          split at returned
          · exact (ih ranBefore returned).before
          · cases List.mem_singleton.mp (List.mem_of_getElem? returned)
      | @finished ended result running =>
          have inside := (List.getElem?_eq_some_iff.mp running).1
          by_cases here : ended = load
          · subst here
            rw [List.getElem?_set_self inside] at returned
            cases returned
            exact .now ranBefore taken rfl
          · rw [List.getElem?_set_ne here] at returned
            exact (ih ranBefore returned).before
      | @abandoned ended running =>
          have inside := (List.getElem?_eq_some_iff.mp running).1
          by_cases here : ended = load
          · subst here
            rw [List.getElem?_set_self inside] at returned
            cases returned
          · rw [List.getElem?_set_ne here] at returned
            exact (ih ranBefore returned).before

/-- What a loader comes to by its loads. -/
structure Overlap (locale : String) (moves : List LoadMove) (loading : Loading) :
    Prop where
  /-- The counter is the number of loads that have begun and not ended. -/
  counter : loading.loader.running + moves.countP LoadMove.ends =
    moves.countP LoadMove.starts
  isLoading : loading.loader.isLoading = true ↔
    moves.countP LoadMove.ends < moves.countP LoadMove.starts
  unloaded : loading.loader.state.status = .unloaded ↔
    moves.filterMap LoadMove.result? = []
  latest : ∀ result ∈ (moves.filterMap LoadMove.result?).getLast?,
    loading.loader.state.status =
      if (IdentityLoader.admin? result).isSome then .loaded else .failed
  identity : loading.loader.state.identity =
    ((moves.filterMap LoadMove.result?).filterMap
      IdentityLoader.admin?).getLast?.map Identity.ofPayload
  raises : ∀ {load next}, step locale loading (.abandon load) = some next →
    next.loader.state = loading.loader.state ∧
      next.loader.running + 1 = loading.loader.running
  returns : ∀ {load state}, loading.loads[load]? = some (.returned state) →
    Wrote locale load state moves
  decided : loading.loader.engine.isDecided = true ↔
    moves.filterMap LoadMove.result? ≠ [] ∧
      moves.countP LoadMove.ends = moves.countP LoadMove.starts
  answers : loading.loader.engine.isDecided = true →
    loading.loader.engine.AnswersFor
      (((moves.filterMap LoadMove.result?).filterMap
        IdentityLoader.admin?).getLast?.map Identity.ofPayload)
  /-- When no load has brought an identity, every permission is denied. -/
  denies : loading.loader.engine.isDecided = true →
    (∀ result ∈ moves.filterMap LoadMove.result?,
      IdentityLoader.admin? result = none) →
        (∀ permission,
          loading.loader.engine.hasPermission permission = some false) ∧
        (∀ permissions,
          loading.loader.engine.hasAny permissions = some false) ∧
        ∀ permissions, permissions ≠ [] →
          loading.loader.engine.hasAll permissions = some false

theorem Kept.isLoading_iff (kept : Kept locale moves loading) :
    loading.loader.isLoading = true ↔
      moves.countP LoadMove.ends < moves.countP LoadMove.starts := by
  have counter := kept.counter
  rw [IdentityLoader.isLoading, decide_eq_true_iff]
  omega

theorem Kept.identity (kept : Kept locale moves loading) :
    loading.loader.state.identity =
      ((moves.filterMap LoadMove.result?).filterMap
        IdentityLoader.admin?).getLast?.map Identity.ofPayload := by
  rw [kept.state]
  exact knownAfter_identity locale _

theorem Kept.unloaded_iff (kept : Kept locale moves loading) :
    loading.loader.state.status = .unloaded ↔
      moves.filterMap LoadMove.result? = [] := by
  rw [kept.state]
  exact knownAfter_unloaded_iff

theorem Kept.isDecided_iff (kept : Kept locale moves loading) :
    loading.loader.engine.isDecided = true ↔
      moves.filterMap LoadMove.result? ≠ [] ∧
        moves.countP LoadMove.ends = moves.countP LoadMove.starts := by
  have counter := kept.counter
  have isLoading := kept.isLoading_iff
  rw [PermissionEngine.isDecided_iff, ← Bool.not_eq_true]
  refine and_congr (not_congr kept.unloaded_iff) ((not_congr isLoading).trans ?_)
  omega

theorem Kept.raises {load : Nat} (kept : Kept locale moves loading)
    (taken : Loading.step locale loading (.abandon load) = some next) :
    next.loader.state = loading.loader.state ∧
      next.loader.running + 1 = loading.loader.running := by
  obtain ⟨running, rfl⟩ := close?_eq_some_iff.mp taken
  have counts : 0 < loading.loads.countP LoadStage.isRunning :=
    List.countP_pos_iff.mpr ⟨_, List.mem_of_getElem? running, rfl⟩
  rw [← kept.running] at counts
  exact ⟨rfl, Nat.sub_add_cancel counts⟩

theorem Kept.overlap (kept : Kept locale moves loading)
    (wrote : ∀ {load state}, loading.loads[load]? = some (.returned state) →
      Wrote locale load state moves) : Overlap locale moves loading := by
  have answers (decided : loading.loader.engine.isDecided = true) :
      loading.loader.engine.AnswersFor loading.loader.state.identity :=
    PermissionEngine.answersFor_of_decided decided
  rw [kept.identity] at answers
  exact
    { counter := kept.counter
      isLoading := kept.isLoading_iff
      unloaded := kept.unloaded_iff
      latest := by
        intro result latest
        rw [kept.state, knownAfter_status, Option.mem_def.mp latest]
      identity := kept.identity
      raises := kept.raises
      returns := wrote
      decided := kept.isDecided_iff
      answers := answers
      denies := by
        intro decided brings
        apply PermissionEngine.denies_of_nobody decided
        rw [(answers decided).identity, List.filterMap_eq_nil_iff.mpr brings]
        rfl }

theorem run_overlap (ran : run? locale moves = some loading) :
    Overlap locale moves loading :=
  (run_kept ran).overlap (run_wrote ran)

end Loading

/-- Of three loads the second one brings an identity, then the third one raises
and the first one fails. -/
def Sample.threeLoads : List LoadMove :=
  [.start, .start, .start,
    .finish 1 (.succeeded [("admin", .object [("username", .text "ada")])] 200),
    .abandon 2, .finish 0 (.failed "late" .timeout none [])]

namespace Loading

/-- The identity outlasts the failure. -/
theorem run_overlap_kept : ∃ loading,
    run? "en" Sample.threeLoads = some loading ∧
      loading.loader.state =
        .failed "late" (some { Identity.blank with username := "ada" }) ∧
      Overlap "en" Sample.threeLoads loading := by
  have runs : (run? "en" Sample.threeLoads).any (fun loading =>
      loading.loader.state =
        .failed "late" (some { Identity.blank with username := "ada" })) =
          true := by
    decide +kernel
  obtain ⟨loading, ran, state⟩ := (Option.any_eq_true _ _).mp runs
  exact ⟨loading, ran, of_decide_eq_true state, run_overlap ran⟩

end Loading

end AdminGate

import AdminGate.Client.Traffic
import AdminGate.Proofs.CallSteps

/-!
# What one step of the traffic does

A step begins a call, moves one call to its next stage, or lets time pass.
`StageStep` lists the ways in which a call changes its stage, `Stepped` what a
step of the traffic means for the calls, the cell and the jar.
-/

namespace AdminGate

/-- How a request has ended for the call that waits for it. -/
def Ending.ofResult : Except Http.Failure Http.Response → Ending
  | .ok response => .answered response
  | .error failure => .failed failure

theorem Ending.ofResult_eq_answered_iff
    {result : Except Http.Failure Http.Response} {response : Http.Response} :
    ofResult result = .answered response ↔ result = .ok response := by
  cases result <;> simp [ofResult]

namespace Traffic

/-- The ways in which a call leaves a stage, with the jar and the cell
afterwards. -/
inductive StageStep (client : Client) (traffic : Traffic) (call : Call)
    (index : Nat) : Move → Stage → Http.CookieJar → TokenCell → Stage → Prop where
  | launched {what : Wait} {since : Nat} {request : Http.Request}
      (positive : 0 < client.settings.timeoutMs)
      (composed : Http.Request.compose? client.base traffic.jar
        (call.inquiry client.settings what) = .ok request) :
      StageStep client traffic call index (.launch index) (.asked what since)
        traffic.jar traffic.cell (.inFlight what since traffic.sent request)
  | unfit {what : Wait} {since : Nat} {failure : Http.Failure}
      (positive : 0 < client.settings.timeoutMs)
      (refused : Http.Request.compose? client.base traffic.jar
        (call.inquiry client.settings what) = .error failure) :
      StageStep client traffic call index (.launch index) (.asked what since)
        traffic.jar traffic.cell (.ended what (.failed failure))
  | answered {what : Wait} {since number : Nat} {request : Http.Request}
      {response : Http.Response} :
      StageStep client traffic call index (.answer index response)
        (.inFlight what since number request)
        (request.receive client.year client.second traffic.jar response).jar
        traffic.cell
        (.ended what (.ofResult
          (request.receive client.year client.second traffic.jar
            response).result))
  | failed {what : Wait} {since number : Nat} {request : Http.Request}
      {cause : Http.TransportFailure} :
      StageStep client traffic call index (.fail index cause)
        (.inFlight what since number request) traffic.jar traffic.cell
        (.ended what (.failed (.transport cause)))
  | windowless {what : Wait} {since : Nat}
      (closed : client.settings.timeoutMs ≤ 0) :
      StageStep client traffic call index (.expire index) (.asked what since)
        traffic.jar traffic.cell (.ended what .expired)
  | expired {what : Wait} {since number : Nat} {request : Http.Request}
      (late : since + client.window ≤ traffic.now) :
      StageStep client traffic call index (.expire index)
        (.inFlight what since number request) traffic.jar traffic.cell
        (.ended what .expired)
  | resumed {what : Wait} {ending : Ending} {after : TokenCell} {next : Next}
      (resumed : Call.Resumed call client.settings traffic.jar traffic.cell
        what ending after next) :
      StageStep client traffic call index (.resume index) (.ended what ending)
        traffic.jar after (stageOf traffic.now next)

theorem stageOf_eq_asked_iff {now since : Nat} {next : Next} {what : Wait} :
    stageOf now next = .asked what since ↔ next = .wait what ∧ now = since := by
  cases next <;> simp [stageOf]

/-- The call that a move is about. -/
def mover (traffic : Traffic) : Move → Option Nat
  | .begin _ => some traffic.calls.length
  | .launch index | .answer index _ | .fail index _ | .expire index
  | .resume index => some index
  | .pass _ => none

/-- What a step means for the calls, the jar and the cell. -/
inductive Stepped (client : Client) (traffic : Traffic) :
    Move → Traffic → Prop where
  | begun {call : Call} {what : Wait} {next : Traffic}
      (attempted : call.Attempted client.settings traffic.jar traffic.cell
        .first next.cell what)
      (jar : next.jar = traffic.jar)
      (calls : next.calls =
        traffic.calls ++ [⟨call, .asked what traffic.now⟩]) :
      Stepped client traffic (.begin call) next
  | moved {index : Nat} {call : Call} {stage after : Stage} {move : Move}
      {next : Traffic}
      (mover : traffic.mover move = some index)
      (found : traffic.calls[index]? = some ⟨call, stage⟩)
      (step : StageStep client traffic call index move stage next.jar next.cell
        after)
      (calls : next.calls = traffic.calls.set index ⟨call, after⟩) :
      Stepped client traffic move next
  | passed {duration : Nat} {next : Traffic}
      (cell : next.cell = traffic.cell) (jar : next.jar = traffic.jar)
      (calls : next.calls = traffic.calls) :
      Stepped client traffic (.pass duration) next

variable {client : Client} {traffic next : Traffic}

private theorem begin_stepped (call : Call) :
    Stepped client traffic (.begin call) (begin client traffic call) := by
  obtain ⟨what, waits, attempted⟩ := call.attempt_attempted client.settings
    traffic.jar traffic.cell .first
  exact .begun attempted rfl (by simp [begin, apply, observe, waits, stageOf])

private theorem launch_stepped {index : Nat}
    (taken : launch client traffic index = some next) :
    Stepped client traffic (.launch index) next := by
  unfold launch at taken
  split at taken
  · rename_i call what since found
    split at taken
    · cases taken
    · rename_i open_
      have positive : 0 < client.settings.timeoutMs := Int.not_le.mp open_
      split at taken <;> cases taken
      · rename_i failure refused
        exact .moved rfl found (.unfit positive refused) rfl
      · rename_i request composed
        exact .moved rfl found (.launched positive composed) rfl
  · cases taken

private theorem answer_stepped {index : Nat} {response : Http.Response}
    (taken : answer client traffic index response = some next) :
    Stepped client traffic (.answer index response) next := by
  unfold answer at taken
  split at taken
  · rename_i call what since number request found
    obtain rfl := Option.some.inj taken
    exact .moved rfl found .answered rfl
  · cases taken

private theorem fail_stepped {index : Nat} {cause : Http.TransportFailure}
    (taken : fail traffic index cause = some next) :
    Stepped client traffic (.fail index cause) next := by
  unfold fail at taken
  split at taken
  · rename_i call what since number request found
    cases taken
    exact .moved rfl found .failed rfl
  · cases taken

private theorem expire_stepped {index : Nat}
    (taken : expire client traffic index = some next) :
    Stepped client traffic (.expire index) next := by
  unfold expire at taken
  split at taken
  · rename_i call what since found
    split at taken <;> cases taken
    rename_i closed
    exact .moved rfl found (.windowless closed) rfl
  · rename_i call what since number request found
    split at taken <;> cases taken
    rename_i late
    exact .moved rfl found (.expired late) rfl
  · cases taken

private theorem resume_stepped {index : Nat}
    (taken : resume client traffic index = some next) :
    Stepped client traffic (.resume index) next := by
  unfold resume at taken
  split at taken
  · rename_i call what ending found
    cases taken
    exact .moved rfl found
      (.resumed (call.resume_resumed client.settings traffic.jar traffic.cell
        what ending)) rfl
  · cases taken

theorem step_stepped {move : Move} (taken : step client traffic move = some next) :
    Stepped client traffic move next := by
  cases move with
  | begin call =>
      cases taken
      exact begin_stepped call
  | launch index => exact launch_stepped taken
  | answer index response => exact answer_stepped taken
  | fail index cause => exact fail_stepped taken
  | expire index => exact expire_stepped taken
  | resume index => exact resume_stepped taken
  | pass duration =>
      simp only [step, pass] at taken
      split at taken <;> cases taken
      exact .passed rfl rfl rfl

theorem stage_of_resume {index : Nat} {call : Call} {what : Wait}
    {ending : Ending}
    (taken : step client traffic (.resume index) = some next)
    (found : traffic.calls[index]? = some ⟨call, .ended what ending⟩) :
    next.stage? index = some (stageOf traffic.now
      (call.resume client.settings traffic.jar traffic.cell what
        ending).next) := by
  simp only [step, resume, found] at taken
  obtain rfl := Option.some.inj taken
  have inside := (List.getElem?_eq_some_iff.mp found).1
  simp [stage?, place, apply, observe, inside]

theorem resumed_of_step {index : Nat} {call : Call} {what : Wait}
    {ending : Ending}
    (taken : step client traffic (.resume index) = some next)
    (found : traffic.calls[index]? = some ⟨call, .ended what ending⟩) :
    ∃ after, call.Resumed client.settings traffic.jar traffic.cell what ending
        next.cell after ∧
      next.stage? index = some (stageOf traffic.now after) := by
  refine ⟨_, ?_, stage_of_resume taken found⟩
  simp only [step, resume, found] at taken
  obtain rfl := Option.some.inj taken
  exact call.resume_resumed client.settings traffic.jar traffic.cell what ending

/-- How a call has come to the stage at which it stands after a step. -/
inductive StageOrigin (client : Client) (traffic : Traffic) (move : Move)
    (next : Traffic) (index : Nat) (call : Call) : Stage → Prop where
  | kept {stage : Stage} (other : traffic.mover move ≠ some index)
      (found : traffic.calls[index]? = some ⟨call, stage⟩) :
      StageOrigin client traffic move next index call stage
  | begun {what : Wait} (begins : move = .begin call)
      (absent : traffic.calls[index]? = none)
      (mover : traffic.mover move = some index)
      (attempted : call.Attempted client.settings traffic.jar traffic.cell
        .first next.cell what) :
      StageOrigin client traffic move next index call (.asked what traffic.now)
  | moved {stage after : Stage} (mover : traffic.mover move = some index)
      (found : traffic.calls[index]? = some ⟨call, stage⟩)
      (step : StageStep client traffic call index move stage next.jar next.cell
        after) :
      StageOrigin client traffic move next index call after

theorem stage_origin {move : Move} {index : Nat} {call : Call} {stage : Stage}
    (taken : step client traffic move = some next)
    (found : next.calls[index]? = some ⟨call, stage⟩) :
    StageOrigin client traffic move next index call stage := by
  cases step_stepped taken with
  | begun attempted jar calls =>
      rename_i begun what
      rw [calls] at found
      by_cases here : index = traffic.calls.length
      · subst here
        rw [List.getElem?_concat_length] at found
        cases found
        exact .begun rfl (List.getElem?_eq_none (Nat.le_refl _)) rfl attempted
      · refine .kept (by simpa [mover] using Ne.symm here) ?_
        have inside := (List.getElem?_eq_some_iff.mp found).1
        rw [List.length_append, List.length_singleton] at inside
        rwa [List.getElem?_append_left (by omega)] at found
  | moved moves before step calls =>
      rename_i moved other old after
      rw [calls] at found
      by_cases here : index = moved
      · subst here
        have inside := (List.getElem?_eq_some_iff.mp before).1
        rw [List.getElem?_set_self inside] at found
        cases found
        exact .moved moves before step
      · refine .kept (by rw [moves]; simpa using Ne.symm here) ?_
        rwa [List.getElem?_set_ne (Ne.symm here)] at found
  | passed cell jar calls =>
      rw [calls] at found
      exact .kept (by simp [mover]) found

theorem absent_of_step {move : Move} {index : Nat}
    (taken : step client traffic move = some next)
    (absent : next.calls[index]? = none) :
    traffic.calls[index]? = none ∧ traffic.mover move ≠ some index := by
  rw [List.getElem?_eq_none_iff] at absent ⊢
  cases step_stepped taken with
  | begun attempted jar calls =>
      rw [calls, List.length_append, List.length_singleton] at absent
      refine ⟨by omega, ?_⟩
      intro here
      cases here
      omega
  | moved moves before step calls =>
      rename_i moved other old after
      rw [calls, List.length_set] at absent
      have inside := (List.getElem?_eq_some_iff.mp before).1
      refine ⟨absent, ?_⟩
      intro here
      rw [moves] at here
      cases here
      omega
  | passed cell jar calls =>
      rw [calls] at absent
      exact ⟨absent, by simp [mover]⟩

end Traffic

end AdminGate

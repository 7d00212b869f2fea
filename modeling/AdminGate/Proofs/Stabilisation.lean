import Mathlib.Data.Nat.Init
import AdminGate.Proofs.LoneWrite

/-!
# Writes one after the other

Against a server with one valid token, a write on its own is defeated only by two
different outdated tokens, one in the cell and one in the cookie.  After that the
cell holds the one that the cookie offers, so a sequence of writes stabilises:
`Paced` follows the cell from one write to the next, and from the second complete
write on it holds the valid token.
-/

namespace AdminGate

namespace Traffic

/-- A call begins only when all the others are done. -/
def InTurn (traffic : Traffic) (move : Move) : Prop :=
  (begun? move).isSome = true →
    ∀ entry ∈ traffic.calls, entry.stage.outcome?.isSome = true

instance (traffic : Traffic) (move : Move) : Decidable (InTurn traffic move) :=
  inferInstanceAs (Decidable (_ → _))

/-- The calls of a run begin one after the other. -/
def Sequential (client : Client) (start : Traffic) (moves : List Move) : Prop :=
  Throughout client InTurn start moves

instance (client : Client) (start : Traffic) (moves : List Move) :
    Decidable (Sequential client start moves) :=
  decidableThroughout client InTurn start moves

/-- The calls of a run follow their requests one after the other, each from the
cell that it has found, and all but the last are done. -/
structure Paced (client : Client) (valid : String) (start : Traffic)
    (moves : List Move) (traffic : Traffic) (found : Nat → TokenCell) : Prop where
  jar : traffic.jar = start.jar
  first : found 0 = start.cell
  current : found traffic.calls.length = traffic.cell
  calls : ∀ {index call stage}, traffic.calls[index]? = some ⟨call, stage⟩ →
    call.Sound client ∧
      Lone client valid start.jar (found index).token? call
        ((trail client start moves index).filterMap Stage.asked?)
        (((trail client start moves index).filterMap Stage.launched?).map
          Prod.fst)
        (found (index + 1)) stage
  done : ∀ {index call stage}, traffic.calls[index]? = some ⟨call, stage⟩ →
    index + 1 < traffic.calls.length → ∃ outcome, stage = .done outcome

variable {client : Client} {valid : String} {start traffic next : Traffic}
  {moves : List Move} {move : Move} {found : Nat → TokenCell} {call : Call}
  {index : Nat}

/-! ## Steps -/

private theorem done_of_outcome? {stage : Stage}
    (reached : stage.outcome?.isSome = true) :
    ∃ outcome, stage = .done outcome := by
  cases stage with
  | done outcome => exact ⟨outcome, rfl⟩
  | asked | inFlight | ended => cases reached

/-- A call that is not the one of the moment keeps what it has found and left
behind. -/
theorem Paced.kept {stage : Stage} {last : Nat} {cell : TokenCell}
    (ran : run? client start moves = some traffic)
    (paced : Paced client valid start moves traffic found)
    (taken : step client traffic move = some next)
    (other : traffic.mover move ≠ some index)
    (here : traffic.calls[index]? = some ⟨call, stage⟩)
    (earlier : index + 1 < last) :
    call.Sound client ∧
      Lone client valid start.jar (Function.update found last cell index).token?
        call
        ((trail client start (moves ++ [move]) index).filterMap Stage.asked?)
        (((trail client start (moves ++ [move]) index).filterMap
          Stage.launched?).map Prod.fst)
        (Function.update found last cell (index + 1)) stage := by
  rw [trail_concat_other ran taken other,
    Function.update_of_ne (by omega : index ≠ last),
    Function.update_of_ne (by omega : index + 1 ≠ last)]
  exact paced.calls here

theorem Paced.begun {what : Wait}
    (ran : run? client start moves = some traffic)
    (charted : Charted client start moves traffic)
    (paced : Paced client valid start moves traffic found)
    (inTurn : InTurn traffic (.begin call)) (sound : call.Sound client)
    (taken : step client traffic (.begin call) = some next)
    (jar : next.jar = traffic.jar)
    (calls : next.calls =
      traffic.calls ++ [⟨call, .asked what traffic.now⟩]) :
    Paced client valid start (moves ++ [.begin call]) next
      (Function.update found (traffic.calls.length + 1) next.cell) := by
  have length : next.calls.length = traffic.calls.length + 1 := by
    rw [calls, List.length_append, List.length_singleton]
  refine ⟨jar.trans paced.jar, ?_, ?_, ?_, ?_⟩
  · rw [Function.update_of_ne (by omega)]
    exact paced.first
  · rw [length, Function.update_self]
  · intro index other stage here
    cases stage_origin taken here with
    | kept different before =>
        have inside := (List.getElem?_eq_some_iff.mp before).1
        exact paced.kept ran taken different before (by omega)
    | begun begins absent mover attempted =>
        cases begins
        cases mover
        -- the new call finds the cell as the latest one has left it
        rw [trail_concat_mover ran taken rfl here, charted.absent _ absent,
          Function.update_self, Function.update_of_ne (by omega),
          paced.current]
        rw [paced.jar] at attempted
        exact ⟨sound, .begun sound attempted⟩
    | moved mover before step =>
        cases mover
        simp at before
  · intro index other stage here earlier
    cases stage_origin taken here with
    | kept different before =>
        exact done_of_outcome? (inTurn rfl _ (List.mem_of_getElem? before))
    | begun begins absent mover attempted =>
        cases mover
        omega
    | moved mover before step =>
        cases mover
        simp at before

theorem Paced.last {stage after : Stage} {jar : Http.CookieJar}
    {cell : TokenCell} (paced : Paced client valid start moves traffic found)
    (here : traffic.calls[index]? = some ⟨call, stage⟩)
    (step : StageStep client traffic call index move stage jar cell after) :
    index + 1 = traffic.calls.length := by
  have inside := (List.getElem?_eq_some_iff.mp here).1
  by_contra earlier
  obtain ⟨outcome, rfl⟩ := paced.done here (by omega)
  cases step

theorem Paced.moved {stage after : Stage} (equipped : Equipped client)
    (ran : run? client start moves = some traffic)
    (paced : Paced client valid start moves traffic found)
    (honest : Honest client valid traffic move)
    (taken : step client traffic move = some next)
    (mover : traffic.mover move = some index)
    (here : traffic.calls[index]? = some ⟨call, stage⟩)
    (step : StageStep client traffic call index move stage next.jar next.cell
      after)
    (calls : next.calls = traffic.calls.set index ⟨call, after⟩) :
    Paced client valid start (moves ++ [move]) next
      (Function.update found traffic.calls.length next.cell) := by
  -- the call that moves is the last one, so what it leaves behind is the cell of
  -- the moment and nobody has found it yet
  have last := paced.last here step
  have length : next.calls.length = traffic.calls.length := by
    rw [calls, List.length_set]
  obtain ⟨sound, lone⟩ := paced.calls here
  rw [last, paced.current, ← paced.jar] at lone
  obtain ⟨jar, loneAfter⟩ := lone.step equipped sound honest here step
  rw [paced.jar] at loneAfter
  refine ⟨jar.trans paced.jar, ?_, ?_, ?_, ?_⟩
  · rw [Function.update_of_ne (by omega)]
    exact paced.first
  · rw [length, Function.update_self]
  · intro other otherCall otherStage there
    cases stage_origin taken there with
    | kept different before =>
        have inside := (List.getElem?_eq_some_iff.mp before).1
        have apart : other ≠ index := by
          rintro rfl
          exact different mover
        exact paced.kept ran taken different before (by omega)
    | begun begins absent otherMover attempted =>
        cases mover.symm.trans otherMover
        cases here.symm.trans absent
    | moved otherMover before otherStep =>
        cases mover.symm.trans otherMover
        rw [calls, List.getElem?_set_self (by omega)] at there
        cases there
        rw [trail_concat_mover ran taken mover (by
            rw [calls, List.getElem?_set_self (by omega)]),
          filterMap_concat, filterMap_concat, List.map_append, last,
          Function.update_self, Function.update_of_ne (by omega)]
        exact ⟨sound, loneAfter⟩
  · intro other otherCall otherStage there earlier
    rw [calls, List.getElem?_set_ne (by omega)] at there
    exact paced.done there (by omega)

theorem Paced.passed {duration : Nat}
    (ran : run? client start moves = some traffic)
    (paced : Paced client valid start moves traffic found)
    (taken : step client traffic (.pass duration) = some next)
    (cell : next.cell = traffic.cell) (jar : next.jar = traffic.jar)
    (calls : next.calls = traffic.calls) :
    Paced client valid start (moves ++ [.pass duration]) next found := by
  refine ⟨jar.trans paced.jar, paced.first, ?_, ?_, ?_⟩
  · rw [calls, cell, paced.current]
  · intro index call stage here
    rw [trail_concat_other ran taken (by simp [mover])]
    exact paced.calls (calls ▸ here)
  · intro index call stage here earlier
    rw [calls] at here earlier
    exact paced.done here earlier

theorem Paced.step (equipped : Equipped client)
    (ran : run? client start moves = some traffic)
    (charted : Charted client start moves traffic)
    (paced : Paced client valid start moves traffic found)
    (inTurn : InTurn traffic move) (honest : Honest client valid traffic move)
    (sound : move.IsSound client)
    (taken : step client traffic move = some next) :
    ∃ found, Paced client valid start (moves ++ [move]) next found := by
  cases step_stepped taken with
  | begun attempted jar calls =>
      exact ⟨_, paced.begun ran charted inTurn sound taken jar calls⟩
  | moved mover here step calls =>
      exact ⟨_, paced.moved equipped ran honest taken mover here step calls⟩
  | passed cell jar calls =>
      exact ⟨_, paced.passed ran taken cell jar calls⟩

theorem run_paced {cell : TokenCell} {jar : Http.CookieJar}
    (equipped : Equipped client) (sound : ∀ move ∈ moves, move.IsSound client)
    (obeys : Obeys client valid (initial cell jar) moves)
    (sequential : Sequential client (initial cell jar) moves)
    (ran : run? client (initial cell jar) moves = some traffic) :
    ∃ found, Paced client valid (initial cell jar) moves traffic found := by
  refine run_induction (fun moves traffic =>
    (∀ move ∈ moves, move.IsSound client) →
      Obeys client valid (initial cell jar) moves →
        Sequential client (initial cell jar) moves →
          ∃ found, Paced client valid (initial cell jar) moves traffic found)
    ?_ ?_ ran sound obeys sequential
  · intro _ _ _
    refine ⟨fun _ => cell, rfl, rfl, rfl, ?_, ?_⟩ <;>
      intro index call stage here <;> cases here
  · intro moves traffic move next ran paced taken sound obeys sequential
    obtain ⟨obeyed, honest⟩ := obeys_concat obeys ran
    obtain ⟨earlier, inTurn⟩ := (throughout_concat_iff ran).mp sequential
    have soundBefore : ∀ move ∈ moves, move.IsSound client :=
      fun other member => sound other (List.mem_append_left _ member)
    obtain ⟨found, paced⟩ := paced soundBefore obeyed earlier
    exact paced.step equipped ran (run_charted ran) inTurn honest
      (sound move (by simp)) taken

theorem carries_of_launched {asks : List Wait}
    {launches : List (Wait × Http.Request)} {ends : List (Wait × Ending)}
    {stage : Stage} {attempt : Attempt} {token : String}
    {request : Http.Request} (sound : call.Sound client)
    (transported : Transported client call asks launches ends stage)
    (launched : (.answer attempt
      (call.headersWith client.settings (some token)), request) ∈ launches) :
    request.Carries client.settings token := by
  obtain ⟨jar, composed⟩ := transported.composed _ launched
  exact carries_of_composed sound composed

/-! ## One write -/

theorem sequential_of_single {cell : TokenCell} {jar : Http.CookieJar}
    (ran : run? client (initial cell jar) moves = some traffic)
    (single : traffic.calls.length ≤ 1) :
    Sequential client (initial cell jar) moves := by
  refine run_induction (fun moves traffic => traffic.calls.length ≤ 1 →
    Sequential client (initial cell jar) moves) (fun _ => trivial) ?_ ran single
  intro moves traffic move next ran earlier taken single
  have inTurn : traffic.calls.length ≤ 1 ∧ InTurn traffic move := by
    cases step_stepped taken with
    | begun attempted jar calls =>
        rw [calls, List.length_append, List.length_singleton] at single
        refine ⟨by omega, ?_⟩
        intro _ entry member
        have := List.length_pos_of_mem member
        omega
    | moved mover here step calls =>
        rw [calls, List.length_set] at single
        refine ⟨single, ?_⟩
        generalize next.jar = jar, next.cell = cell at step
        cases step <;> intro begins <;> cases begins
    | passed cell jar calls =>
        rw [calls] at single
        exact ⟨single, fun begins => by cases begins⟩
  exact (throughout_concat_iff ran).mpr ⟨earlier inTurn.1, inTurn.2⟩

/-- What a write on its own comes to, by what it finds in the cell and what it
asks for and has sent. -/
structure Refreshes (client : Client) (valid : String) (start : Traffic)
    (call : Call) (asks : List Wait) (launches : List (Wait × Http.Request))
    (outcome : Outcome) : Prop where
  tokenRequests : asks.countP Wait.fetches ≤ 1
  /-- It is turned down for good only after two different outdated tokens, the
  one of the cell and the one of the cookie. -/
  accepted : (¬∃ held other, BothOutdated valid start.cell.token?
      (client.offered start.jar) held other) →
    ¬Call.FailsAs outcome .tokenRejected
  resent : (¬∃ held other, BothOutdated valid start.cell.token?
      (client.offered start.jar) held other) →
    ∀ {rejected headers request},
      (.answer (.second rejected) headers, request) ∈ launches →
        request.Carries client.settings valid
  /-- These two are tried one after the other, and no token is asked for. -/
  defeated : ∀ {held other}, BothOutdated valid start.cell.token?
      (client.offered start.jar) held other →
    launches.map Prod.fst = asks →
      Call.FailsAs outcome .tokenRejected ∧
        asks = [.answer .first (call.headersWith client.settings (some held)),
          .answer (.second (some held))
            (call.headersWith client.settings (some other))]
  /-- All that it asks for is sent, or it raises because the last of it cannot be
  put together. -/
  sent : launches.map Prod.fst = asks ∨
    ∃ what failure, asks.getLast? = some what ∧
      Unfit client start.jar call what failure ∧ outcome = .error failure

/-- A write on its own is refreshed, unless two different tokens are outdated. -/
theorem run_refreshes {cell : TokenCell} {jar : Http.CookieJar}
    {outcome : Outcome} (equipped : Equipped client)
    (sound : ∀ move ∈ moves, move.IsSound client)
    (obeys : Obeys client valid (initial cell jar) moves)
    (ran : run? client (initial cell jar) moves = some traffic)
    (alone : traffic.calls = [⟨call, .done outcome⟩]) :
    Refreshes client valid (initial cell jar) call
      ((trail client (initial cell jar) moves 0).filterMap Stage.asked?)
      ((trail client (initial cell jar) moves 0).filterMap Stage.launched?)
      outcome := by
  have sequential : Sequential client (initial cell jar) moves :=
    sequential_of_single ran (by rw [alone]; exact Nat.le_refl 1)
  obtain ⟨found, paced⟩ := run_paced equipped sound obeys sequential ran
  have here : traffic.calls[0]? = some ⟨call, .done outcome⟩ := by
    rw [alone]
    rfl
  obtain ⟨soundCall, lone⟩ := paced.calls here
  rw [paced.first] at lone
  have transported := course_transported (run_course ran here)
  exact
    { tokenRequests := lone.tokenRequests
      accepted := fun single rejected => single (lone.rejected_cases rejected)
      resent := by
        intro single rejected headers request launched
        have asked := transported.underway.sublist.subset
          (List.mem_map_of_mem launched)
        rcases lone.resent asked with rfl | both
        · exact carries_of_launched soundCall transported launched
        · exact absurd both single
      defeated := fun both sent => lone.defeated both sent
      sent := lone.done_cases }

theorem calls_eq_single {cell : TokenCell} {jar : Http.CookieJar} {stage : Stage}
    (ran : run? client (initial cell jar) moves = some traffic)
    (begun : moves.filterMap begun? = [call])
    (reached : traffic.stage? 0 = some stage) :
    traffic.calls = [⟨call, stage⟩] := by
  have first := run_found ran (by rw [begun]; rfl) reached
  have length : traffic.calls.length = 1 := by
    rw [← List.length_map OpenCall.call, run_calls ran, begun, List.length_singleton]
  obtain ⟨entry, calls⟩ := List.length_eq_one_iff.mp length
  rw [calls] at first ⊢
  cases first
  rfl

theorem run_refreshes_stale : ∃ traffic outcome,
    run? Sample.client (initial .empty Sample.staleJar)
        (Sample.exchanges 0 [Sample.turnedDown, Sample.issuing, Sample.fine]) =
          some traffic ∧
      traffic.calls = [⟨Sample.write, .done outcome⟩] ∧
      ¬Call.FailsAs outcome .tokenRejected ∧
      Refreshes Sample.client "v" (initial .empty Sample.staleJar) Sample.write
        ((trail Sample.client (initial .empty Sample.staleJar)
          (Sample.exchanges 0 [Sample.turnedDown, Sample.issuing, Sample.fine])
          0).filterMap Stage.asked?)
        ((trail Sample.client (initial .empty Sample.staleJar)
          (Sample.exchanges 0 [Sample.turnedDown, Sample.issuing, Sample.fine])
          0).filterMap Stage.launched?)
        outcome := by
  have completes : (run? Sample.client (initial .empty Sample.staleJar)
      (Sample.exchanges 0
        [Sample.turnedDown, Sample.issuing, Sample.fine])).any (fun traffic =>
          ((traffic.stage? 0).bind Stage.outcome?).isSome) = true := by
    decide +kernel
  obtain ⟨traffic, ran, reached⟩ := (Option.any_eq_true _ _).mp completes
  obtain ⟨outcome, reached⟩ := Option.isSome_iff_exists.mp reached
  have alone := calls_eq_single ran rfl (outcome?_eq_some_iff.mp reached)
  have obeys : Obeys Sample.client "v" (initial .empty Sample.staleJar)
      (Sample.exchanges 0
        [Sample.turnedDown, Sample.issuing, Sample.fine]) := by
    decide +kernel
  have refreshes := run_refreshes sample_equipped
    (by simp [Sample.exchanges, Move.IsSound, sample_sound]) obeys ran alone
  refine ⟨traffic, outcome, ran, alone, refreshes.accepted ?_, refreshes⟩
  rintro ⟨held, other, both⟩
  cases both.found

/-- A write is turned down for good by an honest server when the cell and the
cookie hold two different outdated tokens: it is sent again with the one of the
cookie. -/
theorem stale_cookie_defeats_refresh : ∃ traffic outcome,
    run? Sample.client (initial (.holding "old" .cached) Sample.staleJar)
        (Sample.exchanges 0 [Sample.turnedDown, Sample.turnedDown]) =
          some traffic ∧
      Obeys Sample.client "v" (initial (.holding "old" .cached) Sample.staleJar)
        (Sample.exchanges 0 [Sample.turnedDown, Sample.turnedDown]) ∧
      traffic.calls = [⟨Sample.write, .done outcome⟩] ∧
      Call.FailsAs outcome .tokenRejected ∧
      traffic.cell = .holding "stale" .cookie := by
  obtain ⟨traffic, outcome, ran, cell, reached, fails⟩ := exists_rejected_of_any
    (run? Sample.client (initial (.holding "old" .cached) Sample.staleJar)
      (Sample.exchanges 0 [Sample.turnedDown, Sample.turnedDown]))
    (fun traffic => traffic.cell = .holding "stale" .cookie) 0
    (by decide +kernel)
  exact ⟨traffic, outcome, ran, by decide +kernel,
    calls_eq_single ran rfl reached, fails, cell⟩

/-! ## Many writes -/

/-- A call is done, and all that it has asked for has been sent. -/
def Completed (client : Client) (start : Traffic) (moves : List Move)
    (traffic : Traffic) (index : Nat) : Prop :=
  ∃ call outcome, traffic.calls[index]? = some ⟨call, .done outcome⟩ ∧
    ((trail client start moves index).filterMap Stage.launched?).map Prod.fst =
      (trail client start moves index).filterMap Stage.asked?

theorem Paced.carried (Kept : Option String → Prop)
    (paced : Paced client valid start moves traffic found)
    (keep : ∀ {held call asks launched cell stage},
      Lone client valid start.jar held call asks launched cell stage →
        Kept held → Kept cell.token?)
    {first last : Nat} (ordered : first ≤ last)
    (inside : last ≤ traffic.calls.length) (kept : Kept (found first).token?) :
    Kept (found last).token? := by
  induction last, ordered using Nat.le_induction with
  | base => exact kept
  | succ index ordered ih =>
      obtain ⟨⟨call, stage⟩, here⟩ : ∃ entry, traffic.calls[index]? = some entry :=
        ⟨_, List.getElem?_eq_getElem (by omega)⟩
      exact keep (paced.calls here).2 (ih (by omega))

theorem Paced.recovered {last : Nat}
    (paced : Paced client valid start moves traffic found)
    (complete : Completed client start moves traffic index)
    (later : index < last) (inside : last ≤ traffic.calls.length) :
    Recovered valid (client.offered start.jar) (found last).token? := by
  obtain ⟨call, outcome, here, sent⟩ := complete
  have lone := (paced.calls here).2
  refine paced.carried (Recovered valid (client.offered start.jar))
    (fun lone => lone.recovered) later inside ?_
  rcases lone.sent_cases sent with ⟨held, _⟩ | ⟨_, other, both, held, _⟩
  · rw [held]
    exact recovered_of_valid valid _
  · rw [held]
    intro token same
    cases same
    exact .inr both.offered

theorem Paced.holds {first second last : Nat}
    (paced : Paced client valid start moves traffic found)
    (firstComplete : Completed client start moves traffic first)
    (secondComplete : Completed client start moves traffic second)
    (ordered : first < second) (later : second < last)
    (inside : last ≤ traffic.calls.length) :
    (found last).token? = some valid := by
  have recovered := paced.recovered firstComplete ordered (by omega)
  obtain ⟨call, outcome, here, sent⟩ := secondComplete
  have lone := (paced.calls here).2
  refine paced.carried (· = some valid) ?_ later inside ?_
  · rintro _ call asks launched cell stage lone rfl
    exact lone.of_valid.2
  · rcases lone.sent_cases sent with ⟨held, _⟩ | ⟨_, other, both, _⟩
    · exact held
    -- a recovered cell holds no outdated token beside that of the cookie
    · exact absurd recovered both.not_recovered

/-- What a sequence of writes comes to. -/
structure Stabilised (client : Client) (valid : String) (start : Traffic)
    (moves : List Move) (traffic : Traffic) : Prop where
  held : ∀ {first second : Nat}, first < second →
    Completed client start moves traffic first →
    Completed client start moves traffic second →
      traffic.cell.token? = some valid
  /-- A write after two complete ones asks for one transmission with the valid
  token and for nothing else. -/
  later : ∀ {first second index : Nat} {call stage}, first < second →
    second < index →
    Completed client start moves traffic first →
    Completed client start moves traffic second →
    traffic.calls[index]? = some ⟨call, stage⟩ →
      (trail client start moves index).filterMap Stage.asked? =
          [.answer .first (call.headersWith client.settings (some valid))] ∧
        ∀ launch ∈ (trail client start moves index).filterMap Stage.launched?,
          launch.2.Carries client.settings valid
  rejectedOnce : ∀ {first second : Nat} {firstCall secondCall firstOutcome
      secondOutcome},
    traffic.calls[first]? = some ⟨firstCall, .done firstOutcome⟩ →
    Call.FailsAs firstOutcome .tokenRejected →
    traffic.calls[second]? = some ⟨secondCall, .done secondOutcome⟩ →
    Call.FailsAs secondOutcome .tokenRejected →
      first = second
  /-- A write that is done is complete, or it has raised because its last request
  could not be put together. -/
  complete : ∀ {index : Nat} {call outcome},
    traffic.calls[index]? = some ⟨call, .done outcome⟩ →
      Completed client start moves traffic index ∨
      ∃ what failure,
        ((trail client start moves index).filterMap Stage.asked?).getLast? =
            some what ∧
          Unfit client start.jar call what failure ∧ outcome = .error failure

/-- A write that is turned down for good is complete, and has not found a
recovered cell. -/
theorem Paced.rejected {outcome : Outcome}
    (paced : Paced client valid start moves traffic found)
    (here : traffic.calls[index]? = some ⟨call, .done outcome⟩)
    (rejected : Call.FailsAs outcome .tokenRejected) :
    Completed client start moves traffic index ∧
      ¬Recovered valid (client.offered start.jar) (found index).token? := by
  have lone := (paced.calls here).2
  obtain ⟨held, other, both⟩ := lone.rejected_cases rejected
  refine ⟨?_, both.not_recovered⟩
  rcases lone.done_cases with sent | ⟨_, _, _, _, rfl⟩
  · exact ⟨call, outcome, here, sent⟩
  · simp [Call.FailsAs] at rejected

/-- Sequences of writes stabilise on the valid token. -/
theorem run_stabilises {cell : TokenCell} {jar : Http.CookieJar}
    (equipped : Equipped client) (sound : ∀ move ∈ moves, move.IsSound client)
    (obeys : Obeys client valid (initial cell jar) moves)
    (sequential : Sequential client (initial cell jar) moves)
    (ran : run? client (initial cell jar) moves = some traffic) :
    Stabilised client valid (initial cell jar) moves traffic := by
  obtain ⟨found, paced⟩ := run_paced equipped sound obeys sequential ran
  constructor
  · intro first second ordered firstComplete secondComplete
    obtain ⟨_, _, here, _⟩ := id secondComplete
    rw [← paced.current]
    exact paced.holds firstComplete secondComplete ordered
      (List.getElem?_eq_some_iff.mp here).1 (Nat.le_refl _)
  · intro first second index call stage ordered after firstComplete
      secondComplete here
    obtain ⟨soundCall, lone⟩ := paced.calls here
    rw [paced.holds firstComplete secondComplete ordered after
      (Nat.le_of_lt (List.getElem?_eq_some_iff.mp here).1)] at lone
    have asks := lone.of_valid.1
    refine ⟨asks, ?_⟩
    rintro ⟨what, request⟩ launched
    have transported := course_transported (run_course ran here)
    have asked := transported.underway.sublist.subset
      (List.mem_map_of_mem launched)
    rw [asks] at asked
    cases List.mem_singleton.mp asked
    exact carries_of_launched soundCall transported launched
  · intro first second firstCall secondCall firstOutcome secondOutcome
      firstHere firstRejected secondHere secondRejected
    obtain ⟨firstComplete, firstUnrecovered⟩ :=
      paced.rejected firstHere firstRejected
    obtain ⟨secondComplete, secondUnrecovered⟩ :=
      paced.rejected secondHere secondRejected
    have firstInside := (List.getElem?_eq_some_iff.mp firstHere).1
    have secondInside := (List.getElem?_eq_some_iff.mp secondHere).1
    rcases Nat.lt_trichotomy first second with ordered | same | ordered
    · exact absurd (paced.recovered firstComplete ordered (by omega))
        secondUnrecovered
    · exact same
    · exact absurd (paced.recovered secondComplete ordered (by omega))
        firstUnrecovered
  · intro index call outcome here
    rcases (paced.calls here).2.done_cases with sent | unfit
    · exact .inl ⟨call, outcome, here, sent⟩
    · exact .inr unfit

end Traffic

/-- Of three writes the first one finds two outdated tokens. -/
def Sample.threeWrites : List Move :=
  exchanges 0 [turnedDown, turnedDown] ++
    exchanges 1 [turnedDown, issuing, fine] ++ exchanges 2 [fine]

/-- Two writes are turned down twice each. -/
def Sample.rejectedWrites : List Move :=
  exchanges 0 [turnedDown, issuing, turnedDown] ++
    exchanges 1 [turnedDown, issuing, turnedDown]

/-- Two writes are turned down, and cannot ask for a token. -/
def Sample.unfitWrites : List Move :=
  exchanges 0 [turnedDown] ++ [.launch 0, .resume 0] ++
    exchanges 1 [turnedDown] ++ [.launch 1, .resume 1]

namespace Traffic

/-- Three writes stabilise after the first of them has been turned down. -/
theorem run_stabilises_outdated : ∃ traffic,
    run? Sample.client (initial (.holding "old" .cached) Sample.staleJar)
        Sample.threeWrites = some traffic ∧
      (∃ outcome, traffic.stage? 0 = some (.done outcome) ∧
        Call.FailsAs outcome .tokenRejected) ∧
      traffic.cell.token? = some "v" ∧
      Stabilised Sample.client "v"
        (initial (.holding "old" .cached) Sample.staleJar) Sample.threeWrites
        traffic := by
  obtain ⟨traffic, outcome, ran, held, reached, fails⟩ := exists_rejected_of_any
    (run? Sample.client (initial (.holding "old" .cached) Sample.staleJar)
      Sample.threeWrites)
    (fun traffic => traffic.cell.token? = some "v") 0 (by decide +kernel)
  have sound : ∀ move ∈ Sample.threeWrites, move.IsSound Sample.client := by
    simp [Sample.threeWrites, Sample.exchanges, Move.IsSound, sample_sound]
  exact ⟨traffic, ran, ⟨outcome, reached, fails⟩, held,
    run_stabilises sample_equipped sound (by decide +kernel) (by decide +kernel)
      ran⟩

/-- Without the two provisos a sequence of writes need not stabilise.  Under
credentials of the address every write is turned down for good; with a cookie
outside ASCII every write raises, and the cell is empty after the second one. -/
theorem writes_do_not_stabilise :
    (∃ traffic,
      run? Sample.credentialClient (initial (.holding "v" .cached) [])
          Sample.rejectedWrites = some traffic ∧
        Obeys Sample.credentialClient "v" (initial (.holding "v" .cached) [])
          Sample.rejectedWrites ∧
        Sequential Sample.credentialClient (initial (.holding "v" .cached) [])
          Sample.rejectedWrites ∧
        ∀ index < 2, ∃ outcome, traffic.stage? index = some (.done outcome) ∧
          Call.FailsAs outcome .tokenRejected) ∧
    ∃ traffic,
      run? Sample.client (initial .empty Sample.foreignJar)
          Sample.unfitWrites = some traffic ∧
        Obeys Sample.client "v" (initial .empty Sample.foreignJar)
          Sample.unfitWrites ∧
        Sequential Sample.client (initial .empty Sample.foreignJar)
          Sample.unfitWrites ∧
        (∀ index < 2, ∃ outcome, traffic.stage? index = some (.done outcome)) ∧
        traffic.cell.token? = none := by
  constructor
  · have rejected : (run? Sample.credentialClient
        (initial (.holding "v" .cached) []) Sample.rejectedWrites).any
          (fun traffic => ∀ index < 2,
            ((traffic.stage? index).bind Stage.outcome?).any fun outcome =>
              Call.FailsAs outcome .tokenRejected) = true := by
      decide +kernel
    obtain ⟨traffic, ran, rejected⟩ := (Option.any_eq_true _ _).mp rejected
    refine ⟨traffic, ran, by decide +kernel, by decide +kernel, ?_⟩
    intro index inside
    obtain ⟨outcome, reached, fails⟩ := (Option.any_eq_true _ _).mp
      (of_decide_eq_true rejected index inside)
    exact ⟨outcome, outcome?_eq_some_iff.mp reached, of_decide_eq_true fails⟩
  · have done : (run? Sample.client (initial .empty Sample.foreignJar)
        Sample.unfitWrites).any (fun traffic =>
          (∀ index < 2, ((traffic.stage? index).bind Stage.outcome?).isSome) ∧
            traffic.cell.token? = none) = true := by
      decide +kernel
    obtain ⟨traffic, ran, done⟩ := (Option.any_eq_true _ _).mp done
    obtain ⟨done, empty⟩ := of_decide_eq_true done
    refine ⟨traffic, ran, by decide +kernel, by decide +kernel, ?_, empty⟩
    intro index inside
    obtain ⟨outcome, reached⟩ := Option.isSome_iff_exists.mp (done index inside)
    exact ⟨outcome, outcome?_eq_some_iff.mp reached⟩

end Traffic

end AdminGate

import AdminGate.Proofs.Histories
import AdminGate.Proofs.Outcomes

/-!
# What a rejection leaves in the cell

A call can be turned down twice.  After the first time the rejected token is gone
from the cell.  After the second time the call returns at once and touches
nothing, so the rejected token is still there unless another call has taken it
out in the meantime.
-/

namespace AdminGate

theorem TokenCell.drop_token?_ne (cell : TokenCell) (token : String) :
    (cell.drop token).1.token? ≠ some token := by
  rw [drop_fst]
  split
  · simp
  · assumption

namespace Call

variable {call : Call} {settings : Settings} {jar : Http.CookieJar}
  {cell after : TokenCell} {attempt : Attempt} {what : Wait} {ending : Ending}
  {token : String}

theorem headersWith_inj {other : String}
    (same : call.headersWith settings (some token) =
      call.headersWith settings (some other)) : token = other := by
  have values := call.headersWith_values_token settings token
  rw [same, call.headersWith_values_token] at values
  exact (List.singleton_inj.mp values).symm

/-- An attempt does not put the token that it must not carry into the cell. -/
theorem Attempted.not_rejected
    (attempted : Attempted call settings jar cell attempt after what)
    (absent : cell.token? ≠ attempt.rejected) :
    after.token? ≠ attempt.rejected := by
  cases attempted with
  | reading reads => exact absent
  | ready writes found =>
      cases found with
      | held held allowed => exact absent
      | cookie unusable found notBlank allowed => exact allowed
  | unready writes found =>
      cases found
      exact absent

/-- A token with which a write is sent is in the cell at that moment, unless the
caller has set the field to it. -/
theorem Attempted.holds {sent : Attempt}
    (attempted : Attempted call settings jar cell attempt after
      (.answer sent (call.headersWith settings (some token))))
    (own : call.headersWith settings none ≠
      call.headersWith settings (some token)) :
    after.token? = some token := by
  generalize asked : Wait.answer sent
    (call.headersWith settings (some token)) = what at attempted
  cases attempted with
  | reading reads => exact absurd (Wait.answer.inj asked).2.symm own
  | ready writes found =>
      obtain rfl := headersWith_inj (Wait.answer.inj asked).2
      cases found with
      | held held allowed => exact held
      | cookie unusable found notBlank allowed => rfl
  | unready writes found => cases asked

theorem Resumed.holds {sent : Attempt}
    (resumed : Resumed call settings jar cell what ending after
      (.wait (.answer sent (call.headersWith settings (some token)))))
    (own : call.headersWith settings none ≠
      call.headersWith settings (some token)) :
    after.token? = some token := by
  generalize asked : Next.wait (.answer sent
    (call.headersWith settings (some token))) = next at resumed
  cases resumed with
  | issued issues =>
      obtain rfl := headersWith_inj (Wait.answer.inj (Next.wait.inj asked)).2
      rfl
  | unissued | unfetched =>
      exact absurd (Wait.answer.inj (Next.wait.inj asked)).2.symm own
  | retried rejects named attempted =>
      cases Next.wait.inj asked
      exact attempted.holds own
  | late | finished | unnamed | rejectedAgain | unreachable | faulted =>
      cases asked

theorem Resumed.of_second {rejected : Option String} {headers : Http.Headers}
    {next : Next}
    (resumed : Resumed call settings jar cell
      (.answer (.second rejected) headers) ending after next) :
    after = cell ∧ ∃ outcome, next = .done outcome := by
  cases resumed with
  | late | finished | rejectedAgain | unreachable | faulted =>
      exact ⟨rfl, _, rfl⟩

/-- The rejected token is gone when a call goes on after its first
transmission. -/
theorem Resumed.drops {headers : Http.Headers} {response : Http.Response}
    {next : Next}
    (resumed : Resumed call settings jar cell (.answer .first headers)
      (.answered response) after next)
    (rejects : Answer.Rejects response)
    (named : headers.get? settings.tokenHeader = .ok (some token)) :
    after.token? ≠ some token := by
  obtain ⟨what, _, attempted⟩ := resumed.retries rejects named
  exact attempted.not_rejected (cell.drop_token?_ne token)

end Call

namespace Traffic

variable {client : Client} {start traffic next : Traffic} {moves : List Move}
  {move : Move} {index : Nat} {call : Call} {asks : List Wait}
  {ends : List (Wait × Ending)} {rejected : Option String} {token : String}

/-- After a call has asked for this, a move of another call has taken the token
out of the cell. -/
inductive TakenOut (client : Client) (start : Traffic) (index : Nat)
    (asked : Wait) (token : String) : List Move → Prop where
  | now {earlier : List Move} {move : Move} {before after : Traffic}
      (ran : run? client start earlier = some before)
      (member :
        asked ∈ (trail client start earlier index).filterMap Stage.asked?)
      (taken : step client before move = some after)
      (other : before.mover move ≠ some index)
      (held : before.cell.token? = some token)
      (gone : after.cell.token? ≠ some token) :
      TakenOut client start index asked token (earlier ++ [move])
  | before {earlier : List Move} {move : Move}
      (takenOut : TakenOut client start index asked token earlier) :
      TakenOut client start index asked token (earlier ++ [move])

/-- Once a call has asked for its second transmission, it leaves the cell
alone. -/
theorem Recorded.second_keeps {headers : Http.Headers} {stage after : Stage}
    {jar : Http.CookieJar} {cell : TokenCell}
    (recorded : Recorded call client.settings asks ends stage)
    (member : .answer (.second rejected) headers ∈ asks)
    (step : StageStep client traffic call index move stage jar cell after) :
    cell = traffic.cell := by
  cases step with
  | launched | unfit | answered | failed | windowless | expired => rfl
  | resumed resumed =>
      cases recorded with
      | ended history =>
          -- everything that is asked for earlier belongs to the first attempt
          rcases List.mem_append.mp member with earlier | last
          · obtain ⟨⟨_, ended⟩, inside, rfl⟩ := List.mem_map.mp earlier
            cases (history.rejects_of_mem inside).1
          · cases List.mem_singleton.mp last
            exact resumed.of_second.1

theorem stageStep_holds {attempt : Attempt} {stage after : Stage}
    {jar : Http.CookieJar} {cell : TokenCell}
    (own : call.headersWith client.settings none ≠
      call.headersWith client.settings (some token))
    (step : StageStep client traffic call index move stage jar cell after)
    (asks : after.asked? = some (.answer attempt
      (call.headersWith client.settings (some token)))) :
    cell.token? = some token := by
  cases step with
  | launched | unfit | answered | failed | windowless | expired => cases asks
  | resumed resumed =>
      rename_i what ending next
      cases next with
      | done outcome => cases asks
      | wait asked =>
          cases Option.some.inj asks
          exact resumed.holds own

/-- The token of a second transmission is in the cell, or another call has taken
it out since. -/
def Leftover (client : Client) (start : Traffic) (moves : List Move)
    (traffic : Traffic) (index : Nat) (call : Call) : Prop :=
  ∀ {rejected token},
    .answer (.second rejected)
        (call.headersWith client.settings (some token)) ∈
      (trail client start moves index).filterMap Stage.asked? →
    call.headersWith client.settings none ≠
      call.headersWith client.settings (some token) →
        traffic.cell.token? = some token ∨
          TakenOut client start index (.answer (.second rejected)
            (call.headersWith client.settings (some token))) token moves

theorem Leftover.step {stage : Stage}
    (ran : run? client start moves = some traffic)
    (charted : Charted client start moves traffic)
    (leftover : ∀ {stage}, traffic.calls[index]? = some ⟨call, stage⟩ →
      Leftover client start moves traffic index call)
    (taken : step client traffic move = some next)
    (here : next.calls[index]? = some ⟨call, stage⟩) :
    Leftover client start (moves ++ [move]) next index call := by
  intro rejected token member own
  cases stage_origin taken here with
  | kept other before =>
      rw [trail_concat_other ran taken other] at member
      rcases leftover before member own with held | takenOut
      -- only here can the token go, and the move is that of another call
      · by_cases gone : next.cell.token? = some token
        · exact .inl gone
        · exact .inr (.now ran member taken other held gone)
      · exact .inr takenOut.before
  | begun begins absent mover attempted =>
      rw [trail_concat_mover ran taken mover here, charted.absent index absent]
        at member
      cases List.mem_singleton.mp member
      cases attempted.asks
  | moved mover before step =>
      rw [trail_concat_mover ran taken mover here, filterMap_concat] at member
      rcases List.mem_append.mp member with earlier | now
      · have recorded := course_recorded (charted.course index call _ before)
        rw [recorded.second_keeps earlier step]
        exact (leftover before earlier own).imp_right .before
      · exact .inl (stageStep_holds own step (Option.mem_toList.mp now))

/-- What the two rejections of a call do to the cell. -/
structure RejectionExits (client : Client) (start : Traffic) (moves : List Move)
    (traffic : Traffic) (index : Nat) (call : Call) : Prop where
  first : ∀ {headers response token next},
    traffic.calls[index]? =
      some ⟨call, .ended (.answer .first headers) (.answered response)⟩ →
    Answer.Rejects response →
    headers.get? client.settings.tokenHeader = .ok (some token) →
    Traffic.step client traffic (.resume index) = some next →
      next.cell.token? ≠ some token
  second : ∀ {rejected headers response next},
    traffic.calls[index]? = some
      ⟨call, .ended (.answer (.second rejected) headers) (.answered response)⟩ →
    Answer.Rejects response →
    Traffic.step client traffic (.resume index) = some next →
      next.cell = traffic.cell ∧ ∃ outcome,
        next.stage? index = some (.done outcome) ∧
        Call.FailsAs outcome .tokenRejected
  /-- The token of the second transmission, if it was not set by the caller, is
  in the cell, or another call has taken it out since. -/
  leftover : Leftover client start moves traffic index call

/-- The two rejections of every call of every run. -/
theorem run_rejectionExits {cell : TokenCell} {jar : Http.CookieJar}
    {stage : Stage} (ran : run? client (initial cell jar) moves = some traffic)
    (here : traffic.calls[index]? = some ⟨call, stage⟩) :
    RejectionExits client (initial cell jar) moves traffic index call := by
  constructor
  · intro headers response token next here rejects named taken
    obtain ⟨after, resumed, _⟩ := resumed_of_step taken here
    exact resumed.drops rejects named
  · intro rejected headers response next here rejects taken
    obtain ⟨after, resumed, stage⟩ := resumed_of_step taken here
    obtain ⟨cell, outcome, rfl, fails⟩ :=
      resumed.rejected_second ⟨response, rfl, rejects⟩
    exact ⟨cell, outcome, stage, fails⟩
  · refine run_induction (fun moves traffic => ∀ {stage},
      traffic.calls[index]? = some ⟨call, stage⟩ →
        Leftover client (initial cell jar) moves traffic index call)
      ?_ ?_ ran here
    · intro stage here
      cases here
    · intro moves traffic move next ran leftover taken stage here
      exact Leftover.step ran (run_charted ran) leftover taken here

/-- A write is turned down with a stale cookie and again with the token that it
gets. -/
theorem run_rejectionExits_twice : ∃ traffic outcome,
    run? Sample.client (initial .empty Sample.staleJar) Sample.rejectedWrite =
        some traffic ∧
      traffic.calls[0]? = some ⟨Sample.write, .done outcome⟩ ∧
      Call.FailsAs outcome .tokenRejected ∧
      RejectionExits Sample.client (initial .empty Sample.staleJar)
        Sample.rejectedWrite traffic 0 Sample.write := by
  obtain ⟨traffic, outcome, ran, _, reached, fails⟩ := exists_rejected_of_any
    (run? Sample.client (initial .empty Sample.staleJar) Sample.rejectedWrite)
    (fun _ => True) 0 (by decide +kernel)
  have here := run_found ran rfl reached
  exact ⟨traffic, outcome, ran, here, fails, run_rejectionExits ran here⟩

/-- A token that is turned down by the second answer survives the call, though no
other call is there to put it back. -/
theorem rejected_token_survives : ∃ traffic outcome,
    run? Sample.client (initial .empty Sample.staleJar) Sample.rejectedWrite =
        some traffic ∧
      traffic.calls.length = 1 ∧
      traffic.stage? 0 = some (.done outcome) ∧
      Call.FailsAs outcome .tokenRejected ∧
      .answer (.second (some "stale"))
          (Sample.write.headersWith Sample.client.settings (some "v")) ∈
        (trail Sample.client (initial .empty Sample.staleJar)
          Sample.rejectedWrite 0).filterMap Stage.asked? ∧
      traffic.cell = .holding "v" .serverIssued := by
  obtain ⟨traffic, outcome, ran, ⟨single, cell⟩, reached, fails⟩ :=
    exists_rejected_of_any
      (run? Sample.client (initial .empty Sample.staleJar) Sample.rejectedWrite)
      (fun traffic => traffic.calls.length = 1 ∧
        traffic.cell = .holding "v" .serverIssued) 0 (by decide +kernel)
  exact ⟨traffic, outcome, ran, single, reached, fails, by decide +kernel, cell⟩

end Traffic

end AdminGate

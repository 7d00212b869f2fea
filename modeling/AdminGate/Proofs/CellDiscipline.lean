import Mathlib.Logic.Relation
import AdminGate.Proofs.Runs

/-!
# The discipline of the token cell

Calls share one cell, and whoever writes last wins.  Nevertheless no refreshed
token is lost: a cookie enters an empty cell only, a rejection removes only the
token that the rejected request carried, and a call that is turned down looks at
the cell before it asks for another token.  Nothing lies between the removal and
that look, so the cell is empty whenever a call looks beyond it.
-/

namespace AdminGate

namespace TokenCell

/-- The cell holds a token that an attempt may carry. -/
def Offers (cell : TokenCell) (rejected : Option String) : Prop :=
  ∃ token, cell.token? = some token ∧ some token ≠ rejected

/-- A cell that has dropped what an attempt must not carry is empty or offers a
token. -/
theorem drop_offers_or_empty {cell : TokenCell} {rejected : Option String}
    (unusable : ¬(cell.drop (rejected.getD "")).1.Offers rejected) :
    (cell.drop (rejected.getD "")).1 = empty := by
  by_cases held : cell.token? = some (rejected.getD "")
  · exact drop_eq_empty held
  · rw [drop_eq_self held] at unusable ⊢
    apply eq_empty_of_token?_eq_none
    cases token : cell.token? with
    | none => rfl
    | some token' =>
        refine absurd ⟨token', token, ?_⟩ unusable
        rintro rfl
        exact held token

theorem remember_token? {cell after : TokenCell} {value : Json} {token : String}
    {provenance : Provenance}
    (kept : cell.remember value provenance = .ok (after, token)) :
    after = .holding token provenance ∧ token ≠ "" := by
  simp only [remember] at kept
  split at kept
  · cases kept
  · rename_i notBlank
    cases kept
    exact ⟨rfl, by simpa using notBlank⟩

theorem initial_token?_ne_blank {value : Json} {cell : TokenCell}
    (started : initial value = .ok cell) : cell.token? ≠ some "" := by
  unfold initial at started
  split at started
  · cases kept : TokenCell.empty.remember value .cached with
    | error cause =>
        rw [kept] at started
        cases started
    | ok result =>
        obtain ⟨after, token⟩ := result
        rw [kept] at started
        cases started
        obtain ⟨rfl, notBlank⟩ := remember_token? kept
        simpa using notBlank
  · cases started
    simp

end TokenCell

namespace Answer

theorem issuedToken?_ne_blank {response : Http.Response} {token : String}
    (issues : issuedToken? response = some token) : token ≠ "" := by
  simp only [issuedToken?, String.isEmpty_iff, Option.ite_none_left_eq_some,
    Option.some.injEq] at issues
  obtain ⟨notBlank, rfl⟩ := issues
  exact notBlank

end Answer

namespace Traffic

/-- A step starts an attempt of a call, which then finds this cell. -/
inductive Starts (client : Client) (traffic : Traffic) :
    Move → Call → Attempt → TokenCell → Prop where
  | first {call : Call} :
      Starts client traffic (.begin call) call .first traffic.cell
  | second {index : Nat} {call : Call} {headers : Http.Headers}
      {response : Http.Response} {rejected : Option String}
      (found : traffic.calls[index]? =
        some ⟨call, .ended (.answer .first headers) (.answered response)⟩)
      (rejects : Answer.Rejects response)
      (named : headers.get? client.settings.tokenHeader = .ok rejected) :
      Starts client traffic (.resume index) call (.second rejected)
        (traffic.cell.drop (rejected.getD "")).1

/-- The three ways in which a step changes the cell. -/
inductive CellChange (client : Client) (traffic : Traffic) (move : Move) :
    TokenCell → TokenCell → Prop where
  | cookie {call : Call} {attempt : Attempt} {value : String}
      (starts : Starts client traffic move call attempt .empty)
      (writes : call.descriptor.isRead = false)
      (found : traffic.jar.find client.settings.tokenCookie = .single value)
      (notBlank : Text.trimmed value ≠ "")
      (allowed : some (Text.trimmed value) ≠ attempt.rejected) :
      CellChange client traffic move .empty
        (.holding (Text.trimmed value) .cookie)
  | issued {index : Nat} {call : Call} {attempt : Attempt}
      {response : Http.Response} {token : String} {cell : TokenCell}
      (resumes : move = .resume index)
      (found : traffic.calls[index]? =
        some ⟨call, .ended (.token attempt) (.answered response)⟩)
      (issues : Answer.issuedToken? response = some token) :
      CellChange client traffic move cell (.holding token .serverIssued)
  | rejected {index : Nat} {call : Call} {headers : Http.Headers}
      {response : Http.Response} {token : String} {cell : TokenCell}
      (resumes : move = .resume index)
      (found : traffic.calls[index]? =
        some ⟨call, .ended (.answer .first headers) (.answered response)⟩)
      (rejects : Answer.Rejects response)
      (carried : headers.get? client.settings.tokenHeader = .ok (some token))
      (held : cell.token? = some token) :
      CellChange client traffic move cell .empty

/-- What holds of the cell whenever a step is taken. -/
structure CellDiscipline (client : Client) (traffic : Traffic) (move : Move)
    (next : Traffic) : Prop where
  /-- Every change is one of the three. -/
  changes : Relation.ReflTransGen (CellChange client traffic move)
    traffic.cell next.cell
  /-- An attempt that cannot use what the cell holds finds it empty. -/
  looksBeyondWhenEmpty : ∀ {call attempt cell},
    Starts client traffic move call attempt cell →
      ¬cell.Offers attempt.rejected → cell = .empty
  /-- A token is asked for only while the cell is empty. -/
  asksWhenEmpty : ∀ {index attempt since},
    traffic.mover move = some index →
      next.stage? index = some (.asked (.token attempt) since) →
        next.cell = .empty
  /-- A rejection leaves every token that the request did not carry. -/
  keepsOthers : ∀ {index call attempt headers response held},
    move = .resume index →
      traffic.calls[index]? =
        some ⟨call, .ended (.answer attempt headers) (.answered response)⟩ →
      Answer.Rejects response →
      traffic.cell.held = some held →
      headers.get? client.settings.tokenHeader ≠ .ok (some held.text) →
        next.cell = traffic.cell
  /-- A write that is turned down while the cell holds another token is sent
  again with that one, and no token is asked for. -/
  resendsHeld : ∀ {index call headers response rejected token},
    move = .resume index →
      traffic.calls[index]? =
        some ⟨call, .ended (.answer .first headers) (.answered response)⟩ →
      Answer.Rejects response →
      call.descriptor.isRead = false →
      headers.get? client.settings.tokenHeader = .ok (some rejected) →
      traffic.cell.token? = some token →
      token ≠ rejected →
        ∃ resent, next.stage? index =
            some (.asked (.answer (.second (some rejected)) resent)
              traffic.now) ∧
          resent.get? client.settings.tokenHeader = .ok (some token)

variable {client : Client} {traffic next : Traffic} {move : Move}

theorem starts_looksBeyondWhenEmpty {call : Call} {attempt : Attempt}
    {cell : TokenCell} (starts : Starts client traffic move call attempt cell)
    (unusable : ¬cell.Offers attempt.rejected) : cell = .empty := by
  cases starts with
  | first =>
      apply TokenCell.eq_empty_of_token?_eq_none
      cases held : traffic.cell.token? with
      | none => rfl
      | some token => exact absurd ⟨token, held, by simp [Attempt.rejected]⟩ unusable
  | second found rejects named => exact TokenCell.drop_offers_or_empty unusable

private theorem not_offers {cell : TokenCell} {rejected : Option String}
    (unusable : ∀ token, cell.token? = some token → some token = rejected) :
    ¬cell.Offers rejected := by
  rintro ⟨token, held, allowed⟩
  exact allowed (unusable token held)

theorem attempted_changes {call : Call} {attempt : Attempt}
    {cell after : TokenCell} {what : Wait}
    (starts : Starts client traffic move call attempt cell)
    (attempted : call.Attempted client.settings traffic.jar cell attempt after
      what) :
    Relation.ReflTransGen (CellChange client traffic move) cell after := by
  cases attempted with
  | reading reads => exact .refl
  | ready writes found =>
      cases found with
      | held held allowed => exact .refl
      | cookie unusable found notBlank allowed =>
          obtain rfl := starts_looksBeyondWhenEmpty starts (not_offers unusable)
          exact .single (.cookie starts writes found notBlank allowed)
  | unready writes found =>
      cases found
      exact .refl

theorem attempted_asksWhenEmpty {call : Call} {attempt asked : Attempt}
    {cell after : TokenCell}
    (starts : Starts client traffic move call attempt cell)
    (attempted : call.Attempted client.settings traffic.jar cell attempt after
      (.token asked)) : after = .empty := by
  cases attempted with
  | unready writes found =>
      cases found with
      | missing unusable unoffered =>
          exact starts_looksBeyondWhenEmpty starts (not_offers unusable)

/-- Dropping what a rejected request carried changes the cell only by a
rejection. -/
theorem drop_changes {index : Nat} {call : Call} {headers : Http.Headers}
    {response : Http.Response} {rejected : Option String}
    (notBlank : traffic.cell.token? ≠ some "")
    (found : traffic.calls[index]? =
      some ⟨call, .ended (.answer .first headers) (.answered response)⟩)
    (rejects : Answer.Rejects response)
    (named : headers.get? client.settings.tokenHeader = .ok rejected) :
    Relation.ReflTransGen (CellChange client traffic (.resume index))
      traffic.cell (traffic.cell.drop (rejected.getD "")).1 := by
  by_cases held : traffic.cell.token? = some (rejected.getD "")
  · cases rejected with
    | none => exact absurd held notBlank
    | some token =>
        rw [TokenCell.drop_eq_empty held]
        exact .single (.rejected rfl found rejects named held)
  · rw [TokenCell.drop_eq_self held]

theorem resumed_changes {index : Nat} {call : Call} {what : Wait}
    {ending : Ending} {after : TokenCell} {step : Next}
    (notBlank : traffic.cell.token? ≠ some "")
    (found : traffic.calls[index]? = some ⟨call, .ended what ending⟩)
    (resumed : call.Resumed client.settings traffic.jar traffic.cell what ending
      after step) :
    Relation.ReflTransGen (CellChange client traffic (.resume index))
      traffic.cell after := by
  cases resumed with
  | issued issues => exact .single (.issued rfl found issues)
  | retried rejects named attempted =>
      have dropped := drop_changes notBlank found rejects named
      exact dropped.trans
        (attempted_changes (.second found rejects named) attempted)
  | unissued | unfetched | late | finished | unnamed | rejectedAgain
  | unreachable | faulted => exact .refl

theorem stageStep_changes {index : Nat} {call : Call} {stage after : Stage}
    {jar : Http.CookieJar} {cell : TokenCell}
    (notBlank : traffic.cell.token? ≠ some "")
    (found : traffic.calls[index]? = some ⟨call, stage⟩)
    (step : StageStep client traffic call index move stage jar cell after) :
    Relation.ReflTransGen (CellChange client traffic move)
      traffic.cell cell := by
  cases step with
  | resumed resumed => exact resumed_changes notBlank found resumed
  | launched | unfit | answered | failed | windowless | expired => exact .refl

theorem step_changes (notBlank : traffic.cell.token? ≠ some "")
    (taken : step client traffic move = some next) :
    Relation.ReflTransGen (CellChange client traffic move)
      traffic.cell next.cell := by
  cases step_stepped taken with
  | begun attempted jar calls => exact attempted_changes .first attempted
  | moved mover found step calls => exact stageStep_changes notBlank found step
  | passed cell jar calls => rw [cell]

theorem CellChange.token?_ne_blank {before after : TokenCell}
    (change : CellChange client traffic move before after) :
    after.token? ≠ some "" := by
  cases change with
  | cookie starts writes found notBlank allowed => simpa using notBlank
  | issued resumes found issues =>
      simpa using Answer.issuedToken?_ne_blank issues
  | rejected resumes found rejects carried held => simp

theorem step_token?_ne_blank (notBlank : traffic.cell.token? ≠ some "")
    (taken : step client traffic move = some next) :
    next.cell.token? ≠ some "" := by
  cases (step_changes notBlank taken).cases_tail with
  | inl same => rwa [same]
  | inr last =>
      obtain ⟨before, _, change⟩ := last
      exact change.token?_ne_blank

theorem run_token?_ne_blank {cell : TokenCell} {jar : Http.CookieJar}
    {moves : List Move} (notBlank : cell.token? ≠ some "")
    (ran : run? client (initial cell jar) moves = some traffic) :
    traffic.cell.token? ≠ some "" :=
  run_induction (fun _ traffic => traffic.cell.token? ≠ some "")
    notBlank (fun _ held taken => step_token?_ne_blank held taken) ran

theorem resumed_asksWhenEmpty {index : Nat} {call : Call} {what : Wait}
    {ending : Ending} {after : TokenCell} {attempt : Attempt}
    (found : traffic.calls[index]? = some ⟨call, .ended what ending⟩)
    (resumed : call.Resumed client.settings traffic.jar traffic.cell what ending
      after (.wait (.token attempt))) : after = .empty := by
  cases resumed with
  | retried rejects named attempted =>
      exact attempted_asksWhenEmpty (.second found rejects named) attempted

theorem step_asksWhenEmpty {index since : Nat} {attempt : Attempt}
    (taken : step client traffic move = some next)
    (mover : traffic.mover move = some index)
    (asks : next.stage? index = some (.asked (.token attempt) since)) :
    next.cell = .empty := by
  obtain ⟨⟨call, stage⟩, found, stageEq⟩ := Option.map_eq_some_iff.mp asks
  cases stage_origin taken found with
  | kept other before => exact absurd mover other
  | begun begins absent here attempted =>
      cases stageEq
      exact attempted_asksWhenEmpty .first attempted
  | moved here before step =>
      -- only a call that goes on asks for something
      generalize next.jar = jar, next.cell = cell at step
      cases step with
      | resumed resumed =>
          obtain ⟨rfl, _⟩ := stageOf_eq_asked_iff.mp stageEq
          exact resumed_asksWhenEmpty before resumed
      | launched | unfit | answered | failed | windowless | expired =>
          cases stageEq

theorem drop_rejected_eq_self {cell : TokenCell} {held : HeldToken}
    {rejected : Option String} (notBlank : cell.token? ≠ some "")
    (holds : cell.held = some held) (other : rejected ≠ some held.text) :
    (cell.drop (rejected.getD "")).1 = cell := by
  have token : cell.token? = some held.text := by
    simp [TokenCell.token?, holds]
  apply TokenCell.drop_eq_self
  cases rejected with
  | none => exact notBlank
  | some rejectedText =>
      rw [token]
      exact Ne.symm other

theorem resumed_keepsOthers {call : Call} {attempt : Attempt}
    {headers : Http.Headers} {response : Http.Response} {held : HeldToken}
    {after : TokenCell} {step : Next}
    (notBlank : traffic.cell.token? ≠ some "")
    (resumed : call.Resumed client.settings traffic.jar traffic.cell
      (.answer attempt headers) (.answered response) after step)
    (holds : traffic.cell.held = some held)
    (other : headers.get? client.settings.tokenHeader ≠ .ok (some held.text)) :
    after = traffic.cell := by
  cases resumed with
  | retried rejects named attempted =>
      rename_i rejected what
      have different : rejected ≠ some held.text := by
        rintro rfl
        exact other named
      rw [drop_rejected_eq_self notBlank holds different] at attempted
      have token : traffic.cell.token? = some held.text := by
        simp [TokenCell.token?, holds]
      exact (attempted.of_held token (Ne.symm different)).1
  | late | finished | unnamed | rejectedAgain | unreachable | faulted => rfl

theorem resumed_resendsHeld {call : Call} {headers : Http.Headers}
    {response : Http.Response} {rejected token : String} {after : TokenCell}
    {step : Next}
    (resumed : call.Resumed client.settings traffic.jar traffic.cell
      (.answer .first headers) (.answered response) after step)
    (rejects : Answer.Rejects response)
    (writes : call.descriptor.isRead = false)
    (named : headers.get? client.settings.tokenHeader = .ok (some rejected))
    (held : traffic.cell.token? = some token) (different : token ≠ rejected) :
    step = .wait (.answer (.second (some rejected))
      (call.headersWith client.settings (some token))) := by
  obtain ⟨what, rfl, attempted⟩ := resumed.retries rejects named
  have untouched : (traffic.cell.drop rejected).1 = traffic.cell := by
    apply TokenCell.drop_eq_self
    rw [held]
    simpa using different
  rw [Option.getD_some, untouched] at attempted
  obtain ⟨_, rfl⟩ := attempted.of_held held
    (by simpa [Attempt.rejected] using different)
  simp [writes]

/-- The discipline of the cell is kept by every step of every run.  No cell that
the library makes holds a blank token, by `TokenCell.initial_token?_ne_blank` and
`TokenCell.remember_token?`. -/
theorem run_cellDiscipline {cell : TokenCell} {jar : Http.CookieJar}
    {moves : List Move}
    (ascii : Http.Headers.IsAsciiName client.settings.tokenHeader)
    (notBlank : cell.token? ≠ some "")
    (ran : run? client (initial cell jar) moves = some traffic)
    (taken : step client traffic move = some next) :
    CellDiscipline client traffic move next := by
  have heldNotBlank := run_token?_ne_blank notBlank ran
  refine
    { changes := step_changes heldNotBlank taken
      looksBeyondWhenEmpty := starts_looksBeyondWhenEmpty
      asksWhenEmpty := step_asksWhenEmpty taken
      keepsOthers := ?_
      resendsHeld := ?_ }
  · rintro index call attempt headers response held rfl found rejects holds other
    obtain ⟨after, resumed, _⟩ := resumed_of_step taken found
    exact resumed_keepsOthers heldNotBlank resumed holds other
  · rintro index call headers response rejected token rfl found rejects writes
      named held different
    obtain ⟨after, resumed, stage⟩ := resumed_of_step taken found
    rw [resumed_resendsHeld resumed rejects writes named held different] at stage
    exact ⟨_, stage, Http.Headers.get?_set_same _ ascii token⟩

/-- The discipline is kept when the second of two writes goes on after the first
one has refreshed the token. -/
theorem run_cellDiscipline_overlap : ∃ traffic next,
    run? Sample.client (initial .empty Sample.staleJar) Sample.overlap =
        some traffic ∧
      step Sample.client traffic (.resume 1) = some next ∧
      traffic.cell = .holding "v" .serverIssued ∧
      CellDiscipline Sample.client traffic (.resume 1) next := by
  have runs : (run? Sample.client (initial .empty Sample.staleJar)
      (Sample.overlap ++ [.resume 1])).isSome = true := by
    decide +kernel
  have cell : (run? Sample.client (initial .empty Sample.staleJar)
      Sample.overlap).map (·.cell) = some (.holding "v" .serverIssued) := by
    decide +kernel
  obtain ⟨next, ran⟩ := Option.isSome_iff_exists.mp runs
  rw [run?_concat] at ran
  obtain ⟨traffic, ran, taken⟩ := Option.bind_eq_some_iff.mp ran
  rw [ran] at cell
  exact ⟨traffic, next, ran, taken, Option.some.inj cell,
    run_cellDiscipline (by decide +kernel) (by decide +kernel) ran taken⟩

end Traffic

end AdminGate

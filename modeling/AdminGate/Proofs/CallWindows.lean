import AdminGate.Proofs.Outcomes

/-!
# The windows that a call may need

A call waits for one request after another, at most for two tokens and two
answers.  With each request that it goes on from it needs one window of time
less, and it asks for nothing more once the time of a request was up.
-/

namespace AdminGate

namespace Call

/-- What a call returns when its time is up. -/
def timedOut (settings : Settings) : Outcome :=
  .ok (.failed (Notice.timedOut.message settings.locale) .timeout none [])

/-- A call goes on in some way when a request has ended. -/
def GoesOn (call : Call) (settings : Settings) (what : Wait) (ending : Ending)
    (next : Next) : Prop :=
  ∃ jar cell after, call.Resumed settings jar cell what ending after next

theorem GoesOn.of_late {call : Call} {settings : Settings} {what : Wait}
    {ending : Ending} {next : Next}
    (goesOn : call.GoesOn settings what ending next) (late : ending.TimedOut) :
    next = .done (timedOut settings) := by
  obtain ⟨jar, cell, after, resumed⟩ := goesOn
  cases resumed with
  | late => rfl
  | issued | unissued | finished | retried | unnamed | rejectedAgain =>
      exact absurd late (Ending.not_timedOut_answered _)
  | unfetched network | unreachable network =>
      exact absurd network late.not_networkFailed
  | faulted fault => exact absurd fault late.not_faulted

/-- The windows that a call may still need, beginning with that of the request it
waits for. -/
def windows (call : Call) : Wait → Nat
  | .token .first => 4
  | .answer .first _ => if call.descriptor.isRead then 2 else 3
  | .token (.second _) => 2
  | .answer (.second _) _ => 1

/-- A reading call waits for no token. -/
def Fits (call : Call) (what : Wait) : Prop :=
  call.descriptor.isRead = true → what.transmits = true

theorem windows_pos (call : Call) (what : Wait) : 0 < call.windows what := by
  match what with
  | .token .first | .token (.second _) | .answer (.second _) _ =>
      simp [windows]
  | .answer .first _ =>
      simp only [windows]
      split <;> omega

theorem windows_le (call : Call) {what : Wait} (fits : call.Fits what) :
    call.windows what ≤ if call.descriptor.isRead then 2 else 4 := by
  match what with
  | .token attempt =>
      cases reads : call.descriptor.isRead with
      | true => cases fits reads
      | false => cases attempt <;> simp [windows]
  | .answer .first _ =>
      simp only [windows]
      split <;> omega
  | .answer (.second _) _ =>
      simp only [windows]
      split <;> omega

theorem Attempted.fits {call : Call} {settings : Settings} {attempt : Attempt}
    {jar : Http.CookieJar} {cell after : TokenCell} {what : Wait}
    (attempted : call.Attempted settings jar cell attempt after what) :
    call.Fits what := by
  intro reads
  cases attempted with
  | reading | ready => rfl
  | unready writes =>
      rw [reads] at writes
      cases writes

theorem windows_answer_lt (call : Call) (attempt : Attempt)
    (headers : Http.Headers) :
    call.windows (.answer attempt headers) < call.windows (.token attempt) := by
  cases attempt with
  | first =>
      simp only [windows]
      split <;> omega
  | second => simp [windows]

theorem GoesOn.windows_lt {call : Call} {settings : Settings}
    {what after : Wait} {ending : Ending}
    (goesOn : call.GoesOn settings what ending (.wait after)) :
    call.windows after < call.windows what ∧ call.Fits after := by
  obtain ⟨jar, cell, held, resumed⟩ := goesOn
  generalize same : Next.wait after = next at resumed
  cases resumed with
  | late | finished | unnamed | rejectedAgain | unreachable | faulted =>
      cases same
  | issued | unissued | unfetched =>
      cases same
      exact ⟨windows_answer_lt .., fun _ => rfl⟩
  | retried rejects named attempted =>
      cases same
      refine ⟨?_, attempted.fits⟩
      cases attempted with
      | reading reads => simp [windows, reads]
      | ready writes | unready writes => simp [windows, writes]

end Call

end AdminGate

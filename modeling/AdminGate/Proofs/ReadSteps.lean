import AdminGate.Proofs.CallSteps

/-!
# What one step of a read does

A read carries no token of its own, so neither the cell nor the jar has a say in
what it does next: it starts by sending its request, and when the request has
ended, only the ending and the names of its fields matter.
-/

namespace AdminGate

/-- Two calls go on alike: both wait, or both are done and come to the same. -/
inductive Next.Alike : Next → Next → Prop where
  | wait {first second : Wait} : Alike (.wait first) (.wait second)
  | done {outcome : Outcome} : Alike (.done outcome) (.done outcome)

/-- Whether a name can be looked up depends on the name and on whether all fields
are ASCII. -/
theorem Http.Headers.get?_cases {first second : Http.Headers}
    (same : first.isAscii = second.isAscii) (name : String) :
    (∃ run, first.get? name = .error run ∧ second.get? name = .error run) ∨
      ∃ firstFound secondFound, first.get? name = .ok firstFound ∧
        second.get? name = .ok secondFound := by
  rw [get?_eq, get?_eq, same]
  cases (if second.isAscii then Text.checkAscii (Text.lowercased name).toList
    else .ok ()) with
  | error run => exact .inl ⟨run, rfl, rfl⟩
  | ok _ => exact .inr ⟨_, _, rfl, rfl⟩

namespace Call

variable {call : Call} {settings : Settings} {jar : Http.CookieJar}
  {cell after : TokenCell} {attempt : Attempt} {headers : Http.Headers}
  {what : Wait} {ending : Ending}

theorem Attempted.of_isRead (reads : call.descriptor.isRead = true)
    (attempted : Attempted call settings jar cell attempt after what) :
    after = cell ∧ what = .answer attempt (call.headersWith settings none) := by
  cases attempted with
  | reading _ => exact ⟨rfl, rfl⟩
  | ready writes | unready writes =>
      rw [reads] at writes
      cases writes

/-- A read that does not end when its request has ended sends it once more. -/
theorem Resumed.of_isRead (reads : call.descriptor.isRead = true)
    (resumed : Resumed call settings jar cell (.answer attempt headers) ending
      after (.wait what)) :
    attempt = .first ∧ ∃ rejected,
      what = .answer (.second rejected) (call.headersWith settings none) := by
  cases resumed with
  | retried rejects named attempted =>
      exact ⟨rfl, _, (attempted.of_isRead reads).2⟩

theorem attempt_next_of_isRead (reads : call.descriptor.isRead = true) :
    (call.attempt settings jar cell attempt).next =
      .wait (.answer attempt (call.headersWith settings none)) := by
  simp [Call.attempt, reads, transmit]

/-- Reads whose requests have ended alike go on alike, whatever the cells and the
jars hold. -/
theorem resume_alike {first second : Call}
    {firstJar secondJar : Http.CookieJar} {firstCell secondCell : TokenCell}
    {firstAttempt secondAttempt : Attempt}
    {firstHeaders secondHeaders : Http.Headers}
    (firstReads : first.descriptor.isRead = true)
    (secondReads : second.descriptor.isRead = true)
    (sameAttempt : firstAttempt = .first ↔ secondAttempt = .first)
    (sameAscii : firstHeaders.isAscii = secondHeaders.isAscii) :
    Next.Alike
      (first.resume settings firstJar firstCell
        (.answer firstAttempt firstHeaders) ending).next
      (second.resume settings secondJar secondCell
        (.answer secondAttempt secondHeaders) ending).next := by
  simp only [resume]
  cases ending.read with
  | expired => exact .done
  | failed failure =>
      rcases failure.kind_cases with late | network | foreign
      · simp only [afterAnswer_of_isTimeout late]
        exact .done
      · simp only [afterAnswer_of_isNetwork network]
        exact .done
      · simp only [afterAnswer_of_isForeign foreign]
        exact .done
  | answered response =>
      simp only [afterAnswer]
      cases response.object? with
      | none => exact .done
      | some answer =>
          dsimp only
          split
          · cases firstAttempt with
            | first =>
                rw [sameAttempt.mp rfl]
                simp only [retry]
                rcases Http.Headers.get?_cases sameAscii settings.tokenHeader with
                  ⟨run, firstNamed, secondNamed⟩ |
                  ⟨_, _, firstNamed, secondNamed⟩
                · rw [firstNamed, secondNamed]
                  exact .done
                · rw [firstNamed, secondNamed]
                  simp only [attempt_next_of_isRead firstReads,
                    attempt_next_of_isRead secondReads]
                  exact .wait
            | second rejected =>
                cases secondAttempt with
                | first => cases sameAttempt.mpr rfl
                | second other => exact .done
          · exact .done

end Call

end AdminGate

import AdminGate.Guard.Block

/-!
# Scopes nest and restore

Code finds the provider of the innermost scope around it, however the scopes inside
were left.  `Block.Runs` says so rule by rule, without opening or leaving anything: a
body runs where the provider of its scope is bound, and what follows a scope runs
where the scope itself was entered.  Running code in scopes obeys these rules, and it
ends in the scopes that it began in.
-/

namespace AdminGate

namespace Scopes

variable {Loader : Type} (scopes : Scopes Loader)

def inside (provider : Provider Loader) : Scopes Loader :=
  ⟨some provider, scopes.current :: scopes.outer⟩

@[simp] theorem enter?_some (provider : Provider Loader) :
    scopes.enter? (some provider) = .ok (scopes.inside provider) := rfl

@[simp] theorem current_inside (provider : Provider Loader) :
    (scopes.inside provider).current = some provider := rfl

@[simp] theorem leave_inside (provider : Provider Loader) :
    (scopes.inside provider).leave = scopes := rfl

end Scopes

/-- The engine that a provider stands for as the loaders stand: itself, or an engine
for the state of a loader and for whether it is loading at this moment. -/
def Provider.engineAmong {Loader : Type} (loaders : Loader → IdentityLoader) :
    Provider Loader → PermissionEngine
  | .engine bound => bound
  | .loader bound => ⟨(loaders bound).state, decide (0 < (loaders bound).running)⟩

namespace Scopes

variable {Loader : Type} {scopes : Scopes Loader} {loaders : Loader → IdentityLoader}

theorem engineAmong?_of_bound {provider : Provider Loader}
    (bound : scopes.current = some provider) :
    scopes.engineAmong? loaders = .ok (provider.engineAmong loaders) := by
  rw [engineAmong?, bound]
  cases provider <;> rfl

theorem engineAmong?_of_unbound (unbound : scopes.current = Option.none) :
    scopes.engineAmong? loaders = .error .outsideScope := by
  rw [engineAmong?, unbound]

end Scopes

namespace Block

variable {Loader Error : Type}

/-- How code runs where a provider is bound or none: where the loaders stand in the
end, what it notes, and how it is left. -/
inductive Runs : Option (Provider Loader) → (Loader → IdentityLoader) →
    Block Loader Error → (Loader → IdentityLoader) → List (Note Error) →
    Exit Error → Prop where
  | pass {bound : Option (Provider Loader)} {loaders : Loader → IdentityLoader} :
      Runs bound loaders .pass loaders [] .through
  | ask {provider : Provider Loader} {loaders : Loader → IdentityLoader} :
      Runs (some provider) loaders .ask loaders
        [.given (provider.engineAmong loaders)] .through
  | outside {loaders : Loader → IdentityLoader} :
      Runs none loaders .ask loaders [] (.raising (.refused .outsideScope))
  | wait {bound : Option (Provider Loader)} {loaders later : Loader → IdentityLoader} :
      Runs bound loaders (.wait later) later [] .through
  | giveBack {bound : Option (Provider Loader)} {loaders : Loader → IdentityLoader} :
      Runs bound loaders .giveBack loaders [] .returning
  | fail {bound : Option (Provider Loader)} {loaders : Loader → IdentityLoader}
      {error : Error} :
      Runs bound loaders (.fail error) loaders [] (.raising (.own error))
  | onward {bound : Option (Provider Loader)}
      {loaders middle later : Loader → IdentityLoader}
      {first second : Block Loader Error} {notes more : List (Note Error)}
      {exit : Exit Error} (begun : Runs bound loaders first middle notes .through)
      (ended : Runs bound middle second later more exit) :
      Runs bound loaders (.andThen first second) later (notes ++ more) exit
  | cutShort {bound : Option (Provider Loader)}
      {loaders later : Loader → IdentityLoader} {first second : Block Loader Error}
      {notes : List (Note Error)} {exit : Exit Error}
      (begun : Runs bound loaders first later notes exit) (leaves : exit ≠ .through) :
      Runs bound loaders (.andThen first second) later notes exit
  /-- A scope is left as its body is left, with the same error if there is one. -/
  | scope {bound : Option (Provider Loader)} {provider : Provider Loader}
      {loaders later : Loader → IdentityLoader} {body : Block Loader Error}
      {notes : List (Note Error)} {exit : Exit Error}
      (inside : Runs (some provider) loaders body later notes exit) :
      Runs bound loaders (.scope (some provider) body) later notes exit
  | refused {bound : Option (Provider Loader)} {loaders : Loader → IdentityLoader}
      {body : Block Loader Error} :
      Runs bound loaders (.scope none body) loaders []
        (.raising (.refused .notAProvider))
  | caught {bound : Option (Provider Loader)}
      {loaders later : Loader → IdentityLoader} {body : Block Loader Error}
      {notes : List (Note Error)} {cause : Raised Error}
      (raised : Runs bound loaders body later notes (.raising cause)) :
      Runs bound loaders (.attempt body) later (notes ++ [.caught cause]) .through
  | uncaught {bound : Option (Provider Loader)}
      {loaders later : Loader → IdentityLoader} {body : Block Loader Error}
      {notes : List (Note Error)} {exit : Exit Error}
      (ended : Runs bound loaders body later notes exit)
      (calm : ∀ cause, exit ≠ .raising cause) :
      Runs bound loaders (.attempt body) later notes exit
  | returned {bound : Option (Provider Loader)}
      {loaders later : Loader → IdentityLoader} {body : Block Loader Error}
      {notes : List (Note Error)}
      (ended : Runs bound loaders body later notes .returning) :
      Runs bound loaders (.call body) later notes .through
  | unreturned {bound : Option (Provider Loader)}
      {loaders later : Loader → IdentityLoader} {body : Block Loader Error}
      {notes : List (Note Error)} {exit : Exit Error}
      (ended : Runs bound loaders body later notes exit) (kept : exit ≠ .returning) :
      Runs bound loaders (.call body) later notes exit

/-- Code ends in the scopes that it began in, however it is left. -/
theorem scopes_run (block : Block Loader Error) (scopes : Scopes Loader)
    (loaders : Loader → IdentityLoader) :
    (block.run scopes loaders).scopes = scopes := by
  induction block generalizing scopes loaders with
  | pass | wait | giveBack | fail => rfl
  | ask =>
      unfold run
      split <;> rfl
  | andThen first second begun ended =>
      unfold run
      dsimp only
      split
      · exact (ended _ _).trans (begun scopes loaders)
      · exact begun scopes loaders
  | scope provider body ended =>
      cases provider with
      | none => rfl
      | some provider =>
          have inside := ended (scopes.inside provider) loaders
          simp [run, inside]
  | attempt body ended =>
      unfold run Progress.caught
      split <;> exact ended scopes loaders
  | call body ended =>
      unfold run Progress.called
      split <;> exact ended scopes loaders

theorem runs_run (block : Block Loader Error) (scopes : Scopes Loader)
    (loaders : Loader → IdentityLoader) :
    Runs scopes.current loaders block (block.run scopes loaders).loaders
      (block.run scopes loaders).notes (block.run scopes loaders).exit := by
  induction block generalizing scopes loaders with
  | pass => exact .pass
  | wait => exact .wait
  | giveBack => exact .giveBack
  | fail => exact .fail
  | ask =>
      unfold run
      cases bound : scopes.current with
      | none =>
          rw [Scopes.engineAmong?_of_unbound bound]
          exact .outside
      | some provider =>
          rw [Scopes.engineAmong?_of_bound bound]
          exact .ask
  | andThen first second begun ended =>
      have begun := begun scopes loaders
      unfold run
      dsimp only
      split
      · rename_i through
        rw [through] at begun
        -- The second part begins in the scopes of the first, which are back by then.
        have ended := ended (first.run scopes loaders).scopes
          (first.run scopes loaders).loaders
        rw [scopes_run] at ended ⊢
        exact .onward begun ended
      · exact .cutShort begun ‹_›
  | scope provider body ended =>
      cases provider with
      | none => exact .refused
      | some provider => exact .scope (ended (scopes.inside provider) loaders)
  | attempt body ended =>
      have ended := ended scopes loaders
      unfold run Progress.caught
      split
      · rename_i cause raised
        rw [raised] at ended
        exact .caught ended
      · exact .uncaught ended ‹_›
  | call body ended =>
      have ended := ended scopes loaders
      unfold run Progress.called
      split
      · rename_i returned
        rw [returned] at ended
        exact .returned ended
      · exact .unreturned ended ‹_›

theorem Runs.run_eq {bound : Option (Provider Loader)}
    {loaders later : Loader → IdentityLoader} {block : Block Loader Error}
    {notes : List (Note Error)} {exit : Exit Error}
    (runs : Runs bound loaders block later notes exit) {scopes : Scopes Loader}
    (current : scopes.current = bound) :
    block.run scopes loaders = ⟨scopes, later, notes, exit⟩ := by
  induction runs generalizing scopes with
  | pass | wait | giveBack | fail | refused => rfl
  | ask => rw [run, Scopes.engineAmong?_of_bound current]
  | outside => rw [run, Scopes.engineAmong?_of_unbound current]
  | onward _ _ begun ended =>
      rw [run, begun current]
      exact congrArg (Progress.behind · _) (ended current)
  | cutShort _ leaves begun =>
      rw [run, begun current]
      dsimp only
      split
      · exact absurd rfl leaves
      · rfl
  | scope _ ended =>
      rw [run, Scopes.enter?_some]
      exact congrArg (fun progress => { progress with scopes := progress.scopes.leave })
        (ended (scopes.current_inside _))
  | caught _ ended => rw [run, ended current, Progress.caught]
  | uncaught _ calm ended =>
      rw [run, ended current, Progress.caught]
      split
      · exact absurd ‹_› (calm _)
      · rfl
  | returned _ ended => rw [run, ended current, Progress.called]
  | unreturned _ kept ended =>
      rw [run, ended current, Progress.called]
      split
      · exact absurd ‹_› kept
      · rfl

/-- Running code in scopes is what the rules say, and the scopes are back in the
end. -/
theorem run_eq_iff {block : Block Loader Error} {scopes : Scopes Loader}
    {loaders later : Loader → IdentityLoader} {notes : List (Note Error)}
    {exit : Exit Error} :
    block.run scopes loaders = ⟨scopes, later, notes, exit⟩ ↔
      Runs scopes.current loaders block later notes exit := by
  refine ⟨fun ran => ?_, fun runs => runs.run_eq rfl⟩
  have runs := block.runs_run scopes loaders
  rwa [ran] at runs

/-- An error leaves the inner scope and is caught in the outer one, which answers as
its loader stands by then. -/
example (kept : PermissionEngine) (later : Bool → IdentityLoader) :
    let inner : Block Bool Nat := .scope (some (.engine kept)) (.andThen .ask (.fail 7))
    let outer : Block Bool Nat := .scope (some (.loader true))
      (.andThen (.attempt inner) (.andThen (.wait later) .ask))
    (outer.run .none fun _ => .initial).notes =
      [.given kept, .caught (.own 7), .given (later true).engine] :=
  rfl

end Block

end AdminGate

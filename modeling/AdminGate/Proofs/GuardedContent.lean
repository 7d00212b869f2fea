import AdminGate.Guard.Rendering
import AdminGate.Proofs.PermissionAnswers

/-!
# Guarded content is run once or not at all

A guard puts one question to the engine, the first of its criteria that is not
empty.  As the engine answers it, rendering shows the content or the fallback,
and runs that part once and the other one never; while the identity is not
settled it runs neither.  Nothing that an action does, failing included, changes
which part is chosen.
-/

namespace AdminGate

/-- An action that leaves a mark each time it is run, whatever it ends with. -/
def Content.marking (mark : Json) (ending : Except ActionError Json) : Content :=
  .action ⟨ending, [mark]⟩

namespace Criteria

variable {criteria : Criteria} {engine : PermissionEngine}

/-! ## The question of a guard -/

/-- The question that a guard puts to an engine: the first of its criteria that
is given and not empty, whatever comes after it; none if there is no such
criterion. -/
inductive Asks : Criteria → Option Query → Prop where
  | permission {permission : String} (anyOf allOf : List String) :
      permission ≠ "" →
      Asks ⟨some permission, anyOf, allOf⟩ (some (.hasPermission permission))
  | anyOf {single : Option String} {anyOf : List String} (allOf : List String) :
      (∀ permission ∈ single, permission = "") → anyOf ≠ [] →
      Asks ⟨single, anyOf, allOf⟩ (some (.hasAny anyOf))
  | allOf {single : Option String} {allOf : List String} :
      (∀ permission ∈ single, permission = "") → allOf ≠ [] →
      Asks ⟨single, [], allOf⟩ (some (.hasAll allOf))
  | nothing {single : Option String} :
      (∀ permission ∈ single, permission = "") → Asks ⟨single, [], []⟩ none

theorem exists_asks (criteria : Criteria) : ∃ question, criteria.Asks question := by
  obtain ⟨single, anyOf, allOf⟩ := criteria
  by_cases blank : ∀ permission ∈ single, permission = ""
  · cases anyOf with
    | cons first rest => exact ⟨_, .anyOf allOf blank (List.cons_ne_nil _ _)⟩
    | nil =>
        cases allOf with
        | cons first rest => exact ⟨_, .allOf blank (List.cons_ne_nil _ _)⟩
        | nil => exact ⟨_, .nothing blank⟩
  · push Not at blank
    obtain ⟨permission, given, filled⟩ := blank
    cases given
    exact ⟨_, .permission anyOf allOf filled⟩

theorem single?_of_blank {single : Option String} {anyOf allOf : List String}
    (blank : ∀ permission ∈ single, permission = "") :
    single? ⟨single, anyOf, allOf⟩ = none := by
  simpa [single?] using blank

theorem single?_of_filled {permission : String} {anyOf allOf : List String}
    (filled : permission ≠ "") :
    single? ⟨some permission, anyOf, allOf⟩ = some permission := by
  simp [single?, filled]

theorem Asks.answer {query : Query} (asks : criteria.Asks (some query)) :
    engine.answer query = .verdict (criteria.evaluate engine) := by
  unfold evaluate
  cases asks with
  | permission anyOf allOf filled =>
      rw [single?_of_filled filled]
      cases settled : engine.isDecided <;>
        simp [PermissionEngine.answer, PermissionEngine.hasPermission,
          PermissionEngine.whenDecided, settled]
  | anyOf allOf blank given =>
      obtain ⟨first, rest, rfl⟩ := List.exists_cons_of_ne_nil given
      rw [single?_of_blank blank]
      cases settled : engine.isDecided <;>
        simp [PermissionEngine.answer, PermissionEngine.hasAny,
          PermissionEngine.whenDecided, settled]
  | allOf blank given =>
      obtain ⟨first, rest, rfl⟩ := List.exists_cons_of_ne_nil given
      rw [single?_of_blank blank]
      cases settled : engine.isDecided <;>
        simp [PermissionEngine.answer, PermissionEngine.hasAll,
          PermissionEngine.whenDecided, settled]

/-- A guard that asks for nothing is satisfied as soon as there is an answer. -/
theorem Asks.unasked (asks : criteria.Asks none) :
    criteria.evaluate engine = engine.whenDecided true := by
  unfold evaluate
  cases asks with
  | nothing blank =>
      rw [single?_of_blank blank]
      cases settled : engine.isDecided <;>
        simp [PermissionEngine.whenDecided, settled]

theorem evaluate_eq_none_iff :
    criteria.evaluate engine = none ↔ engine.isDecided = false := by
  obtain ⟨_ | query, asks⟩ := criteria.exists_asks
  · rw [asks.unasked, PermissionEngine.whenDecided_eq_none_iff]
  · have verdict : engine.answer query = .verdict (criteria.evaluate engine) :=
      asks.answer
    cases asks with
    | permission | anyOf | allOf =>
        rw [← QueryAnswer.verdict.inj verdict]
        exact PermissionEngine.whenDecided_eq_none_iff

/-! ## The part that is shown -/

/-- A guard shows one of its two parts, as the engine decides. -/
structure ShowsOnePart (criteria : Criteria) (engine : PermissionEngine) :
    Prop where
  /-- What is shown, and what running it leaves, are those of one part alone. -/
  granted : criteria.evaluate engine = some true → ∀ content fallback,
    criteria.render engine content fallback = content.materialize
  denied : criteria.evaluate engine = some false → ∀ content fallback,
    criteria.render engine content fallback = fallback.materialize
  undecided : criteria.evaluate engine = none → ∀ content fallback,
    criteria.render engine content fallback = ⟨.ok .null, []⟩
  /-- Of two actions that leave different marks, whatever they end with, the
  content has left its mark once and the fallback none exactly when access is
  granted, and so on. -/
  runsContent : ∀ own other ending otherEnding, own ≠ other →
    ((criteria.render engine (.marking own ending)
        (.marking other otherEnding)).trace = [own] ↔
      criteria.evaluate engine = some true)
  runsFallback : ∀ own other ending otherEnding, own ≠ other →
    ((criteria.render engine (.marking own ending)
        (.marking other otherEnding)).trace = [other] ↔
      criteria.evaluate engine = some false)
  runsNothing : ∀ own other ending otherEnding,
    (criteria.render engine (.marking own ending)
        (.marking other otherEnding)).trace = [] ↔
      criteria.evaluate engine = none
  settled : criteria.evaluate engine = none ↔ engine.isDecided = false
  /-- The verdict is the answer to one question. -/
  asks : ∃ question, criteria.Asks question
  asked : ∀ query, criteria.Asks (some query) →
    engine.answer query = .verdict (criteria.evaluate engine)
  unasked : criteria.Asks none → engine.isDecided = true →
    criteria.evaluate engine = some true

theorem trace_render_marking (own other : Json)
    (ending otherEnding : Except ActionError Json) :
    (criteria.render engine (.marking own ending)
        (.marking other otherEnding)).trace =
      match criteria.evaluate engine with
      | none => []
      | some granted => [if granted then own else other] := by
  rcases verdict : criteria.evaluate engine with _ | _ | _ <;>
    rw [render, verdict] <;> rfl

/-- Rendering runs the part that the engine's answer to the guard's question
chooses, once, and nothing else. -/
theorem render_showsOnePart (criteria : Criteria) (engine : PermissionEngine) :
    ShowsOnePart criteria engine := by
  refine ⟨?_, ?_, ?_, ?_, ?_, ?_, evaluate_eq_none_iff, exists_asks criteria,
    fun _ asks => asks.answer, ?_⟩
  · intro verdict content fallback
    rw [render, verdict]
  · intro verdict content fallback
    rw [render, verdict]
  · intro verdict content fallback
    rw [render, verdict]
    rfl
  · intro own other ending otherEnding differ
    rw [trace_render_marking]
    rcases criteria.evaluate engine with _ | _ | _ <;> simp [differ.symm]
  · intro own other ending otherEnding differ
    rw [trace_render_marking]
    rcases criteria.evaluate engine with _ | _ | _ <;> simp [differ]
  · intro own other ending otherEnding
    rw [trace_render_marking]
    rcases criteria.evaluate engine with _ | _ | _ <;> simp
  · intro asks decided
    rw [asks.unasked, PermissionEngine.whenDecided, if_pos decided]

end Criteria

end AdminGate

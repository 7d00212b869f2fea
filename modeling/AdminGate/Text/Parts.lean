/-!
# Parts of a text

A text cut at every separator, and parts put together with separators between them.  Parts without
separators are found again: `splitAt_joinWith`.
-/

namespace AdminGate.Text

/-- The parts of a text between the separators. -/
def splitAt (separator : Char) : List Char → List (List Char)
  | [] => [[]]
  | character :: rest =>
      if character == separator then [] :: splitAt separator rest
      else
        match splitAt separator rest with
        | [] => [[character]]
        | first :: parts => (character :: first) :: parts

def joinWith (separator : Char) : List (List Char) → List Char
  | [] => []
  | [last] => last
  | first :: next :: rest => first ++ separator :: joinWith separator (next :: rest)

theorem not_mem_of_mem_splitAt {separator : Char} {text part : List Char}
    (member : part ∈ splitAt separator text) : separator ∉ part := by
  induction text generalizing part with
  | nil =>
      rw [List.mem_singleton.mp member]
      exact List.not_mem_nil
  | cons character rest ih =>
      unfold splitAt at member
      split at member
      · rcases List.mem_cons.mp member with rfl | later
        · exact List.not_mem_nil
        · exact ih later
      · rename_i unlike
        have other : separator ≠ character := fun same => unlike (by simp [same])
        split at member
        · rw [List.mem_singleton.mp member]
          simpa using other
        · rename_i first parts cut
          rw [cut] at ih
          rcases List.mem_cons.mp member with rfl | later
          · simpa [other] using ih List.mem_cons_self
          · exact ih (List.mem_cons_of_mem _ later)

theorem splitAt_of_not_mem {separator : Char} {text : List Char} (free : separator ∉ text) :
    splitAt separator text = [text] := by
  induction text with
  | nil => rfl
  | cons character rest ih =>
      obtain ⟨other, others⟩ := List.ne_and_not_mem_of_not_mem_cons free
      simp [splitAt, Ne.symm other, ih others]

theorem splitAt_append_cons {separator : Char} {front : List Char} (free : separator ∉ front)
    (rest : List Char) :
    splitAt separator (front ++ separator :: rest) = front :: splitAt separator rest := by
  induction front with
  | nil => simp [splitAt]
  | cons character front ih =>
      obtain ⟨other, others⟩ := List.ne_and_not_mem_of_not_mem_cons free
      simp [splitAt, Ne.symm other, ih others]

theorem splitAt_joinWith {separator : Char} {parts : List (List Char)} (some : parts ≠ [])
    (free : ∀ part ∈ parts, separator ∉ part) :
    splitAt separator (joinWith separator parts) = parts := by
  induction parts with
  | nil => exact absurd rfl some
  | cons first others ih =>
      obtain ⟨here, later⟩ := List.forall_mem_cons.mp free
      cases others with
      | nil => exact splitAt_of_not_mem here
      | cons next rest =>
          rw [joinWith, splitAt_append_cons here, ih (List.cons_ne_nil _ _) later]

end AdminGate.Text

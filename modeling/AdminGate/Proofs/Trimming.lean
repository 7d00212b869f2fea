import Mathlib.Data.List.DropRight
import AdminGate.Text.Blank

/-!
# Trimmed texts

A trimmed text has no blank at either end, and a text without one is trimmed
already.  So trimming twice is trimming once, and blanks around a text are lost.
-/

namespace AdminGate.Text

theorem trim_eq_rdropWhile (text : List Char) :
    trim text = (text.dropWhile isBlank).rdropWhile isBlank := rfl

theorem trimmed_trim (text : List Char) : Trimmed (trim text) := by
  constructor
  · intro first starts
    -- Trimming the end leaves the start as it is.
    have front : trim text <+: text.dropWhile isBlank :=
      List.rdropWhile_prefix isBlank (text.dropWhile isBlank)
    obtain ⟨rest, whole⟩ := front
    have inked := List.head?_dropWhile_not isBlank text
    rw [← whole, List.head?_append, starts, Option.some_or] at inked
    simpa using inked
  · intro last ends
    obtain ⟨front, whole⟩ := List.getLast?_eq_some_iff.mp ends
    have filled : trim text ≠ [] := by simp [whole]
    have inked := List.rdropWhile_last_not isBlank _ filled
    have same := (List.getLast?_eq_some_getLast filled).symm.trans ends
    cases same
    exact Bool.eq_false_iff.mpr inked

theorem trim_eq_self {text : List Char} (trimmed : Trimmed text) :
    trim text = text := by
  obtain ⟨first, last⟩ := trimmed
  have start : text.dropWhile isBlank = text := by
    cases text with
    | nil => rfl
    | cons character rest =>
        exact List.dropWhile_cons_of_neg (by simp [first character rfl])
  rw [trim_eq_rdropWhile, start, List.rdropWhile_eq_self_iff]
  intro filled
  have inked := last _ (List.getLast?_eq_some_getLast filled)
  simp [inked]

theorem trim_eq_self_iff {text : List Char} : trim text = text ↔ Trimmed text :=
  ⟨fun same => same ▸ trimmed_trim text, trim_eq_self⟩

theorem trim_sublist (text : List Char) : (trim text).Sublist text :=
  (List.rdropWhile_prefix isBlank (text.dropWhile isBlank)).sublist.trans
    (List.dropWhile_sublist isBlank)

theorem trim_of_inked {text : List Char}
    (inked : ∀ character ∈ text, isBlank character = false) : trim text = text :=
  trim_eq_self
    ⟨fun first starts => inked first (List.mem_of_mem_head? starts),
      fun last ends => inked last (List.mem_of_mem_getLast? ends)⟩

theorem trim_trim (text : List Char) : trim (trim text) = trim text :=
  trim_eq_self (trimmed_trim text)

theorem trimmed_trimmed (text : String) :
    trimmed (trimmed text) = trimmed text := by
  rw [trimmed, trimmed, String.toList_ofList, trim_trim]

theorem rdropWhile_append_of_pos {drops : Char → Bool} {after : List Char}
    (dropped : ∀ character ∈ after, drops character = true) (kept : List Char) :
    (kept ++ after).rdropWhile drops = kept.rdropWhile drops := by
  have droppedBack : ∀ character ∈ after.reverse, drops character = true :=
    fun character member => dropped character (List.mem_reverse.mp member)
  unfold List.rdropWhile
  rw [List.reverse_append, List.dropWhile_append_of_pos droppedBack]

theorem trim_pad {before after : List Char}
    (blankBefore : ∀ character ∈ before, isBlank character = true)
    (blankAfter : ∀ character ∈ after, isBlank character = true)
    (text : List Char) : trim (before ++ text ++ after) = trim text := by
  rw [trim_eq_rdropWhile, trim_eq_rdropWhile, List.append_assoc,
    List.dropWhile_append_of_pos blankBefore, List.dropWhile_append]
  split
  · -- A blank text leaves nothing, with more blanks behind it or without.
    rename_i blank
    have nothing : after.dropWhile isBlank = [] :=
      List.dropWhile_eq_nil_iff.mpr blankAfter
    rw [nothing, List.isEmpty_iff.mp blank]
  · exact rdropWhile_append_of_pos blankAfter _

theorem trimmed_pad {before after : String}
    (blankBefore : ∀ character ∈ before.toList, isBlank character = true)
    (blankAfter : ∀ character ∈ after.toList, isBlank character = true)
    (text : String) : trimmed (before ++ text ++ after) = trimmed text := by
  rw [trimmed, String.toList_append, String.toList_append,
    trim_pad blankBefore blankAfter, trimmed]

theorem trim_of_blank {text : List Char}
    (blank : ∀ character ∈ text, isBlank character = true) : trim text = [] := by
  simpa [trim, trimStart, trimEnd] using @trim_pad text [] blank nofun []

/-- A text whose first character is no blank begins with it when it is trimmed. -/
theorem trim_cons {first : Char} (inked : isBlank first = false)
    (rest : List Char) : ∃ kept, trim (first :: rest) = first :: kept := by
  have stays : (first :: rest).dropWhile isBlank = first :: rest :=
    List.dropWhile_cons_of_neg (by simp [inked])
  have front : trim (first :: rest) <+: first :: rest := by
    rw [trim_eq_rdropWhile, stays]
    exact List.rdropWhile_prefix isBlank _
  rcases List.prefix_cons_iff.mp front with nothing | ⟨kept, whole, _⟩
  · rw [trim_eq_rdropWhile, stays, List.rdropWhile_eq_nil_iff] at nothing
    have blank := nothing first List.mem_cons_self
    rw [inked] at blank
    cases blank
  · exact ⟨kept, whole⟩

theorem exists_pad (text : List Char) :
    ∃ before after, (∀ character ∈ before, isBlank character = true) ∧
      (∀ character ∈ after, isBlank character = true) ∧
      text = before ++ trim text ++ after := by
  refine ⟨text.takeWhile isBlank, (text.dropWhile isBlank).rtakeWhile isBlank,
    fun _ => List.mem_takeWhile_imp, fun _ => List.mem_rtakeWhile_imp, ?_⟩
  rw [trim_eq_rdropWhile, List.append_assoc, List.rdropWhile_append_rtakeWhile,
    List.takeWhile_append_dropWhile]

theorem trim_trimStart (text : List Char) : trim (trimStart text) = trim text := by
  have whole : text.takeWhile isBlank ++ trimStart text ++ [] = text := by
    simp [trimStart, List.takeWhile_append_dropWhile]
  conv_rhs => rw [← whole]
  exact (trim_pad (fun _ => List.mem_takeWhile_imp) (List.forall_mem_nil _) _).symm

theorem trim_trimEnd (text : List Char) : trim (trimEnd text) = trim text := by
  have whole : [] ++ trimEnd text ++ text.rtakeWhile isBlank = text :=
    List.rdropWhile_append_rtakeWhile
  conv_rhs => rw [← whole]
  exact (trim_pad (List.forall_mem_nil _) (fun _ => List.mem_rtakeWhile_imp) _).symm

theorem trim_eq_nil_iff {text : List Char} :
    trim text = [] ↔ ∀ character ∈ text, isBlank character = true := by
  refine ⟨fun nothing => ?_, trim_of_blank⟩
  obtain ⟨before, after, blankBefore, blankAfter, whole⟩ := exists_pad text
  intro character member
  rw [whole, nothing, List.append_nil] at member
  exact (List.mem_append.mp member).elim (blankBefore character) (blankAfter character)

theorem trimStart_append_cons {character : Char} (inked : isBlank character = false)
    (front rest : List Char) :
    trimStart (front ++ character :: rest) = trimStart front ++ character :: rest := by
  have stays : (character :: rest).dropWhile isBlank = character :: rest :=
    List.dropWhile_cons_of_neg (by simp [inked])
  unfold trimStart
  rw [List.dropWhile_append, stays]
  split
  · rename_i nothing
    rw [List.isEmpty_iff.mp nothing, List.nil_append]
  · rfl

theorem trimEnd_append_cons {character : Char} (inked : isBlank character = false)
    (front rest : List Char) :
    trimEnd (front ++ character :: rest) = front ++ character :: trimEnd rest := by
  have back : trimStart (rest.reverse ++ character :: front.reverse) =
      trimStart rest.reverse ++ character :: front.reverse :=
    trimStart_append_cons inked _ _
  rw [trimStart] at back
  simp [trimEnd, back, trimStart]

/-- What stands on either side of a character that is no blank is trimmed on its own. -/
theorem trim_append_cons {character : Char} (inked : isBlank character = false)
    (front rest : List Char) :
    trim (front ++ character :: rest) = trimStart front ++ character :: trimEnd rest := by
  rw [trim, trimStart_append_cons inked, trimEnd_append_cons inked]

end AdminGate.Text

import AdminGate.Command.Invocation
import AdminGate.Proofs.HeaderFields

/-!
# Command lines that are understood

A place for several arguments is never left empty, although a `--` in front of
them is dropped: only the first one separates, and something must follow it.
`Grammar.UnderWay` says what the rounds of a reading keep; a command line that is
understood therefore names a command of the program, and a check names at least
one permission.
-/

namespace AdminGate.Command

/-- What the arguments that a slot has taken have in common. -/
def Slot.Takes : Slot → List String → Prop
  | .nothing, _ => True
  | .command _ choices, taken => choices.contains (taken.headD "") = true
  | .several _, taken => taken ≠ []

namespace Grammar

variable {grammar : Grammar} {arguments : List String}
  {entries : List (String × Mark)} {parsed next : Parsed}

theorem mark_ne_divider (grammar : Grammar) (input : String) :
    grammar.mark input ≠ .ok .divider := by
  unfold mark
  split
  · simp
  · split
    · simp
    · dsimp only
      split
      · simp
      · split <;> try split
        all_goals simp

/-- The arguments after a `--` are no options, and before it nothing else is
one. -/
theorem marks_cons {entry : String × Mark}
    (marked : grammar.marks arguments = .ok (entry :: entries)) :
    (entry = ("--", .divider) ∧ ∃ rest : List String,
        entries = rest.map fun input => (input, .argument)) ∨
      (entry.1 ≠ "--" ∧ isDivider entry = false ∧
        ∃ rest, grammar.marks rest = .ok entries) := by
  cases arguments with
  | nil => cases marked
  | cons first rest =>
      unfold marks at marked
      split at marked
      · rename_i divides
        cases marked
        exact .inl ⟨by rw [beq_iff_eq.mp divides], rest, rfl⟩
      · rename_i separate
        obtain ⟨mark, markOk, marked⟩ := Http.bind_eq_ok_iff.mp marked
        obtain ⟨others, othersOk, marked⟩ := Http.bind_eq_ok_iff.mp marked
        cases marked
        refine .inr ⟨by simpa using separate, ?_, rest, othersOk⟩
        cases mark with
        | divider => exact absurd markOk (mark_ne_divider grammar first)
        | argument | option => rfl

theorem marks_drop_skipped
    (marked : grammar.marks arguments = .ok entries)
    (optional : entries.any isOption = true) :
    ∃ rest, grammar.marks rest =
      .ok (entries.drop (entries.takeWhile (!isOption ·)).length) := by
  induction entries generalizing arguments with
  | nil => cases optional
  | cons entry others ih =>
      cases option : isOption entry with
      | true => exact ⟨arguments, by simpa [option] using marked⟩
      | false =>
          have later : others.any isOption = true := by
            simpa [option] using optional
          rcases marks_cons marked with ⟨_, rest, rfl⟩ | ⟨_, _, rest, marked⟩
          · simp [isOption] at later
          · simpa [option] using ih marked later

theorem slotLength_several {first : String × Mark} {rest : List (String × Mark)}
    (name : String)
    (after : entries.drop (entries.takeWhile isDivider).length = first :: rest) :
    slotLength (.several name) entries =
      if isOption first then 0
      else (entries.takeWhile isDivider).length + 1 +
        (rest.takeWhile (!isOption ·)).length := by
  unfold slotLength
  simp only [after]

theorem slotLength_nil (slot : Slot) : slotLength slot [] = 0 := by
  cases slot <;> rfl

/-- Several arguments are taken with the `--` in front of them, and then without
it. -/
theorem erase_taken_ne_nil {name : String}
    (marked : grammar.marks arguments = .ok entries)
    (some_ : slotLength (.several name) entries ≠ 0) :
    ((entries.take (slotLength (.several name) entries)).map Prod.fst).erase
      "--" ≠ [] := by
  cases entries with
  | nil => exact absurd (slotLength_nil _) some_
  | cons entry others =>
      rcases marks_cons marked with ⟨rfl, rest, rfl⟩ | ⟨separate, argument, _⟩
      · have noOther : (rest.map fun input => (input, Mark.argument)).takeWhile
            isDivider = [] := by
          cases rest <;> simp [isDivider]
        have dividers : ((("--", Mark.divider) ::
            rest.map fun input => (input, Mark.argument)).takeWhile
              isDivider).length = 1 := by
          simp [List.takeWhile_cons, isDivider, noOther]
        cases rest with
        | nil => exact absurd rfl some_
        | cons first rest =>
            rw [slotLength_several name (by rw [dividers]; rfl), dividers]
            simp [isOption, Nat.add_comm 2]
      · have dividers : ((entry :: others).takeWhile isDivider).length = 0 := by
          simp [argument]
        rw [slotLength_several name (by rw [dividers]; rfl), dividers] at some_ ⊢
        cases option : isOption entry with
        | true => simp [option] at some_
        | false =>
            rw [if_neg (by simp), Nat.zero_add, Nat.add_comm, List.take_succ_cons,
              List.map_cons, List.erase_cons_tail (by simpa using separate)]
            exact List.cons_ne_nil _ _

theorem takes_of_fillSlot
    (marked : grammar.marks arguments = .ok entries)
    (some_ : slotLength grammar.slot entries ≠ 0)
    (filled : grammar.fillSlot parsed
      ((entries.take (slotLength grammar.slot entries)).map Prod.fst) =
        .ok next) :
    ∃ taken, next.arguments = some taken ∧ grammar.slot.Takes taken := by
  unfold fillSlot at filled
  cases slot : grammar.slot with
  | nothing =>
      rw [slot] at some_
      exact absurd rfl some_
  | command name choices =>
      simp only [slot] at filled
      split at filled
      · rename_i chosen
        cases filled
        exact ⟨_, rfl, chosen⟩
      · cases filled
  | several name =>
      rw [slot] at filled some_
      cases filled
      exact ⟨_, rfl, erase_taken_ne_nil marked some_⟩

/-- A reading is under way: what the slot has taken belongs there, and as long as
it is free the arguments that are left are marked as they stand. -/
structure UnderWay (grammar : Grammar) (parsed : Parsed)
    (entries : List (String × Mark)) : Prop where
  taken : ∀ taken, parsed.arguments = some taken → grammar.slot.Takes taken
  free : parsed.arguments = none →
    ∃ arguments, grammar.marks arguments = .ok entries

theorem UnderWay.of_taken {taken : List String}
    (filled : parsed.arguments = some taken)
    (belongs : grammar.slot.Takes taken) (entries : List (String × Mark)) :
    UnderWay grammar parsed entries := by
  refine ⟨fun other same => ?_, fun free => ?_⟩
  · cases filled.symm.trans same
    exact belongs
  · cases filled.symm.trans free

theorem UnderWay.trySlot {rest : List (String × Mark)}
    (underWay : UnderWay grammar parsed entries)
    (tried : grammar.trySlot parsed entries = .ok (next, rest)) :
    UnderWay grammar next rest ∧
      (rest.length < entries.length ∨ (next = parsed ∧ rest = entries)) := by
  cases free : parsed.arguments with
  | some taken =>
      simp only [Grammar.trySlot, free, Option.isSome_some, if_true] at tried
      cases tried
      exact ⟨underWay, .inr ⟨rfl, rfl⟩⟩
  | none =>
      simp only [Grammar.trySlot, free, Option.isSome_none, Bool.false_eq_true,
        if_false] at tried
      split at tried
      · cases tried
        exact ⟨underWay, .inr ⟨rfl, rfl⟩⟩
      · rename_i some_
        obtain ⟨filled, fillOk, tried⟩ := Http.bind_eq_ok_iff.mp tried
        cases tried
        obtain ⟨arguments, marked⟩ := underWay.free free
        obtain ⟨taken, takes, belongs⟩ :=
          takes_of_fillSlot marked some_ fillOk
        refine ⟨.of_taken takes belongs _, .inl ?_⟩
        have begun : entries ≠ [] := by
          rintro rfl
          exact some_ (slotLength_nil _)
        have := List.length_pos_iff.mpr begun
        rw [List.length_drop]
        omega

theorem UnderWay.takeOption {input : String} {found : FoundOption}
    {rest after : List (String × Mark)}
    (underWay : UnderWay grammar parsed ((input, .option found) :: rest))
    (took : grammar.takeOption parsed input found rest = .ok (next, after)) :
    UnderWay grammar next after := by
  have tail : parsed.arguments = none →
      ∃ arguments, grammar.marks arguments = .ok rest := by
    intro free
    obtain ⟨arguments, marked⟩ := underWay.free free
    rcases marks_cons marked with ⟨same, _⟩ | ⟨_, _, marked⟩
    · cases same
    · exact marked
  unfold Grammar.takeOption at took
  split at took
  · cases took
    exact ⟨underWay.taken, tail⟩
  · split at took
    · cases took
    · cases took
    · cases took
      exact ⟨underWay.taken, tail⟩
    · cases took
    · cases took
      exact ⟨underWay.taken, tail⟩
    · split at took
      · cases took
        refine ⟨underWay.taken, fun free => ?_⟩
        obtain ⟨arguments, marked⟩ := tail free
        rcases marks_cons marked with ⟨same, _⟩ | ⟨_, _, marked⟩
        · cases same
        · exact marked
      · cases took

theorem UnderWay.parseFrom {bound : Nat}
    (underWay : UnderWay grammar parsed entries)
    (read : grammar.parseFrom bound parsed entries = .ok next) :
    ∀ taken, next.arguments = some taken → grammar.slot.Takes taken := by
  induction bound generalizing parsed entries with
  | zero =>
      cases read
      exact underWay.taken
  | succ bound ih =>
      unfold Grammar.parseFrom at read
      split at read
      · obtain ⟨⟨tried, rest⟩, triedOk, read⟩ := Http.bind_eq_ok_iff.mp read
        cases read
        exact (underWay.trySlot triedOk).1.taken
      · rename_i optional
        split at read
        · obtain ⟨⟨took, rest⟩, tookOk, read⟩ := Http.bind_eq_ok_iff.mp read
          exact ih (underWay.takeOption tookOk) read
        · obtain ⟨⟨tried, rest⟩, triedOk, reads⟩ := Http.bind_eq_ok_iff.mp read
          obtain ⟨underWay, shorter | ⟨rfl, rfl⟩⟩ := underWay.trySlot triedOk
          · simp only [if_pos shorter] at reads
            exact ih underWay reads
          · simp only [Nat.lt_irrefl, if_false] at reads
            refine ih ?_ reads
            refine ⟨underWay.taken, fun free => ?_⟩
            obtain ⟨arguments, marked⟩ := underWay.free free
            exact marks_drop_skipped marked (by simpa using optional)

theorem takes_of_parse {taken : List String}
    (read : grammar.parse arguments = .ok next)
    (filled : next.arguments = some taken) : grammar.slot.Takes taken := by
  unfold Grammar.parse at read
  obtain ⟨entries, marked, read⟩ := Http.bind_eq_ok_iff.mp read
  obtain ⟨other, parsedOk, read⟩ := Http.bind_eq_ok_iff.mp read
  split at read
  · cases read
  · cases read
    have begins : UnderWay grammar ⟨[], [], none, []⟩ entries :=
      ⟨fun _ none => (by cases none), fun _ => ⟨arguments, marked⟩⟩
    exact begins.parseFrom parsedOk _ filled

theorem exists_arguments_of_parse
    (read : grammar.parse arguments = .ok next) (asks : grammar.slot ≠ .nothing) :
    ∃ taken, next.arguments = some taken ∧ grammar.slot.Takes taken := by
  cases filled : next.arguments with
  | some taken => exact ⟨taken, rfl, takes_of_parse read filled⟩
  | none =>
      unfold Grammar.parse at read
      obtain ⟨entries, _, read⟩ := Http.bind_eq_ok_iff.mp read
      obtain ⟨other, _, read⟩ := Http.bind_eq_ok_iff.mp read
      split at read
      · cases read
      · rename_i complete
        cases read
        unfold missing? at complete
        cases slot : grammar.slot <;> simp_all

end Grammar

namespace Invocation

theorem permissions_ne_nil {arguments permissions : List String}
    {invocation : Invocation} {needsAll : Bool}
    (understood : ofArguments? arguments = .ok invocation)
    (checks : invocation.task = .check permissions needsAll) :
    permissions ≠ [] := by
  unfold ofArguments? at understood
  obtain ⟨parsed, parsedOk, understood⟩ := Http.bind_eq_ok_iff.mp understood
  obtain ⟨taken, filled, chosen⟩ :=
    Grammar.exists_arguments_of_parse parsedOk (by simp [grammar])
  simp only [filled] at understood
  cases taken with
  | nil => simp [grammar, Slot.Takes] at chosen
  | cons command rest =>
      obtain ⟨inner, innerOk, understood⟩ :=
        Http.bind_eq_ok_iff.mp understood
      split at understood
      · cases understood
        simp only [taskOf] at checks
        split at checks
        · cases checks
        · split at checks
          · cases checks
          · rename_i notWhoami notPages
            have isCheck : command = "check" := by
              simp_all [grammar, Slot.Takes]
            subst isCheck
            obtain ⟨named, filled, some_⟩ :=
              Grammar.exists_arguments_of_parse innerOk (by simp [commandGrammar])
            cases checks
            simpa [filled, commandGrammar, Slot.Takes] using some_
      · cases understood

end Invocation

end AdminGate.Command

import AdminGate.Proofs.LogLines

/-!
# What a record tells of itself

Every record tells when it was made, at which level, by which logger and with which
wording.  A value that is given with it under the name of something that all records
have is refused or hidden, which saves the wording.  But time, level and logger are
called differently in a line than in a record, so under the names that they have in a
line a value takes their place.  `TellsOwn` says field by field what a line tells.
-/

namespace AdminGate

theorem LogStamp.get?_marked {own : Fields} (distinct : own.Distinct)
    (stamp : Option LogStamp) {name : String}
    (apart : name ∉ ["request_id", "method", "url"]) :
    (marked stamp own).get? name = own.get? name := by
  cases stamp with
  | none => rfl
  | some stamp =>
      have missing : stamp.fields.get? name = none :=
        Assoc.get?_eq_none_iff.mpr fun field member same =>
          apart (same ▸ List.mem_map_of_mem (f := Prod.fst) member)
      rw [marked, mark, Assoc.get?_insertAll, missing, Option.or_none]
      exact (distinct.get?_of_perm own.reverse_perm.symm name).symm

namespace LogRecord

variable {marks : LogMarks} {record : LogRecord} {message name : String}
  {given values : Fields}

/-- A record without the values that are given with it. -/
def bare (record : LogRecord) : LogRecord :=
  { record with extra := [] }

/-- What the line of a record tells in the fields that all records have, where values
are given with it.  The wording is always that of the record. -/
structure TellsOwn (marks : LogMarks) (record : LogRecord) (message : String)
    (given : Fields) : Prop where
  once : (record.lineFields marks message).Distinct
  time : (record.lineFields marks message).get? "ts" =
    some ((given.get? "ts").getD (.text marks.time))
  level : (record.lineFields marks message).get? "level" =
    some ((given.get? "level").getD (.text record.level.name))
  logger : (record.lineFields marks message).get? "logger" =
    some ((given.get? "logger").getD (.text record.logger))
  wording : (record.lineFields marks message).get? "message" = some (.text message)
  /-- What nothing is given for is told as without any given values. -/
  alike : ∀ name ∈ ["ts", "level", "logger", "message"],
    name = "message" ∨ given.get? name = none →
      (record.lineFields marks message).get? name =
        (record.bare.lineFields marks message).get? name

theorem get?_shownValues (values : Fields) (name : String) :
    (shownValues values).get? name = if isShown name then values.get? name else none := by
  rw [← filter_isShown]
  exact Assoc.get?_filter values isShown name

/-- A field of a line is the value that is shown under its name, or else the record's
own. -/
theorem get?_lineFields (distinct : record.extra.Distinct) (other : name ≠ "exc_info") :
    (record.lineFields marks message).get? name =
      ((shownValues record.extra).get? name).or
        ((ownFields marks record message).get? name) := by
  have shown : (shownValues record.extra).Distinct :=
    List.Nodup.sublist (List.filter_sublist.map Prod.fst) distinct
  have reversed := shown.get?_of_perm (List.reverse_perm _).symm name
  rw [lineFields_eq_insertAll, reversed, ← Assoc.get?_insertAll]
  rcases exceptionField_cases marks record.exception with none | ⟨text, one⟩
  · rw [none]
    rfl
  · rw [one]
    exact (Assoc.get?_insert _ _ _ _).trans (if_neg other)

theorem get?_lineFields_message (distinct : record.extra.Distinct) :
    (record.lineFields marks message).get? "message" = some (.text message) := by
  have hidden : isShown "message" = false := by decide
  rw [get?_lineFields distinct (by decide), get?_shownValues, hidden]
  rfl

/-- A field whose name is shown gives way to a value of that name. -/
theorem get?_lineFields_of_shown (distinct : record.extra.Distinct)
    (shown : isShown name = true) (other : name ≠ "exc_info") {own : Json}
    (tells : (ownFields marks record message).get? name = some own) :
    (record.lineFields marks message).get? name =
      some ((record.extra.get? name).getD own) := by
  rw [get?_lineFields distinct other, get?_shownValues, if_pos shown, tells]
  cases record.extra.get? name <;> rfl

theorem get?_lineFields_bare (distinct : record.extra.Distinct) (other : name ≠ "exc_info")
    (fresh : record.extra.get? name = none) :
    (record.lineFields marks message).get? name =
      (record.bare.lineFields marks message).get? name := by
  have none : record.bare.extra.Distinct := List.nodup_nil
  rw [get?_lineFields distinct other, get?_lineFields none other, get?_shownValues, fresh,
    ite_self]
  rfl

theorem tellsOwn (distinct : record.extra.Distinct) :
    TellsOwn marks record message record.extra where
  once := distinct_lineFields marks record message
  time := get?_lineFields_of_shown distinct (by decide) (by decide) rfl
  level := get?_lineFields_of_shown distinct (by decide) (by decide) rfl
  logger := get?_lineFields_of_shown distinct (by decide) (by decide) rfl
  wording := get?_lineFields_message distinct
  alike := by
    intro name known fresh
    rcases fresh with rfl | fresh
    · have none : record.bare.extra.Distinct := List.nodup_nil
      rw [get?_lineFields_message distinct, get?_lineFields_message none]
    · have others : ∀ name ∈ ["ts", "level", "logger", "message"], name ≠ "exc_info" := by
        decide
      exact get?_lineFields_bare distinct (others name known) fresh

/-- A line that is made in JSON form is that of the message. -/
theorem eq_jsonLine_of_line? {line : String} (formatted : record.message = some message)
    (made : record.line? marks true = .ok line) : line = record.jsonLine marks message := by
  rw [line?, formatted] at made
  split at made
  · cases made
  · simp only [Bool.not_true, Bool.false_eq_true, if_false] at made
    split at made <;> cases made
    rfl

/-- What is told depends on the given values of the four names alone. -/
theorem TellsOwn.of_get?_eq (tells : TellsOwn marks record message values)
    (same : ∀ name ∈ ["ts", "level", "logger", "message"],
      values.get? name = given.get? name) :
    TellsOwn marks record message given where
  once := tells.once
  time := by rw [tells.time, same _ (by decide)]
  level := by rw [tells.level, same _ (by decide)]
  logger := by rw [tells.logger, same _ (by decide)]
  wording := tells.wording
  alike := fun name known fresh =>
    tells.alike name known (fresh.imp_right fun none => (same name known).trans none)

end LogRecord

namespace Logging

open LogRecord (Lossless TellsOwn)

/-- Every line that `emit` makes is the line of the record at one of the handlers. -/
theorem line?_of_mem_emit {marks : LogMarks} {record : LogRecord} {line : String}
    {handlers : List LogHandler} (member : line ∈ (emit marks record handlers).lines) :
    ∃ handler ∈ handlers, record.line? marks handler.isJson = .ok line := by
  induction handlers with
  | nil => cases member
  | cons handler rest ih =>
      have behind (later : line ∈ (emit marks record rest).lines) :
          ∃ other ∈ handler :: rest, record.line? marks other.isJson = .ok line := by
        obtain ⟨other, within, made⟩ := ih later
        exact ⟨other, List.mem_cons_of_mem handler within, made⟩
      rw [emit] at member
      split at member
      · rename_i text made
        rcases List.mem_cons.mp member with rfl | later
        · exact ⟨handler, List.mem_cons_self, made⟩
        · exact behind later
      · exact behind member
      · cases member

end Logging

end AdminGate

import AdminGate.Log.Logging
import AdminGate.Proofs.JsonTexts
import Mathlib.Data.List.Forall2

/-!
# Log lines

A line in JSON form loses nothing of its record.  It holds no control character, and
read as JSON it is an object of the time, the level, the logger and the message, of all
values of the record that are not hidden, in their order, and of what the record has to
say of an exception.  A line in plain form ends with what is known about the call.  The
values of a record that is logged about a call are those that are given, and those of
the call's stamp where none are.  All this takes values that are not nested deeper than
there is room for; otherwise there is no line.
-/

namespace AdminGate

/-! ## Stamped values -/

namespace LogStamp

variable {own : Fields} {stamp : Option LogStamp}

/-- What a record carries: its own values, and with a stamp the three of the call in
front, each as it is given or else as the stamp has it. -/
def carried (stamp : Option LogStamp) (own : Fields) : Fields :=
  match stamp with
  | none => own
  | some stamp => [
      ("request_id", (own.get? "request_id").getD stamp.requestId),
      ("method", (own.get? "method").getD stamp.method),
      ("url", (own.get? "url").getD stamp.url)] ++
        own.without ["request_id", "method", "url"]

theorem distinct_fields (stamp : LogStamp) : stamp.fields.Distinct := by
  have names : (["request_id", "method", "url"] : List String).Nodup := by decide
  exact names

theorem marked_eq (distinct : own.Distinct) (stamp : Option LogStamp) :
    marked stamp own = carried stamp own := by
  cases stamp with
  | none => rfl
  | some stamp =>
      have names : ∀ name, (!stamp.fields.has name) =
          !List.contains ["request_id", "method", "url"] name := by
        intro name
        by_cases first : name = "request_id"
        · simp [fields, Assoc.has, Assoc.get?, first]
        by_cases second : name = "method"
        · simp [fields, Assoc.has, Assoc.get?, second]
        by_cases third : name = "url" <;>
          simp [fields, Assoc.has, Assoc.get?, first, second, third]
      rw [marked, mark, Assoc.insertAll_eq stamp.distinct_fields distinct]
      simp only [names]
      rfl

theorem distinct_marked (distinct : own.Distinct) (stamp : Option LogStamp) :
    (marked stamp own).Distinct := by
  cases stamp with
  | none => exact distinct
  | some stamp => exact Assoc.Distinct.insertAll stamp.distinct_fields own

end LogStamp

/-! ## Lines in JSON form -/

namespace LogRecord

variable {marks : LogMarks} {record : LogRecord} {message : String} {values : Fields}

def ownFields (marks : LogMarks) (record : LogRecord) (message : String) : Fields := [
  ("ts", .text marks.time),
  ("level", .text record.level.name),
  ("logger", .text record.logger),
  ("message", .text message)]

/-- The values whose names are not hidden and do not begin with an underscore. -/
def shownValues (values : Fields) : Fields :=
  values.filter fun field => field.1 ∉ hiddenNames ∧ field.1.toList.head? ≠ some '_'

/-- What a line says of an exception.  That there was none when one was asked for is
said in a field, too. -/
def exceptionField (marks : LogMarks) : ExceptionNote → Fields
  | .absent => []
  | .bare => [("exc_info", .text "NoneType: None")]
  | .attached => [("exc_info", .text marks.failure)]

/-- The fields of a line: those of every record, the values that are shown, and the
exception. -/
def lineValues (marks : LogMarks) (record : LogRecord) (message : String)
    (values : Fields) : Fields :=
  ownFields marks record message ++ shownValues values ++
    exceptionField marks record.exception

/-- Values that can be logged in JSON form: they can be written, and their names are
not those of the record's own fields. -/
structure Loggable (values : Fields) : Prop where
  writable : ∀ field ∈ values, field.2.Writable
  free : ∀ field ∈ values, field.1 ∉ ["ts", "level", "logger"]

/-- A line without control characters that is read as an object of fields, however
deep they are: the reader just needs the room for it. -/
structure Lossless (fields : Fields) (line : String) : Prop where
  single : ∀ character ∈ line.toList, 32 ≤ character.toNat
  spells : ∀ room, (Json.object fields).depth ≤ room →
    Json.readWithin room line.toList = .ok (.object fields)
  reads : (Json.object fields).depth ≤ Json.deepestNesting →
    Json.ofString? line = some (.object fields)

theorem isShown_iff (name : String) :
    isShown name = true ↔ name ∉ hiddenNames ∧ name.toList.head? ≠ some '_' := by
  have mark : "_".toList <+: name.toList ↔ name.toList.head? = some '_' := by
    cases name.toList <;> simp [List.cons_prefix_cons, eq_comm]
  simp only [isShown, Bool.and_eq_true, Bool.not_eq_true', ← Bool.not_eq_true,
    List.isPrefixOf_iff_prefix, mark, List.contains_iff_mem]

theorem filter_isShown (values : Fields) :
    (values.filter fun field => isShown field.1) = shownValues values :=
  List.filter_congr fun field _ => by
    rw [Bool.eq_iff_iff, isShown_iff, decide_eq_true_iff]

/-- Values that are shown stand under other names than the fields of a line. -/
theorem Loggable.apart (loggable : Loggable values) :
    ∀ field ∈ shownValues values,
      field.1 ∉ ["ts", "level", "logger", "message", "exc_info"] := by
  intro field member
  obtain ⟨within, shown⟩ := List.mem_filter.mp member
  have hidden := (of_decide_eq_true shown).1
  have known : ∀ name ∈ ["ts", "level", "logger", "message", "exc_info"],
      name ∈ ["ts", "level", "logger"] ∨ name ∈ hiddenNames := by
    decide
  exact fun taken => (known field.1 taken).elim (loggable.free field within) hidden

theorem distinct_ownFields (marks : LogMarks) (record : LogRecord) (message : String) :
    (ownFields marks record message).Distinct := by
  have names : (["ts", "level", "logger", "message"] : List String).Nodup := by decide
  exact names

theorem ownFields_ne {field : String × Json} {name : String}
    (member : field ∈ ownFields marks record message)
    (apart : name ∉ ["ts", "level", "logger", "message", "exc_info"]) :
    field.1 ≠ name := by
  have known : ∀ name ∈ ["ts", "level", "logger", "message"],
      name ∈ ["ts", "level", "logger", "message", "exc_info"] := by
    decide
  have named : field.1 ∈ ["ts", "level", "logger", "message"] :=
    List.mem_map_of_mem member
  exact fun same => apart (same ▸ known field.1 named)

theorem insertAll_shownValues (loggable : Loggable values) (distinct : values.Distinct) :
    (ownFields marks record message).insertAll (shownValues values) =
      ownFields marks record message ++ shownValues values := by
  have shown : (shownValues values).Distinct :=
    List.Nodup.sublist (List.filter_sublist.map Prod.fst) distinct
  refine Assoc.insertAll_of_fresh (distinct_ownFields marks record message) shown ?_
  intro field member
  exact Assoc.get?_eq_none_iff.mpr fun own within =>
    ownFields_ne within (loggable.apart field member)

theorem lineFields_eq_insertAll :
    record.lineFields marks message =
      ((ownFields marks record message).insertAll (shownValues record.extra)).insertAll
        (exceptionField marks record.exception) := by
  rw [← filter_isShown, lineFields]
  cases record.exception <;> rfl

theorem exceptionField_cases (marks : LogMarks) (note : ExceptionNote) :
    exceptionField marks note = [] ∨
      ∃ text, exceptionField marks note = [("exc_info", .text text)] := by
  cases note with
  | absent => exact .inl rfl
  | bare | attached => exact .inr ⟨_, rfl⟩

theorem lineFields_eq (loggable : Loggable record.extra)
    (distinct : record.extra.Distinct) :
    record.lineFields marks message = lineValues marks record message record.extra := by
  rw [lineFields_eq_insertAll, insertAll_shownValues loggable distinct, lineValues]
  have missing : ∀ field ∈ ownFields marks record message ++ shownValues record.extra,
      field.1 ≠ "exc_info" := by
    intro field member
    rcases List.mem_append.mp member with own | shown
    · have known : ∀ name ∈ ["ts", "level", "logger", "message"], name ≠ "exc_info" := by
        decide
      exact known field.1 (List.mem_map_of_mem own)
    · intro same
      exact loggable.apart field shown (by simp [same])
  rcases exceptionField_cases marks record.exception with none | ⟨text, one⟩
  · rw [none, List.append_nil]
    rfl
  · rw [one]
    exact Assoc.insert_of_missing missing _

theorem distinct_lineFields (marks : LogMarks) (record : LogRecord) (message : String) :
    (record.lineFields marks message).Distinct := by
  have all := Assoc.Distinct.insertAll (distinct_ownFields marks record message)
    (shownValues record.extra)
  rw [lineFields_eq_insertAll]
  exact all.insertAll _

/-- What holds of texts and of the values that are shown holds of all values of a line. -/
theorem forall_lineFields {holds : Json → Prop} (texts : ∀ text, holds (.text text))
    (shown : ∀ field ∈ shownValues record.extra, holds field.2) :
    ∀ field ∈ record.lineFields marks message, holds field.2 := by
  have own : ∀ field ∈ ownFields marks record message, holds field.2 := by
    simp only [ownFields, List.forall_mem_cons]
    exact ⟨texts _, texts _, texts _, texts _, List.forall_mem_nil _⟩
  have exception : ∀ field ∈ exceptionField marks record.exception, holds field.2 := by
    rcases exceptionField_cases marks record.exception with none | ⟨text, one⟩
    · rw [none]
      exact List.forall_mem_nil _
    · rw [one]
      exact List.forall_mem_singleton.mpr (texts text)
  rw [lineFields_eq_insertAll]
  exact Assoc.forall_insertAll (Assoc.forall_insertAll own shown) exception

theorem jsonLine_lossless_lineFields (each : ∀ field ∈ record.extra, field.2.Writable) :
    Lossless (record.lineFields marks message) (record.jsonLine marks message) := by
  have shown : ∀ field ∈ shownValues record.extra, field.2.Writable :=
    fun field member => each field (List.mem_filter.mp member).1
  have writable : (Json.object (record.lineFields marks message)).Writable :=
    .object (distinct_lineFields marks record message)
      (forall_lineFields (fun _ => .text _) shown)
  constructor
  · rw [jsonLine, Json.render, String.toList_ofList]
    exact Json.plain_written writable
  · intro room deep
    exact Json.readWithin_render writable deep
  · intro shallow
    rw [jsonLine, Json.ofString?, Json.parse?, Json.readText,
      Json.readWithin_render writable shallow]
    rfl

theorem jsonLine_lossless (loggable : Loggable record.extra)
    (distinct : record.extra.Distinct) :
    Lossless (lineValues marks record message record.extra)
      (record.jsonLine marks message) := by
  rw [← lineFields_eq loggable distinct]
  exact jsonLine_lossless_lineFields loggable.writable

/-! ## Lines in plain form -/

/-- The values about the call that a line ends with: those that are there and worth
showing, in their order. -/
structure ShowsContext (values shown : Fields) : Prop where
  ordered : (shown.map Prod.fst).Sublist ["request_id", "method", "url", "status"]
  shown : ∀ name value, (name, value) ∈ shown ↔
    name ∈ ["request_id", "method", "url", "status"] ∧ values.get? name = some value ∧
      value ≠ .null ∧ value ≠ .text ""

def suffix (shown : Fields) : String :=
  String.join (shown.map fun field =>
    " " ++ field.1 ++ "=" ++ String.ofList field.2.display)

/-- A line that begins with the fields of every record, goes on with the call, and
ends with the exception. -/
def Suffixed (marks : LogMarks) (record : LogRecord) (message : String) (values : Fields)
    (line : String) : Prop :=
  ∃ shown behind, ShowsContext values shown ∧
    line = marks.time ++ " " ++ record.level.name ++ " " ++ record.logger ++ " " ++
      message ++ suffix shown ++ behind ∧
    behind ∈ match record.exception with
      | .absent => [""]
      | .bare => ["NoneType: None", "\nNoneType: None"]
      | .attached => [marks.failure, "\n" ++ marks.failure]

theorem isPresent_iff (value : Json) :
    isPresent value = true ↔ value ≠ .null ∧ value ≠ .text "" := by
  cases value <;> simp [isPresent]

/-- What is shown of the value under a name. -/
def shown? (values : Fields) (name : String) : Option (String × Json) :=
  ((values.get? name).filter isPresent).map fun value => (name, value)

theorem shown?_eq_some_iff {name : String} {field : String × Json} :
    shown? values name = some field ↔
      name = field.1 ∧ values.get? name = some field.2 ∧ isPresent field.2 = true := by
  simp only [shown?, Option.map_eq_some_iff, Option.filter_eq_some_iff]
  constructor
  · rintro ⟨value, ⟨found, present⟩, rfl⟩
    exact ⟨rfl, found, present⟩
  · rintro ⟨rfl, found, present⟩
    exact ⟨field.2, ⟨found, present⟩, rfl⟩

theorem names_filterMap_shown? (values : Fields) (names : List String) :
    ((names.filterMap (shown? values)).map Prod.fst).Sublist names := by
  induction names with
  | nil => exact List.Sublist.slnil
  | cons name names ih =>
      rw [List.filterMap_cons]
      cases found : shown? values name with
      | none => exact ih.cons name
      | some field =>
          have title := (shown?_eq_some_iff.mp found).1
          simpa [title] using ih

theorem contextText_shows (values : Fields) :
    ∃ shown, ShowsContext values shown ∧ contextText values = suffix shown := by
  refine ⟨contextNames.filterMap (shown? values),
    ⟨names_filterMap_shown? values contextNames, ?_⟩, ?_⟩
  · intro name value
    rw [List.mem_filterMap, ← isPresent_iff]
    constructor
    · rintro ⟨title, known, found⟩
      obtain ⟨rfl, there, present⟩ := shown?_eq_some_iff.mp found
      exact ⟨known, there, present⟩
    · rintro ⟨known, there, present⟩
      exact ⟨name, known, shown?_eq_some_iff.mpr ⟨rfl, there, present⟩⟩
  · rw [suffix, List.map_filterMap, contextText]
    congr 1
    refine List.filterMap_congr fun name _ => ?_
    unfold shown?
    cases values.get? name with
    | none => rfl
    | some value => cases present : isPresent value <;> simp [present, Option.filter]

theorem plainLine_suffixed (marks : LogMarks) (record : LogRecord) (message : String) :
    Suffixed marks record message record.extra (record.plainLine marks message) := by
  obtain ⟨shown, shows, same⟩ := contextText_shows record.extra
  unfold plainLine Suffixed
  rw [same]
  cases record.exception with
  | absent => exact ⟨shown, "", shows, String.append_empty.symm, by simp⟩
  | bare | attached =>
      simp only [ExceptionNote.text?]
      split
      · exact ⟨shown, _, shows, rfl, by simp⟩
      · exact ⟨shown, _, shows, String.append_assoc, by simp⟩

/-! ## Room for nested values -/

/-- Values that are not nested deeper than there is room for in the line of a handler. -/
structure Fits (marks : LogMarks) (values : Fields) (handler : LogHandler) : Prop where
  context : ∀ name ∈ ["request_id", "method", "url", "status"], ∀ value,
    values.get? name = some value → value.levels ≤ marks.contextRoom + 1
  line : handler.isJson = true →
    ∀ field ∈ shownValues values, field.2.depth ≤ marks.lineRoom

theorem Fits.of_forall {handler : LogHandler}
    (each : ∀ field ∈ values, field.2.depth ≤ marks.lineRoom ∧
      (field.1 ∈ ["request_id", "method", "url", "status"] →
        field.2.levels ≤ marks.contextRoom + 1)) : Fits marks values handler where
  context _ known _ given :=
    (each _ (Assoc.mem_of_get?_eq_some given)).2 known
  line _ field member := (each field (List.mem_filter.mp member).1).1

theorem isContextDeep_eq_false {handler : LogHandler} (fits : Fits marks values handler) :
    isContextDeep marks values = false := by
  refine List.any_eq_false.mpr fun name known => ?_
  cases found : values.get? name with
  | none => simp
  | some value => simpa using fits.context name known value found

theorem isLineDeep_eq_false
    (shallow : ∀ field ∈ shownValues record.extra, field.2.depth ≤ marks.lineRoom) :
    record.isLineDeep marks message = false := by
  have all := @forall_lineFields marks record message (·.depth ≤ marks.lineRoom)
    (fun _ => Nat.zero_le _) shallow
  exact List.any_eq_false.mpr fun field member => by simpa using all field member

/-- Where there is room, a record whose message has been put together makes a line. -/
theorem line?_of_fits {handler : LogHandler} (fits : Fits marks record.extra handler)
    (formatted : record.message = some message) :
    record.line? marks handler.isJson =
      .ok (if handler.isJson then record.jsonLine marks message
        else record.plainLine marks message) := by
  simp only [line?, isContextDeep_eq_false fits, formatted]
  cases json : handler.isJson with
  | false => rfl
  | true => simp [isLineDeep_eq_false (fits.line json)]

end LogRecord

/-! ## Lines of handlers -/

namespace Logging

open LogRecord (Fits Loggable Lossless Suffixed lineValues)

/-- What the line of a handler amounts to. -/
structure Renders (marks : LogMarks) (record : LogRecord) (message : String)
    (values : Fields) (handler : LogHandler) (line : String) : Prop where
  json : handler.isJson = true → Loggable values →
    Lossless (lineValues marks record message values) line
  plain : handler.isJson = false → Suffixed marks record message values line

/-- Handlers that all make a line of a record write these lines, and nothing ends the
call. -/
theorem emit_of_lines {marks : LogMarks} {record : LogRecord} {text : LogHandler → String}
    {handlers : List LogHandler}
    (each : ∀ handler ∈ handlers, record.line? marks handler.isJson = .ok (text handler)) :
    emit marks record handlers = ⟨handlers.map text, none⟩ := by
  induction handlers with
  | nil => rfl
  | cons handler rest ih =>
      have later := ih fun other member => each other (List.mem_cons_of_mem handler member)
      simp only [emit, each handler List.mem_cons_self, later]
      rfl

/-- The values of what the client itself reports are flat, so reporting never ends a call. -/
theorem raised_entry (logging : Logging) (marks : LogMarks) (entry : LogEntry) :
    (logging.emission marks entry.record).raised = none := by
  have flat : ∀ field ∈ entry.extra, field.2.levels ≤ 1 ∧ field.2.depth = 0 := by
    obtain ⟨event, context⟩ := entry
    cases status : event.status? <;> cases context <;>
      simp [LogEntry.extra, status, LogStamp.marked, LogStamp.mark, LogStamp.fields,
        CallContext.stamp, Assoc.insertAll, Assoc.insert, Json.levels, Json.depth]
  have fits (handler : LogHandler) : Fits marks entry.record.extra handler :=
    .of_forall fun field member =>
      ⟨(flat field member).2 ▸ Nat.zero_le _,
        fun _ => Nat.le_trans (flat field member).1 (Nat.le_add_left 1 _)⟩
  have worded : entry.record.message = some entry.event.message := rfl
  rw [emission, emit_of_lines fun handler _ => LogRecord.line?_of_fits (fits handler) worded]

/-! ## Lines that are lost or break -/

def nested : Nat → Json
  | 0 => .array []
  | count + 1 => .array [nested count]

theorem depth_nested (count : Nat) : (nested count).depth = count + 1 := by
  induction count with
  | zero => rfl
  | succ count ih => simp [nested, Json.depth, Json.depthOfItems, ih]

theorem levels_nested (count : Nat) : (nested count).levels = count + 1 := by
  induction count with
  | zero => rfl
  | succ count ih => simp [nested, Json.levels, Json.levelsOfItems, ih]

theorem writable_nested (count : Nat) : (nested count).Writable := by
  induction count with
  | zero => exact .array (List.forall_mem_nil _)
  | succ count ih => exact .array (List.forall_mem_singleton.mpr ih)

end Logging

end AdminGate

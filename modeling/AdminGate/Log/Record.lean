import AdminGate.Json.Printer
import AdminGate.Log.Event

/-!
# Log records

A record is written as one line: in the plain form with what is known about the call behind the
message, or as a JSON object whose fields are the time, the level, the part that reports, the
message, and then the other values of the record.  Where values are nested deeper than there is
room for, no line is made.
-/

namespace AdminGate

/-- What a record finds where it is written: the time, the wording of the exception that is
attached to it, and how much deeper than its own values those inside them may be, in a JSON line
and among the values about the call. -/
structure LogMarks where
  time : String
  failure : String
  lineRoom : Nat
  contextRoom : Nat
deriving Repr

/-- What a record has to say of an exception: nothing, that there was none when it was asked for,
or the one that is attached. -/
inductive ExceptionNote where
  | absent
  | bare
  | attached
deriving DecidableEq, Repr

def ExceptionNote.text? (marks : LogMarks) : ExceptionNote → Option String
  | absent => none
  | bare => some "NoneType: None"
  | attached => some marks.failure

/-- A record.  Its message is missing when the arguments do not fit into it. -/
structure LogRecord where
  level : LogLevel
  logger : String
  message : Option String
  extra : Fields
  exception : ExceptionNote
deriving Repr

/-- Where values are nested too deep: among those about the call, or in a JSON line. -/
inductive DeepNesting where
  | context
  | line
deriving DecidableEq, Repr

/-- The wording of the error that a logging call ends with then. -/
def DeepNesting.message : DeepNesting → String
  | context => "maximum recursion depth exceeded while getting the repr of an object"
  | line => "maximum recursion depth exceeded while encoding a JSON object"

/-- Why a record makes no line: the arguments do not fit into its message, or its values are nested
too deep. -/
inductive LineFault where
  | unformatted
  | tooDeep (place : DeepNesting)
deriving DecidableEq, Repr

def LogEntry.record (entry : LogEntry) : LogRecord :=
  ⟨entry.event.level, entry.event.logger, some entry.event.message, entry.extra,
    if entry.event.hasException then .attached else .absent⟩

namespace LogRecord

/-- The names that every record has; an extra value must not take one of them. -/
def takenNames : List String := [
  "name", "msg", "args", "levelname", "levelno", "pathname", "filename", "module", "exc_info",
  "exc_text", "stack_info", "lineno", "funcName", "created", "msecs", "relativeCreated", "thread",
  "threadName", "processName", "process", "message", "asctime"]

/-- The names of extra values that stay out of a JSON line. -/
def hiddenNames : List String := takenNames ++ ["taskName", "request_context"]

/-- Whether an extra value is part of a JSON line. -/
def isShown (name : String) : Bool :=
  !hiddenNames.contains name && !"_".toList.isPrefixOf name.toList

/-- The first extra value whose name is taken. -/
def clash? (extra : Fields) : Option String :=
  (extra.map Prod.fst).find? takenNames.contains

/-- The values about the call that a plain line ends with. -/
def contextNames : List String := ["request_id", "method", "url", "status"]

/-- Whether a value is worth showing in a plain line. -/
def isPresent : Json → Bool
  | .null => false
  | .text value => !value.isEmpty
  | _ => true

/-- What a plain line says about the call. -/
def contextText (extra : Fields) : String :=
  String.join (contextNames.filterMap fun name =>
    match extra.get? name with
    | some value =>
        if isPresent value then some (" " ++ name ++ "=" ++ String.ofList value.display) else none
    | none => none)

/-- Whether a value about the call is nested too deep to be worded. -/
def isContextDeep (marks : LogMarks) (extra : Fields) : Bool :=
  contextNames.any fun name => (extra.get? name).any fun value =>
    marks.contextRoom + 1 < value.levels

def plainLine (marks : LogMarks) (record : LogRecord) (message : String) : String :=
  let line := marks.time ++ " " ++ record.level.name ++ " " ++ record.logger ++ " " ++ message ++
    contextText record.extra
  match record.exception.text? marks with
  | none => line
  | some text => if line.toList.getLast? == some '\n' then line ++ text else line ++ "\n" ++ text

/-- The fields of the JSON form.  An extra value may take the place of any field before it. -/
def lineFields (marks : LogMarks) (record : LogRecord) (message : String) : Fields :=
  let own : Fields := [("ts", .text marks.time), ("level", .text record.level.name),
    ("logger", .text record.logger), ("message", .text message)]
  let all := own.insertAll (record.extra.filter fun field => isShown field.1)
  match record.exception.text? marks with
  | none => all
  | some text => all.insert "exc_info" (.text text)

def jsonLine (marks : LogMarks) (record : LogRecord) (message : String) : String :=
  (Json.object (record.lineFields marks message)).render

/-- Whether a value of the JSON form is nested too deep to be written. -/
def isLineDeep (marks : LogMarks) (record : LogRecord) (message : String) : Bool :=
  (record.lineFields marks message).any fun field => marks.lineRoom < field.2.depth

/-- The line that a record makes in one of the two forms.  The values about the call are worded
first, whether the form has a place for them or not. -/
def line? (marks : LogMarks) (isJson : Bool) (record : LogRecord) : Except LineFault String :=
  if isContextDeep marks record.extra then .error (.tooDeep .context)
  else
    match record.message with
    | none => .error .unformatted
    | some message =>
        if !isJson then .ok (record.plainLine marks message)
        else if record.isLineDeep marks message then .error (.tooDeep .line)
        else .ok (record.jsonLine marks message)

end LogRecord

end AdminGate

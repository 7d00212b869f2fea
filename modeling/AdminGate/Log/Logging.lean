import AdminGate.Log.Record
import AdminGate.Log.Template
import AdminGate.Settings.Basic

/-!
# Logging

Which records are written, and in which form.  Before it is set up nothing is written.  Setting it
up gives the client's loggers a handler of their own, and the root logger the same one if the
environment asks for that; a second time it has no effect unless it is forced.  It goes step by
step, and a step that is refused leaves what the steps before it have done.
-/

namespace AdminGate

/-- Where records are written: from which level on, and in which form. -/
structure LogHandler where
  level : LogLevel
  isJson : Bool
deriving DecidableEq, Repr

/-- The state of logging: the logger above those of the client with its handlers, and the root
logger with its own. -/
structure Logging where
  isConfigured : Bool
  clientHandlers : List LogHandler
  level : LogLevel
  propagates : Bool
  rootHandlers : List LogHandler
  rootLevel : LogLevel
deriving DecidableEq, Repr

/-- Why logging cannot be set up: the name of the level belongs to something else. -/
inductive LoggingError where
  | templateName
  | styleTable
deriving DecidableEq, Repr

def LoggingError.message : LoggingError → String
  | templateName => "Unknown level: '%(levelname)s:%(name)s:%(message)s'"
  | styleTable =>
      "Level not an integer or a valid string: \x7b'%': (<class 'logging.PercentStyle'>, " ++
        "'%(levelname)s:%(name)s:%(message)s'), '\x7b': (<class 'logging.StrFormatStyle'>, " ++
        "'\x7blevelname\x7d:\x7bname\x7d:\x7bmessage\x7d'), '$': " ++
        "(<class 'logging.StringTemplateStyle'>, " ++
        "'$\x7blevelname\x7d:$\x7bname\x7d:$\x7bmessage\x7d')\x7d"

/-- A value is recorded under a name that every record has already. -/
structure TakenName where
  name : String
deriving DecidableEq, Repr

def TakenName.message (taken : TakenName) : String :=
  Text.quoted ("Attempt to overwrite " ++ Text.quoted taken.name ++ " in LogRecord")

structure LogRequest where
  logger : String
  level : LogLevel
  template : String
  arguments : List Json
  extra : Fields
  exception : ExceptionNote
deriving Repr

/-- What comes of a record: the lines that are written, and the error that ends its way through the
handlers, if one does. -/
structure Emission where
  lines : List String
  raised : Option DeepNesting
deriving DecidableEq, Repr

namespace Emission

def nothing : Emission := ⟨[], none⟩

/-- What comes of a record at the other handlers, behind the line that one has made. -/
def behind (emission : Emission) (line : String) : Emission :=
  { emission with lines := line :: emission.lines }

end Emission

namespace Logging

def initial : Logging := ⟨false, [], .notSet, true, [], .warning⟩

instance : Inhabited Logging := ⟨initial⟩

/-- The handler of the client's loggers, of several the last one. -/
def handler (logging : Logging) : Option LogHandler :=
  logging.clientHandlers.getLast?

/-- The handler of the root logger, of several the last one. -/
def rootHandler (logging : Logging) : Option LogHandler :=
  logging.rootHandlers.getLast?

/-- The logger above all others, which also goes by the empty name. -/
def rootLogger : String := "root"

/-- The logger with a name. -/
def loggerNamed (name : String) : String :=
  if name.isEmpty then rootLogger else name

/-- The logger above those of the client. -/
def clientLogger : String := "storefront_access"

/-- Whether a logger is one of the client's. -/
def isClientLogger (logger : String) : Bool :=
  logger == clientLogger || (clientLogger ++ ".").toList.isPrefixOf logger.toList

end Logging

/-- The record of a request to log. -/
def LogRequest.record (request : LogRequest) : LogRecord where
  level := request.level
  logger := Logging.loggerNamed request.logger
  message := Template.fill? request.template request.arguments
  extra := request.extra
  exception := request.exception

namespace Logging

/-- The level from which on a logger passes records on. -/
def effectiveLevel (logging : Logging) (logger : String) : LogLevel :=
  if isClientLogger logger && logging.level != .notSet then logging.level else logging.rootLevel

/-- Whether a logger passes a record of a level on. -/
def isEnabled (logging : Logging) (logger : String) (level : LogLevel) : Bool :=
  LogLevel.notSet.number < level.number &&
    (logging.effectiveLevel logger).number ≤ level.number

/-- The handlers that the records of a logger reach. -/
def handlers (logging : Logging) (logger : String) : List LogHandler :=
  if isClientLogger logger then
    logging.clientHandlers ++ (if logging.propagates then logging.rootHandlers else [])
  else logging.rootHandlers

/-- What comes of a record at one handler after the other.  A handler keeps it to itself that the
arguments do not fit, while values that are nested too deep end it for the handlers behind, too. -/
def emit (marks : LogMarks) (record : LogRecord) : List LogHandler → Emission
  | [] => .nothing
  | handler :: rest =>
      match record.line? marks handler.isJson with
      | .ok line => (emit marks record rest).behind line
      | .error .unformatted => emit marks record rest
      | .error (.tooDeep place) => ⟨[], some place⟩

/-- The handlers that take a record, those that its level reaches. -/
def takers (logging : Logging) (record : LogRecord) : List LogHandler :=
  (logging.handlers record.logger).filter fun handler =>
    handler.level.number ≤ record.level.number

/-- What comes of a record that its logger passes on. -/
def emission (logging : Logging) (marks : LogMarks) (record : LogRecord) : Emission :=
  emit marks record (logging.takers record)

/-- The lines that are written when a record is logged. -/
def written (logging : Logging) (marks : LogMarks) (record : LogRecord) : List String :=
  if logging.isEnabled record.logger record.level then (logging.emission marks record).lines else []

def entryLines (logging : Logging) (marks : LogMarks) (entry : LogEntry) : List String :=
  logging.written marks entry.record

/-- What comes of a request to log.  Values under taken names are refused, but only where the record
is wanted. -/
def log? (logging : Logging) (marks : LogMarks) (request : LogRequest) :
    Except TakenName Emission :=
  if logging.isEnabled request.logger request.level then
    match LogRecord.clash? request.extra with
    | some name => .error ⟨name⟩
    | none => .ok (logging.emission marks request.record)
  else .ok .nothing

structure Wishes where
  levelName : String
  isJson : Bool
  capturesRoot : Bool

def Wishes.ofEnvironment (environment : Environment) : Wishes :=
  let name := Text.uppercased (environment.text "STOREFRONT_LOG_LEVEL" "INFO")
  { levelName := if name.isEmpty then "INFO" else name
    isJson := environment.switch "STOREFRONT_LOG_JSON" false
    capturesRoot := environment.switch "STOREFRONT_LOG_CAPTURE_ROOT" false }

/-- What the name of a level stands for: two of the names belong to something else. -/
inductive NamedValue where
  | ofLevel (level : LogLevel)
  | templateName
  | styleTable
deriving DecidableEq, Repr

/-- The value with a name, the level `info` for an unknown one. -/
def NamedValue.ofName (name : String) : NamedValue :=
  if name == "BASIC_FORMAT" then templateName
  else if name == "_STYLES" then styleTable
  else ofLevel ((LogLevel.ofName? name).getD .info)

/-- The value as a level; whatever takes a level refuses any other value. -/
def NamedValue.checked : NamedValue → Except LoggingError LogLevel
  | ofLevel level => .ok level
  | templateName => .error .templateName
  | styleTable => .error .styleTable

/-- Steps that change logging.  When one of them is refused, the changes made so far stay. -/
abbrev Steps (α : Type) := EStateM LoggingError Logging α

def take (value : NamedValue) : Steps LogLevel :=
  match value.checked with
  | .ok level => pure level
  | .error cause => throw cause

/-- Give the client's loggers one handler and a level, and keep their records from the root
logger. -/
def claimClient (handler : LogHandler) (value : NamedValue) : Steps Unit := do
  modify fun logging => { logging with clientHandlers := [] }
  modify fun logging => { logging with clientHandlers := logging.clientHandlers ++ [handler] }
  let level ← take value
  modify fun logging => { logging with level }
  modify fun logging => { logging with propagates := false }

/-- Give the root logger one handler and a level. -/
def claimRoot (handler : LogHandler) (value : NamedValue) : Steps Unit := do
  modify fun logging => { logging with rootHandlers := [] }
  modify fun logging => { logging with rootHandlers := logging.rootHandlers ++ [handler] }
  let rootLevel ← take value
  modify fun logging => { logging with rootLevel }

/-- Set logging up.  The result is what is reported about it. -/
def setUp (environment : Environment) (force : Bool) : Steps (List LogEntry) := do
  if (← get).isConfigured && !force then return []
  let wishes := Wishes.ofEnvironment environment
  let value := NamedValue.ofName wishes.levelName
  let handler : LogHandler := ⟨← take value, wishes.isJson⟩
  claimClient handler value
  if wishes.capturesRoot then claimRoot handler value
  modify fun logging => { logging with isConfigured := true }
  return [(Event.loggingConfigured wishes.levelName wishes.isJson wishes.capturesRoot).alone]

/-- Logging after it has been set up, unless that is refused. -/
def setUp? (logging : Logging) (environment : Environment) (force : Bool) :
    Except LoggingError (Logging × List LogEntry) :=
  match setUp environment force logging with
  | .ok entries after => .ok (after, entries)
  | .error cause _ => .error cause

end Logging

end AdminGate

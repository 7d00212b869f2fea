import AdminGate.Text.Digit

/-!
# Log levels

How important a log record is.  Levels are numbers, a record passing where its number reaches the
number that is asked for.  Six of them are standard and have names.
-/

namespace AdminGate

structure LogLevel where
  number : Int
deriving DecidableEq, Repr

namespace LogLevel

/-- The level of a logger that leaves the choice to the one above it. -/
def notSet : LogLevel := ⟨0⟩

def debug : LogLevel := ⟨10⟩

def info : LogLevel := ⟨20⟩

def warning : LogLevel := ⟨30⟩

def error : LogLevel := ⟨40⟩

def critical : LogLevel := ⟨50⟩

/-- The names of levels, two of which have a second one. -/
def names : List (String × LogLevel) := [
  ("CRITICAL", critical),
  ("FATAL", critical),
  ("ERROR", error),
  ("WARNING", warning),
  ("WARN", warning),
  ("INFO", info),
  ("DEBUG", debug),
  ("NOTSET", notSet)]

/-- The name of a level; one without a name is called by its number. -/
def name (level : LogLevel) : String :=
  match names.find? fun entry => entry.2 == level with
  | some entry => entry.1
  | none => "Level " ++ String.ofList (Text.integerText level.number)

def ofName? (name : String) : Option LogLevel :=
  names.lookup name

end LogLevel

end AdminGate

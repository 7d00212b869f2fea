import AdminGate.Command.Grammar

/-!
# Invocations

What the program is asked to do: show who is signed in, list the pages that can be opened, or check
permissions.
-/

namespace AdminGate.Command

/-- What the program is asked to do. -/
inductive Task where
  | whoami
  | pages
  | check (permissions : List String) (needsAll : Bool)
deriving DecidableEq, Repr

/-- A command line that has been understood.  The cookie may have been given without a value. -/
structure Invocation where
  baseUrl : String
  cookie : Option String
  task : Task
deriving DecidableEq, Repr

namespace Invocation

def program : String := "storefront-access"

def helpOption : OptionRule := ⟨["-h", "--help"], .help⟩

def grammar : Grammar where
  program := program
  options := [helpOption, ⟨["--base-url"], .value⟩, ⟨["--cookie"], .value⟩]
  slot := .command "command" ["whoami", "pages", "check"]

def commandGrammar (command : String) : Grammar :=
  if command == "check" then
    { program := program ++ " " ++ command
      options := [helpOption, ⟨["--all"], .flag⟩]
      slot := .several "permissions" }
  else { program := program ++ " " ++ command, options := [helpOption], slot := .nothing }

/-- The task of a command with its arguments. -/
def taskOf (command : String) (parsed : Parsed) : Task :=
  if command == "whoami" then .whoami
  else if command == "pages" then .pages
  else .check (parsed.arguments.getD []) (parsed.flags.contains "--all")

def ofArguments? (arguments : List String) : Except Stop Invocation := do
  let parsed ← grammar.parse arguments
  let (command, rest) := match parsed.arguments with
    | some (command :: rest) => (command, rest)
    | _ => ("", [])
  let inner ← (commandGrammar command).parse rest
  match parsed.extras ++ inner.extras with
  | [] =>
      return {
        baseUrl := (parsed.values.get? "--base-url").join.getD ""
        cookie := (parsed.values.get? "--cookie").getD (some "")
        task := taskOf command inner }
  | extras => throw (grammar.misuse ("unrecognized arguments: " ++ " ".intercalate extras))

end Invocation

end AdminGate.Command

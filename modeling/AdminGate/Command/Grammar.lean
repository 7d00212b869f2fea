import AdminGate.Json.Value
import AdminGate.Text.Digit
import AdminGate.Text.Quoted

/-!
# Command line grammar

A grammar has options, which may be shortened as long as no other one begins alike, and at most one
place for arguments: a command with everything that follows it, or several values.  After `--`
nothing is an option any more.  `Grammar.parse` goes through the arguments from left to right; the
first thing that does not fit ends it.
-/

namespace AdminGate.Command

inductive OptionKind where
  | help
  | value
  | flag
deriving DecidableEq, Repr

structure OptionRule where
  names : List String
  kind : OptionKind
deriving DecidableEq, Repr

/-- The place for arguments that are no options. -/
inductive Slot where
  | nothing
  | command (name : String) (choices : List String)
  | several (name : String)
deriving DecidableEq, Repr

/-- A grammar and the program that it belongs to. -/
structure Grammar where
  program : String
  options : List OptionRule
  slot : Slot
deriving Repr

/-- What ends the reading of arguments early. -/
inductive Stop where
  | help (program : String)
  | misuse (program message : String)
deriving DecidableEq, Repr

/-- What has been read.  An option may have been given without a value. -/
structure Parsed where
  values : Assoc (Option String)
  flags : List String
  arguments : Option (List String)
  extras : List String
deriving DecidableEq, Repr

/-- An option as it is written: the rule if there is one, the name, and the value behind it. -/
structure FoundOption where
  rule : Option OptionRule
  name : String
  value : Option String
deriving Repr

inductive Mark where
  | argument
  | divider
  | option (found : FoundOption)
deriving Repr

namespace OptionRule

/-- All names of an option, for messages. -/
def label (rule : OptionRule) : String :=
  "/".intercalate rule.names

/-- The name under which the value of an option is kept. -/
def key (rule : OptionRule) : String :=
  rule.names.getLast?.getD ""

end OptionRule

namespace Grammar

def misuse (grammar : Grammar) (message : String) : Stop :=
  .misuse grammar.program message

/-- A refusal that names an option or a place. -/
def misuseOf (grammar : Grammar) (what message : String) : Stop :=
  grammar.misuse ("argument " ++ what ++ ": " ++ message)

/-- A refusal of a value behind an option that takes none. -/
def ignored (grammar : Grammar) (rule : OptionRule) (value : List Char) : Stop :=
  grammar.misuseOf rule.label
    ("ignored explicit argument " ++ String.ofList (Text.quote value))

def names (grammar : Grammar) : List (String × OptionRule) :=
  grammar.options.flatMap fun rule => rule.names.map fun name => (name, rule)

/-- Whether a text is a negative number, a line break at its end apart. -/
def isNegativeNumber (input : List Char) : Bool :=
  let isDigit (character : Char) : Bool := (Text.digitValue? character).isSome
  match if input.getLast? == some '\n' then input.dropLast else input with
  | '-' :: rest =>
      let after := rest.dropWhile isDigit
      match after with
      | [] => !rest.isEmpty
      | '.' :: places => !places.isEmpty && places.all isDigit
      | _ => false
  | _ => false

/-- The options that a shortened name may stand for. -/
def candidates (grammar : Grammar) (input : String) : List FoundOption :=
  match input.toList with
  | '-' :: '-' :: _ =>
      let name := input.toList.takeWhile (· != '=')
      let rest := input.toList.drop name.length
      (grammar.names.filter fun entry => name.isPrefixOf entry.1.toList).map fun entry =>
        ⟨some entry.2, entry.1, if rest.isEmpty then none else some (String.ofList (rest.drop 1))⟩
  | '-' :: letter :: rest =>
      grammar.names.filterMap fun entry =>
        if entry.1.toList == ['-', letter] then
          some ⟨some entry.2, entry.1, some (String.ofList rest)⟩
        else if input.toList.isPrefixOf entry.1.toList then
          some ⟨some entry.2, entry.1, none⟩
        else none
  | _ => []

/-- What an argument before any divider is taken for. -/
def mark (grammar : Grammar) (input : String) : Except Stop Mark :=
  if input.isEmpty || input.toList.head? != some '-' then .ok .argument
  else
    match grammar.names.lookup input with
    | some rule => .ok (.option ⟨some rule, input, none⟩)
    | none =>
        let name := input.toList.takeWhile (· != '=')
        let rest := input.toList.drop name.length
        let known := if rest.isEmpty then none else grammar.names.lookup (String.ofList name)
        if input.length = 1 then .ok .argument
        else
          match known, grammar.candidates input with
          | some rule, _ =>
              .ok (.option ⟨some rule, String.ofList name,
                some (String.ofList (rest.drop 1))⟩)
          | none, [found] => .ok (.option found)
          | none, [] =>
              if isNegativeNumber input.toList || input.toList.contains ' ' then .ok .argument
              else .ok (.option ⟨none, input, none⟩)
          | none, found =>
              .error (grammar.misuse ("ambiguous option: " ++ input ++ " could match " ++
                ", ".intercalate (found.map (·.name))))

def marks (grammar : Grammar) : List String → Except Stop (List (String × Mark))
  | [] => .ok []
  | first :: rest =>
      if first == "--" then .ok ((first, .divider) :: rest.map fun input => (input, .argument))
      else do
        let mark ← grammar.mark first
        return (first, mark) :: (← marks grammar rest)

def isOption (entry : String × Mark) : Bool :=
  match entry.2 with
  | .option _ => true
  | _ => false

def isDivider (entry : String × Mark) : Bool :=
  match entry.2 with
  | .divider => true
  | _ => false

/-- The number of arguments that the slot takes from the start. -/
def slotLength (slot : Slot) (entries : List (String × Mark)) : Nat :=
  let dividers := (entries.takeWhile isDivider).length
  match slot, entries.drop dividers with
  | .nothing, _ | _, [] => 0
  | .command .., first :: _ => if isOption first then 0 else entries.length
  | .several _, first :: rest =>
      if isOption first then 0 else dividers + 1 + (rest.takeWhile (!isOption ·)).length

/-- Put arguments into the slot.  A command must be one of the choices. -/
def fillSlot (grammar : Grammar) (parsed : Parsed) (taken : List String) : Except Stop Parsed :=
  match grammar.slot with
  | .command name choices =>
      let chosen := taken.headD ""
      if choices.contains chosen then .ok { parsed with arguments := some taken }
      else .error (grammar.misuseOf name ("invalid choice: " ++ Text.quoted chosen ++
        " (choose from " ++ ", ".intercalate (choices.map Text.quoted) ++ ")"))
  | _ => .ok { parsed with arguments := some (taken.erase "--") }

/-- Try the slot, if it is still free: the arguments left, and what has been read. -/
def trySlot (grammar : Grammar) (parsed : Parsed) (entries : List (String × Mark)) :
    Except Stop (Parsed × List (String × Mark)) :=
  let length := if parsed.arguments.isSome then 0 else slotLength grammar.slot entries
  if length = 0 then .ok (parsed, entries)
  else do
    return (← grammar.fillSlot parsed ((entries.take length).map Prod.fst), entries.drop length)

/-- What stands behind the option for help: its letter, again and again. -/
def helpCluster (grammar : Grammar) (rule : OptionRule) : List Char → Stop
  | ['h'] => .help grammar.program
  | 'h' :: rest => helpCluster grammar rule rest
  | rest => grammar.ignored rule rest

/-- The value that an option has from the text behind its equals sign; a divider is none. -/
def valueBehind (text : String) : Option String :=
  if text == "--" then none else some text

/-- The effect of an option, with the arguments after it. -/
def takeOption (grammar : Grammar) (parsed : Parsed) (input : String) (found : FoundOption)
    (rest : List (String × Mark)) : Except Stop (Parsed × List (String × Mark)) :=
  match found.rule with
  | none => .ok ({ parsed with extras := parsed.extras ++ [input] }, rest)
  | some rule =>
      match rule.kind, found.value with
      | .help, none => .error (.help grammar.program)
      | .help, some value =>
          .error (if found.name.toList.take 2 == ['-', '-'] then grammar.ignored rule value.toList
            else grammar.helpCluster rule value.toList)
      | .flag, none => .ok ({ parsed with flags := parsed.flags ++ [rule.key] }, rest)
      | .flag, some value => .error (grammar.ignored rule value.toList)
      | .value, some value =>
          .ok ({ parsed with values := parsed.values.insert rule.key (valueBehind value) }, rest)
      | .value, none =>
          match rest with
          | (value, .argument) :: rest =>
              .ok ({ parsed with values := parsed.values.insert rule.key (some value) }, rest)
          | _ => .error (grammar.misuseOf rule.label "expected one argument")

/-- Go through the arguments; the first argument bounds the number of rounds. -/
def parseFrom (grammar : Grammar) :
    Nat → Parsed → List (String × Mark) → Except Stop Parsed
  | 0, parsed, _ => .ok parsed
  | bound + 1, parsed, entries =>
      if !entries.any isOption then do
        let (parsed, rest) ← grammar.trySlot parsed entries
        return { parsed with extras := parsed.extras ++ rest.map Prod.fst }
      else
        match entries with
        | (input, .option found) :: rest => do
            let (parsed, rest) ← grammar.takeOption parsed input found rest
            grammar.parseFrom bound parsed rest
        | entries => do
            let (parsed, rest) ← grammar.trySlot parsed entries
            if rest.length < entries.length then grammar.parseFrom bound parsed rest
            else
              let skipped := entries.takeWhile (!isOption ·)
              grammar.parseFrom bound
                { parsed with extras := parsed.extras ++ skipped.map Prod.fst }
                (entries.drop skipped.length)

def missing? (grammar : Grammar) (parsed : Parsed) : Option String :=
  match grammar.slot, parsed.arguments with
  | .command name _, none => some name
  | .several name, none => some name
  | _, _ => none

def parse (grammar : Grammar) (arguments : List String) : Except Stop Parsed := do
  let entries ← grammar.marks arguments
  let parsed ← grammar.parseFrom (2 * entries.length + 1) ⟨[], [], none, []⟩ entries
  match grammar.missing? parsed with
  | some name =>
      throw (grammar.misuse ("the following arguments are required: " ++ name))
  | none => return parsed

end Grammar

end AdminGate.Command

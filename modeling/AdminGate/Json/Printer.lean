import AdminGate.Json.Display

/-!
# Writing JSON

The written form of a value: fields and items in order, a colon and a blank after a name, a comma
and a blank between entries, characters outside ASCII as they are.
-/

namespace AdminGate.Json

def escapedForm (character : Char) : List Char :=
  if character == '"' then ['\\', '"']
  else if character == '\\' then ['\\', '\\']
  else if character == '\n' then ['\\', 'n']
  else if character == '\r' then ['\\', 'r']
  else if character == '\t' then ['\\', 't']
  else if character == Char.ofNat 8 then ['\\', 'b']
  else if character == Char.ofNat 12 then ['\\', 'f']
  else if character.toNat < 32 then '\\' :: 'u' :: Text.hexDigits 4 character.toNat
  else [character]

def writtenText (value : List Char) : List Char :=
  '"' :: (value.flatMap escapedForm ++ ['"'])

mutual

def written : Json → List Char
  | null => "null".toList
  | bool true => "true".toList
  | bool false => "false".toList
  | int value => Text.integerText value
  | float value => value.text .exchange
  | text value => writtenText value.toList
  | array items => '[' :: (joined ", ".toList (writtenItems items) ++ [']'])
  | object fields => '{' :: (joined ", ".toList (writtenFields fields) ++ ['}'])

def writtenItems : List Json → List (List Char)
  | [] => []
  | item :: rest => written item :: writtenItems rest

def writtenFields : List (String × Json) → List (List Char)
  | [] => []
  | (name, value) :: rest =>
      (writtenText name.toList ++ ": ".toList ++ written value) :: writtenFields rest

end

def render (value : Json) : String :=
  String.ofList value.written

/-- The UTF-8 bytes of the written form need every number to be finite. -/
def isFinite : Json → Bool
  | float value => value.isFinite
  | array items => allFinite items
  | object fields => allFieldsFinite fields
  | _ => true
where
  allFinite : List Json → Bool
    | [] => true
    | item :: rest => isFinite item && allFinite rest
  allFieldsFinite : List (String × Json) → Bool
    | [] => true
    | (_, value) :: rest => isFinite value && allFieldsFinite rest

end AdminGate.Json

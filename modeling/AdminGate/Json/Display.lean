import AdminGate.Json.Value
import AdminGate.Number.Text
import AdminGate.Text.Blank
import AdminGate.Text.Quoted

/-!
# Values as display text

The text form of a value: a text is its own form, inside an array or an object it is quoted;
constants are written `True`, `False` and `None`.  `Json.cleaned` is the trimmed text form that
names, roles and permissions are read through; a value that does not count as true is blank.
-/

namespace AdminGate.Json

def joined (separator : List Char) : List (List Char) → List Char
  | [] => []
  | [last] => last
  | first :: rest => first ++ separator ++ joined separator rest

mutual

/-- The form of a value inside another one. -/
def inner : Json → List Char
  | null => "None".toList
  | bool true => "True".toList
  | bool false => "False".toList
  | int value => Text.integerText value
  | float value => value.text .display
  | text value => Text.quote value.toList
  | array items => '[' :: (joined ", ".toList (innerItems items) ++ [']'])
  | object fields => '{' :: (joined ", ".toList (innerFields fields) ++ ['}'])

def innerItems : List Json → List (List Char)
  | [] => []
  | item :: rest => inner item :: innerItems rest

def innerFields : List (String × Json) → List (List Char)
  | [] => []
  | (name, value) :: rest =>
      (Text.quote name.toList ++ ": ".toList ++ inner value) :: innerFields rest

end

mutual

/-- How many values stand inside each other in a value, itself and the innermost one included. -/
def levels : Json → Nat
  | array items => levelsOfItems items + 1
  | object fields => levelsOfFields fields + 1
  | _ => 1

def levelsOfItems : List Json → Nat
  | [] => 0
  | item :: rest => max (levels item) (levelsOfItems rest)

def levelsOfFields : List (String × Json) → Nat
  | [] => 0
  | (_, value) :: rest => max (levels value) (levelsOfFields rest)

end

def display : Json → List Char
  | text value => value.toList
  | value => inner value

/-- The trimmed text form of a value, blank for a value that does not count as true. -/
def cleaned (value : Json) : String :=
  if value.isTruthy then String.ofList (Text.trim value.display) else ""

end AdminGate.Json

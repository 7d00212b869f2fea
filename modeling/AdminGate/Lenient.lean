import AdminGate.Json.Display
import AdminGate.Number.Integer
import AdminGate.Text.Case

/-!
# Lenient readings

Settings and payloads are typed loosely: a switch may be a word or a number, an integer may come
as text with white space around it, a list of names may hold blanks and repetitions.  The readings
of this module never fail; each says what it falls back to.
-/

namespace AdminGate.Lenient

/-- The words that switch something on. -/
def onWords : List String := ["1", "true", "yes", "y", "on"]

/-- Whether a text, trimmed and in lower case, is one of the words that switch something on. -/
def isOn (input : List Char) : Bool :=
  onWords.contains (String.ofList (Text.lower (Text.trim input)))

/-- A switch; `fallback` when no value is given. -/
def switch (value : Json) (fallback : Bool) : Bool :=
  match value with
  | .null => fallback
  | value => isOn value.display

/-- Move a number up to a least value, then down to a greatest one. -/
def clamp (least greatest : Option Int) (value : Int) : Int :=
  let raised := match least with
    | some bound => max bound value
    | none => value
  match greatest with
  | some bound => min bound raised
  | none => raised

/-- An integer within bounds; `fallback`, moved within the bounds as well, when the value is
no integer text. -/
def integer (value : Json) (fallback : Int) (least greatest : Option Int) : Int :=
  clamp least greatest ((integer? value.cleaned.toList).getD fallback)

/-- Keep the first of equal texts. -/
def dedupe : List String → List String
  | [] => []
  | first :: rest => first :: (dedupe rest).filter (· != first)

/-- The cleaned forms of the values, without blanks and repetitions, in the order in which they
first appear. -/
def distinctTexts (values : List Json) : List String :=
  dedupe ((values.map Json.cleaned).filter (· != ""))

/-- The values that a value is made of: the items of an array, the characters of a text, the
names of an object, none for a value that does not count as true. -/
def elements? (value : Json) : Option (List Json) :=
  if !value.isTruthy then some []
  else
    match value with
    | .array items => some items
    | .text input => some (input.toList.map fun character => .text (String.singleton character))
    | .object fields => some (fields.map fun field => .text field.1)
    | _ => none

end AdminGate.Lenient

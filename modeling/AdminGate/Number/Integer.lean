import AdminGate.Text.Blank
import AdminGate.Text.Digit

/-!
# Reading integers

An integer text is an optional sign and decimal digits of any script, single underscores
between digits, white space around it.  A text of more than `digitLimit` digits is no integer.
-/

namespace AdminGate

/-- The largest number of digits of an integer text. -/
def digitLimit : Nat := 4300

/-- The digits of a text in which an underscore may stand between two digits. -/
def groupedDigits? : List Char → Option (List Nat)
  | [] => none
  | [last] => (Text.digitValue? last).map fun digit => [digit]
  | first :: '_' :: rest => do
      let digit ← Text.digitValue? first
      let digits ← groupedDigits? rest
      return digit :: digits
  | first :: rest => do
      let digit ← Text.digitValue? first
      let digits ← groupedDigits? rest
      return digit :: digits

/-- The value of an unsigned integer text. -/
def natural? (text : List Char) : Option Nat := do
  let digits ← groupedDigits? text
  if digits.length ≤ digitLimit then some (Text.digitsValue 0 digits) else none

def integer? (text : List Char) : Option Int :=
  match Text.trim text with
  | '-' :: digits => (natural? digits).map fun value => -(value : Int)
  | '+' :: digits => (natural? digits).map Int.ofNat
  | digits => (natural? digits).map Int.ofNat

end AdminGate

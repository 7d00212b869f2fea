/-!
# Punycode

A text outside ASCII written in letters, digits and hyphens.  Its ASCII characters come first; the
others follow in ascending order, each as the number of steps by which a counter over all codes and
all places of the text has to go on.  The numbers have digits to base 36 of varying weight, so that
each shows where it ends.
-/

namespace AdminGate.Text.Punycode

/-- The digit of a value below 36. -/
def digit (value : Nat) : Char :=
  Char.ofNat (if value < 26 then 97 + value else 22 + value)

/-- The value of a digit; letters of both cases are digits. -/
def digitValue? (character : Char) : Option Nat :=
  let lowered := character.toLower
  if 'a' ≤ lowered && lowered ≤ 'z' then some (lowered.toNat - 97)
  else if character.isDigit then some (character.toNat - 22)
  else none

/-- The least digit that does not end a number, 36 times its place being `position`. -/
def threshold (position bias : Nat) : Nat :=
  if position ≤ bias then 1 else min 26 (position - bias)

theorem threshold_pos (position bias : Nat) : 0 < threshold position bias := by
  unfold threshold
  split <;> omega

/-- Halve a distance until it is small, counting `position` up. -/
def settle (position distance : Nat) : Nat :=
  if 455 < distance then settle (position + 36) (distance / 35)
  else position + 36 * distance / (distance + 38)
termination_by distance
decreasing_by omega

/-- The bias that follows a number, when `count` characters are placed. -/
def nextBias (distance count : Nat) (isFirst : Bool) : Nat :=
  let distance := distance / (if isFirst then 700 else 2)
  settle 0 (distance + distance / count)

/-- A number as digits of varying weight. -/
def writeNumber (bias position value : Nat) : List Char :=
  let least := threshold position bias
  if value < least then [digit value]
  else
    digit (least + (value - least) % (36 - least)) ::
      writeNumber bias (position + 36) ((value - least) / (36 - least))
termination_by value
decreasing_by
  have positive := threshold_pos position bias
  exact Nat.lt_of_le_of_lt (Nat.div_le_self _ _) (by omega)

/-- A text half written: the digits so far, the steps since the last number, the bias, and how many
characters are placed. -/
structure Writing where
  digits : List Char
  distance : Nat
  bias : Nat
  placed : Nat

/-- Pass a character of the text while the counter stands at a code. -/
def Writing.pass (basics code : Nat) (writing : Writing) (character : Char) : Writing :=
  if character.toNat < code then { writing with distance := writing.distance + 1 }
  else if character.toNat = code then
    { digits := writing.digits ++ writeNumber writing.bias 36 writing.distance
      distance := 0
      bias := nextBias writing.distance (writing.placed + 1) (writing.placed == basics)
      placed := writing.placed + 1 }
  else writing

/-- Write every character with one of the codes, which ascend from `counter` on. -/
def writeCodes (basics : Nat) (text : List Char) : Nat → List Nat → Writing → Writing
  | _, [], writing => writing
  | counter, code :: rest, writing =>
      let distance := writing.distance + (code - counter) * (writing.placed + 1)
      let written := text.foldl (Writing.pass basics code) { writing with distance }
      writeCodes basics text (code + 1) rest { written with distance := written.distance + 1 }

def encode (text : List Char) : List Char :=
  let basics := text.filter fun character => character.toNat < 128
  let codes := ((text.map Char.toNat).filter (128 ≤ ·)).mergeSort.eraseDups
  let written := writeCodes basics.length text 128 codes ⟨[], 0, 72, basics.length⟩
  (if basics.isEmpty then [] else basics ++ ['-']) ++ written.digits

/-- A text half read: its characters, the code and the place of the counter, the bias, and of the
number being read its value so far, the weight and the place of its next digit. -/
structure Reading where
  text : List Nat
  code : Nat
  place : Nat
  bias : Nat
  isFirst : Bool
  value : Nat
  weight : Nat
  position : Nat

/-- Read a digit; the last digit of a number puts a character into the text. -/
def Reading.take? (reading : Reading) (character : Char) : Option Reading := do
  let number ← digitValue? character
  let value := reading.value + number * reading.weight
  let least := threshold reading.position reading.bias
  if least ≤ number then
    return { reading with
      value
      weight := reading.weight * (36 - least)
      position := reading.position + 36 }
  let places := reading.text.length + 1
  let code := reading.code + (reading.place + value) / places
  let place := (reading.place + value) % places
  guard (code ≤ 0x10FFFF)
  return {
    text := reading.text.take place ++ code :: reading.text.drop place
    code
    place := place + 1
    bias := nextBias value places reading.isFirst
    isFirst := false
    value := 0
    weight := 1
    position := 36 }

/-- The code points of a written form; there may be surrogates among them. -/
def decode? (written : List Char) : Option (List Nat) := do
  let digits := (written.reverse.takeWhile (· != '-')).reverse
  let basics := (written.take (written.length - digits.length)).dropLast
  let reading ← digits.foldlM Reading.take? ⟨basics.map Char.toNat, 128, 0, 72, true, 0, 1, 36⟩
  guard (reading.position = 36)
  return reading.text

end AdminGate.Text.Punycode

import AdminGate.Json.Value
import AdminGate.Number.Integer
import AdminGate.Text.Encoding

/-!
# Reading JSON

The reader takes a whole text: a value with white space around it.  The names `NaN`, `Infinity`
and `-Infinity` are numbers, an integer may have any length up to `digitLimit`, and of a repeated
name in an object the last value counts at the first place.  Values may be nested as deeply as
`deepestNesting`.  A text as bytes is decoded first, in the encoding that its first bytes announce.
-/

namespace AdminGate.Json

/-- What opens a value that holds others. -/
inductive Nesting where
  | array
  | object
deriving DecidableEq, Repr

/-- Why a text spells no value: it is malformed, or too many values are opened around each
other. -/
inductive ReadFault where
  | malformed
  | tooDeep (nesting : Nesting)
deriving DecidableEq, Repr

/-- The wording for values that are nested too deeply. -/
def Nesting.message (nesting : Nesting) : String :=
  "maximum recursion depth exceeded while decoding a JSON " ++
    (match nesting with
      | array => "array"
      | object => "object") ++
    " from a unicode string"

/-- How many arrays and objects may be opened around each other. -/
def deepestNesting : Nat := 980

end AdminGate.Json

namespace AdminGate.Json.Reader

def isGap (character : Char) : Bool :=
  character == ' ' || character == '\t' || character == '\n' || character == '\r'

def skipGap (input : List Char) : List Char :=
  input.dropWhile isGap

def afterWord? : List Char → List Char → Option (List Char)
  | [], rest => some rest
  | expected :: word, character :: rest =>
      if expected == character then afterWord? word rest else none
  | _ :: _, [] => none

/-- The code unit of four hexadecimal digits. -/
def unit? : List Char → Option (Nat × List Char)
  | first :: second :: third :: fourth :: rest => do
      let first ← Text.hexDigit? first
      let second ← Text.hexDigit? second
      let third ← Text.hexDigit? third
      let fourth ← Text.hexDigit? fourth
      return (((first * 16 + second) * 16 + third) * 16 + fourth, rest)
  | _ => none

/-- The low surrogate that an escape right after a high one spells. -/
def lowUnit? : List Char → Option (Nat × List Char)
  | '\\' :: 'u' :: rest => do
      let (unit, rest) ← unit? rest
      if 0xDC00 ≤ unit && unit ≤ 0xDFFF then some (unit, rest) else none
  | _ => none

/-- The character of an escape, after its backslash. -/
def escape? : List Char → Option (Char × List Char)
  | '"' :: rest => some ('"', rest)
  | '\\' :: rest => some ('\\', rest)
  | '/' :: rest => some ('/', rest)
  | 'b' :: rest => some (Char.ofNat 8, rest)
  | 'f' :: rest => some (Char.ofNat 12, rest)
  | 'n' :: rest => some ('\n', rest)
  | 'r' :: rest => some ('\r', rest)
  | 't' :: rest => some ('\t', rest)
  | 'u' :: rest => do
      let (unit, rest) ← unit? rest
      if 0xD800 ≤ unit && unit ≤ 0xDBFF then
        match lowUnit? rest with
        | some (low, rest) =>
            some (Char.ofNat (0x10000 + (unit - 0xD800) * 1024 + (low - 0xDC00)), rest)
        | none => some (Text.scalar unit, rest)
      else some (Text.scalar unit, rest)
  | _ => none

/-- The rest of a string after its opening quote; the first argument bounds its length. -/
def string? : Nat → List Char → List Char → Option (List Char × List Char)
  | 0, _, _ => none
  | bound + 1, read, input =>
      match input with
      | [] => none
      | '"' :: rest => some (read.reverse, rest)
      | '\\' :: rest =>
          match escape? rest with
          | some (character, rest) => string? bound (character :: read) rest
          | none => none
      | character :: rest =>
          if character.toNat < 32 then none else string? bound (character :: read) rest

/-- The digits at the start of a text and what follows them. -/
def spanDigits (input : List Char) : List Nat × List Char :=
  ((input.takeWhile Char.isDigit).filterMap Text.basicDigit?, input.dropWhile Char.isDigit)

def fraction? : List Char → Option (List Nat × List Char)
  | '.' :: rest =>
      match spanDigits rest with
      | ([], _) => none
      | (digits, rest) => some (digits, rest)
  | _ => none

/-- The power of ten after an exponent mark. -/
def exponent? : List Char → Option (Int × List Char)
  | mark :: rest =>
      if mark == 'e' || mark == 'E' then
        let (negative, rest) := match rest with
          | '-' :: rest => (true, rest)
          | '+' :: rest => (false, rest)
          | rest => (false, rest)
        match spanDigits rest with
        | ([], _) => none
        | (digits, rest) =>
            let value := Text.digitsValue 0 digits
            some (if negative then -(value : Int) else value, rest)
      else none
  | [] => none

/-- The digits that a number begins with and what follows them: a zero has no digits behind it. -/
def leadingDigits : List Char → List Nat × List Char
  | '0' :: rest => ([0], rest)
  | input => spanDigits input

def unsigned? (negative : Bool) (input : List Char) : Option (Json × List Char) :=
  let (whole, rest) := leadingDigits input
  if whole.isEmpty then none
  else
    let fraction := fraction? rest
    let afterFraction := (fraction.map Prod.snd).getD rest
    let exponent := exponent? afterFraction
    let afterExponent := (exponent.map Prod.snd).getD afterFraction
    if fraction.isNone && exponent.isNone then
      if whole.length ≤ digitLimit then
        let value := Text.digitsValue 0 whole
        some (.int (if negative then -(value : Int) else value), rest)
      else none
    else
      let decimals := (fraction.map Prod.fst).getD []
      let digits := Text.digitsValue (Text.digitsValue 0 whole) decimals
      let power := (exponent.map Prod.fst).getD 0 - decimals.length
      some (.float (Double.ofDecimal negative digits power), afterExponent)

/-- A number or one of the names of numbers. -/
def number? : List Char → Option (Json × List Char)
  | 'N' :: rest => (afterWord? "aN".toList rest).map fun rest => (.float .notANumber, rest)
  | 'I' :: rest =>
      (afterWord? "nfinity".toList rest).map fun rest => (.float (.infinite false), rest)
  | '-' :: 'I' :: rest =>
      (afterWord? "nfinity".toList rest).map fun rest => (.float (.infinite true), rest)
  | '-' :: rest => unsigned? true rest
  | input => unsigned? false input

/-- What has been read and what follows it; a text without value is malformed. -/
def orMalformed {α : Type} (found : Option (α × List Char)) :
    Except ReadFault (α × List Char) :=
  match found with
  | some result => .ok result
  | none => .error .malformed

mutual

/-- A value and what follows it.  The first argument bounds the work, `room` is the number of
arrays and objects that may still be opened around each other. -/
def value? : Nat → Nat → List Char → Except ReadFault (Json × List Char)
  | 0, _, _ => .error .malformed
  | bound + 1, room, input =>
      match input, room with
      | '"' :: rest, _ =>
          orMalformed ((string? bound [] rest).map fun (value, rest) =>
            (.text (String.ofList value), rest))
      | '{' :: _, 0 => .error (.tooDeep .object)
      | '{' :: rest, room + 1 =>
          match skipGap rest with
          | '}' :: rest => .ok (.object [], rest)
          | rest => members? bound room [] rest
      | '[' :: _, 0 => .error (.tooDeep .array)
      | '[' :: rest, room + 1 =>
          match skipGap rest with
          | ']' :: rest => .ok (.array [], rest)
          | rest => items? bound room [] rest
      | 'n' :: rest, _ =>
          orMalformed ((afterWord? "ull".toList rest).map fun rest => (.null, rest))
      | 't' :: rest, _ =>
          orMalformed ((afterWord? "rue".toList rest).map fun rest => (.bool true, rest))
      | 'f' :: rest, _ =>
          orMalformed ((afterWord? "alse".toList rest).map fun rest => (.bool false, rest))
      | input, _ => orMalformed (number? input)

/-- The items of an array up to its end; `read` holds the earlier ones, last first. -/
def items? : Nat → Nat → List Json → List Char → Except ReadFault (Json × List Char)
  | 0, _, _, _ => .error .malformed
  | bound + 1, room, read, input =>
      match value? bound room input with
      | .error fault => .error fault
      | .ok (item, rest) =>
          match skipGap rest with
          | ',' :: rest => items? bound room (item :: read) (skipGap rest)
          | ']' :: rest => .ok (.array (item :: read).reverse, rest)
          | _ => .error .malformed

/-- The fields of an object up to its end. -/
def members? : Nat → Nat → List (String × Json) → List Char → Except ReadFault (Json × List Char)
  | 0, _, _, _ => .error .malformed
  | bound + 1, room, read, input =>
      match input with
      | '"' :: rest =>
          match string? bound [] rest with
          | none => .error .malformed
          | some (name, rest) =>
              match skipGap rest with
              | ':' :: rest =>
                  match value? bound room (skipGap rest) with
                  | .error fault => .error fault
                  | .ok (value, rest) =>
                      let read := (String.ofList name, value) :: read
                      match skipGap rest with
                      | ',' :: rest => members? bound room read (skipGap rest)
                      | '}' :: rest => .ok (.object (Assoc.ofPairs read.reverse), rest)
                      | _ => .error .malformed
              | _ => .error .malformed
      | _ => .error .malformed

end

end AdminGate.Json.Reader

namespace AdminGate.Json

/-- The value that a whole text spells, or why it spells none, with room for so many arrays and
objects around each other. -/
def readWithin (room : Nat) (input : List Char) : Except ReadFault Json :=
  match Reader.value? (2 * input.length + 2) room (Reader.skipGap input) with
  | .ok (value, rest) =>
      if (Reader.skipGap rest).isEmpty then .ok value else .error .malformed
  | .error fault => .error fault

/-- The value that a whole text spells, or why it spells none. -/
def readText (input : List Char) : Except ReadFault Json :=
  readWithin deepestNesting input

/-- The value that a whole text spells. -/
def parse? (input : List Char) : Option Json :=
  (readText input).toOption

def ofString? (input : String) : Option Json :=
  parse? input.toList

/-- The text of bytes in the encoding that a byte order mark or the position of zero bytes
announces, UTF-8 otherwise. -/
def decoded? (bytes : List UInt8) : Option (List Char) :=
  match bytes with
  | 0x00 :: 0x00 :: 0xFE :: 0xFF :: rest => Text.utf32Text? .big rest
  | 0xFF :: 0xFE :: 0x00 :: 0x00 :: rest => Text.utf32Text? .little rest
  | 0xFE :: 0xFF :: rest => Text.utf16Text? .big rest
  | 0xFF :: 0xFE :: rest => Text.utf16Text? .little rest
  | 0xEF :: 0xBB :: 0xBF :: rest => Text.utf8Text? rest
  | first :: second :: third :: fourth :: _ =>
      if first == 0 then
        if second == 0 then Text.utf32Text? .big bytes else Text.utf16Text? .big bytes
      else if second == 0 then
        if third == 0 && fourth == 0 then Text.utf32Text? .little bytes
        else Text.utf16Text? .little bytes
      else Text.utf8Text? bytes
  | [first, second] =>
      if first == 0 then Text.utf16Text? .big bytes
      else if second == 0 then Text.utf16Text? .little bytes
      else Text.utf8Text? bytes
  | _ => Text.utf8Text? bytes

/-- The value that bytes spell, or why they spell none. -/
def read (bytes : List UInt8) : Except ReadFault Json :=
  match decoded? bytes with
  | some input => readText input
  | none => .error .malformed

def ofBytes? (bytes : List UInt8) : Option Json :=
  (read bytes).toOption

end AdminGate.Json

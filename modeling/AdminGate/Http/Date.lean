import AdminGate.Number.Integer
import AdminGate.Text.Blank
import AdminGate.Text.Case

/-!
# Dates of cookies

When a cookie ends, read leniently: the form of the standard, the older form with hyphens, a year
of two digits, a missing clock, a zone in numbers or the name of universal time.  The result counts
seconds from the start of 1970.
-/

namespace AdminGate.Http

inductive DateReading where
  /-- A moment, in seconds. -/
  | moment (seconds : Int)
  /-- No date that can be used. -/
  | unusable
  /-- A date in the form of the standard whose month does not exist, or a year that is too long:
  nothing of the answer can be relied on. -/
  | broken
deriving DecidableEq, Repr

namespace DateReading

def monthNames : List String :=
  ["jan", "feb", "mar", "apr", "may", "jun", "jul", "aug", "sep", "oct", "nov", "dec"]

/-- The number of a month from its short name. -/
def monthOfName? (name : List Char) : Option Nat :=
  (monthNames.idxOf? (Text.lowercased (String.ofList name))).map (· + 1)

/-- Whether a year has a 29th of February. -/
def isLeap (year : Nat) : Bool :=
  year % 4 == 0 && (year % 100 != 0 || year % 400 == 0)

/-- The days of the year before a month. -/
def daysBeforeMonth (year month : Nat) : Nat :=
  ([0, 31, 59, 90, 120, 151, 181, 212, 243, 273, 304, 334].getD (month - 1) 0) +
    (if 2 < month && isLeap year then 1 else 0)

/-- The days from the start of 1970 to the first day of a month. -/
def daysToMonth (year month : Nat) : Int :=
  let past := year - 1
  Int.ofNat (365 * past + past / 4 - past / 100 + past / 400 + daysBeforeMonth year month) - 719162

/-- The moment of a date and a clock time, if every part is within its bounds. -/
def moment? (year month day hour minute second : Nat) : Option Int :=
  if 1970 ≤ year && 1 ≤ month && month ≤ 12 && 1 ≤ day && day ≤ 31 && hour ≤ 24 && minute ≤ 59 &&
      second ≤ 61 then
    some ((((daysToMonth year month + day - 1) * 24 + hour) * 60 + minute) * 60 + second)
  else none

/-- White space of ASCII. -/
def isGap (character : Char) : Bool :=
  character == ' ' || (9 ≤ character.toNat && character.toNat ≤ 13)

/-- Letters, digits and the underscore of ASCII. -/
def isWord (character : Char) : Bool :=
  character.isAlpha || character.isDigit || character == '_'

def skipGap (input : List Char) : List Char :=
  input.dropWhile isGap

def value (digits : List Char) : Nat :=
  Text.digitsValue 0 (digits.filterMap Text.basicDigit?)

/-- Exactly `count` digits. -/
def digits? (count : Nat) (input : List Char) : Option (Nat × List Char) :=
  let digits := input.take count
  if digits.length = count && digits.all Char.isDigit then some (value digits, input.drop count)
  else none

/-- One digit or two. -/
def shortNumber? (input : List Char) : Option (Nat × List Char) :=
  digits? 2 input <|> digits? 1 input

def skip? (wanted : Char) : List Char → Option (List Char)
  | first :: rest => if first == wanted then some rest else none
  | [] => none

/-- White space or one of the marks. -/
def separator? (marks : List Char) : List Char → Option (List Char)
  | first :: rest =>
      if isGap first then some (skipGap rest)
      else if marks.contains first then some rest
      else none
  | [] => none

/-- A clock time with or without seconds. -/
def clock? (input : List Char) : Option ((Nat × Nat × Nat) × List Char) := do
  let (hour, rest) ← shortNumber? (← separator? [':'] input)
  let (minute, rest) ← digits? 2 (← skip? ':' rest)
  match skip? ':' rest >>= digits? 2 with
  | some (second, rest) => some ((hour, minute, second), rest)
  | none => some ((hour, minute, 0), rest)

/-- The seconds by which a zone is ahead of universal time. -/
def zoneOffset? (zone : List Char) : Option Int := do
  if ["GMT", "UTC", "UT", "Z"].contains (Text.uppercased (String.ofList zone)) then return 0
  let (sign, digits) : Int × List Char := match zone with
    | '-' :: digits => (-1, digits)
    | '+' :: digits => (1, digits)
    | digits => (1, digits)
  let minutes := if digits.length ≤ 2 then [] else digits.drop (digits.length - 2)
  let hours := digits.take (digits.length - minutes.length)
  if hours.isEmpty || !digits.all Char.isDigit then none
  else return sign * (3600 * value hours + 60 * value minutes)

/-- A zone: two to four digits with or without a sign, or letters that are no half of the day. -/
def zone? (input : List Char) : Option (List Char × List Char) :=
  let sign := input.take 1 |>.filter fun first => first == '-' || first == '+'
  let digits := (input.drop sign.length).takeWhile Char.isDigit
  let letters := input.takeWhile Char.isAlpha
  if 2 ≤ digits.length && digits.length ≤ 4 then
    some (sign ++ digits, input.drop (sign.length + digits.length))
  else if letters.isEmpty || ["am", "pm"].contains (String.ofList (letters.map Char.toLower)) then
    none
  else some (letters, input.drop letters.length)

/-- Skip a remark in parentheses, if there is one. -/
def skipRemark (input : List Char) : List Char :=
  match input with
  | '(' :: rest =>
      let word := rest.takeWhile isWord
      match word, rest.drop word.length with
      | _ :: _, ')' :: rest => skipGap rest
      | _, _ => input
  | _ => input

/-- A year of up to three digits moved close to the current year. -/
def nearYear (current year : Nat) : Int :=
  if 1000 ≤ year then year
  else
    let moved : Int := year + current - current % 100
    let distance : Int := current % 100 - year
    if 50 < distance then moved + 100
    else if distance < -50 then moved - 100
    else moved

/-- The month of a word, a name or a number. -/
def month? (word : List Char) : Option Nat :=
  match monthOfName? word with
  | some month => some month
  | none => do
      let number ← integer? word
      if 1 ≤ number && number ≤ 12 then some number.toNat else none

/-- The form of the standard: weekday, day, month, year, clock and `GMT`. -/
def strict? (input : List Char) : Option DateReading := do
  let isSmall (character : Char) : Bool := 97 ≤ character.toNat && character.toNat ≤ 122
  let word? (initials : String) (input : List Char) : Option (List Char × List Char) :=
    match input with
    | first :: second :: third :: rest =>
        if initials.toList.contains first && isSmall second && isSmall third then
          some ([first, second, third], rest)
        else none
    | _ => none
  let (_, rest) ← word? "SMTWF" input
  let (day, rest) ← digits? 2 (← skip? ' ' (← skip? ',' rest))
  let (month, rest) ← word? "JFMASOND" (← skip? ' ' rest)
  let (year, rest) ← digits? 4 (← skip? ' ' rest)
  let (hour, rest) ← digits? 2 (← skip? ' ' rest)
  let (minute, rest) ← digits? 2 (← skip? ':' rest)
  let (second, rest) ← digits? 2 (← skip? ':' rest)
  if rest != " GMT".toList then none
  else
    match monthOfName? month with
    | none => return .broken
    | some month =>
        match moment? year month day hour minute second with
        | some seconds => return .moment seconds
        | none => return .unusable

/-- Drop a weekday at the start of a date. -/
def withoutWeekday (input : List Char) : List Char :=
  let name := String.ofList ((input.take 3).map Char.toLower)
  if ["sun", "mon", "tue", "wed", "thu", "fri", "sat"].contains name then
    let rest := (input.drop 3).dropWhile Char.isAlpha
    skipGap ((skip? ',' rest).getD rest)
  else input

/-- The lenient form: day, month and year, then a clock time, a zone and a remark, each of which
may be missing. -/
def lenient? (currentYear : Nat) (input : List Char) : Option DateReading := do
  let (day, rest) ← shortNumber? (withoutWeekday (Text.trimStart input))
  let rest ← separator? ['-', '/'] rest
  let month := rest.takeWhile isWord
  if month.isEmpty then none
  let rest ← separator? ['-', '/'] (rest.drop month.length)
  let year := rest.takeWhile Char.isDigit
  if year.isEmpty then none
  let rest := rest.drop year.length
  let ((hour, minute, second), rest) := (clock? rest).getD ((0, 0, 0), rest)
  let rest := skipGap rest
  let (zone, rest) := match zone? rest with
    | some (zone, rest) => (zone, skipGap rest)
    | none => ("UTC".toList, rest)
  if !(skipRemark rest).isEmpty then none
  if digitLimit < year.length then return .broken
  if 9999 < value year then none
  let month ← month? month
  let year := (nearYear currentYear (value year)).toNat
  let seconds ← moment? year month day hour minute second
  let offset ← zoneOffset? zone
  return .moment (seconds - offset)

def ofText (currentYear : Nat) (input : List Char) : DateReading :=
  ((strict? input) <|> (lenient? currentYear input)).getD .unusable

end DateReading

end AdminGate.Http

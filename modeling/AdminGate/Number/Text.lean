import AdminGate.Number.Shortest
import AdminGate.Text.Digit

/-!
# Numbers as text

`NumberStyle` says where a format writes a number with a decimal point and where with an
exponent; `Double.text` writes the shortest decimal that reads back in such a style.
-/

namespace AdminGate

/-- The decisions of a format for floating-point numbers. -/
structure NumberStyle where
  /-- The lowest and highest position of the decimal point written without an exponent. -/
  lowestPoint : Int
  highestPoint : Int
  /-- Least number of digits of an exponent. -/
  exponentWidth : Nat
  infinity : List Char
  notANumber : List Char

/-- Positional from `0.0001` up to sixteen digits, otherwise an exponent of two digits or more. -/
def NumberStyle.display : NumberStyle := ⟨-3, 16, 2, "inf".toList, "nan".toList⟩

/-- The same layout with the names of the exchange format. -/
def NumberStyle.exchange : NumberStyle := ⟨-3, 16, 2, "Infinity".toList, "NaN".toList⟩

/-- A number with zeros in front up to a width. -/
def paddedNatural (width value : Nat) : List Char :=
  let digits := Text.naturalText value
  List.replicate (width - digits.length) '0' ++ digits

def exponentText (width : Nat) (exponent : Int) : List Char :=
  'e' :: (if exponent < 0 then '-' else '+') :: paddedNatural width exponent.natAbs

/-- Digits without their trailing zeros, one digit at least. -/
def withoutTrailingZeros (digits : List Char) : List Char :=
  match (digits.reverse.dropWhile (· == '0')).reverse with
  | [] => ['0']
  | kept => kept

/-- Digits with the decimal point at `point`, a fraction always shown. -/
def positionalText (digits : List Char) (point : Int) : List Char :=
  if point ≤ 0 then
    '0' :: '.' :: (List.replicate (-point).toNat '0' ++ digits)
  else
    let whole := point.toNat
    if digits.length ≤ whole then
      digits ++ List.replicate (whole - digits.length) '0' ++ ['.', '0']
    else digits.take whole ++ '.' :: digits.drop whole

/-- Digits in scientific form, the value below ten times `10 ^ (point − 1)`. -/
def scientificText (width : Nat) (digits : List Char) (point : Int) : List Char :=
  match digits with
  | [] => []
  | [digit] => digit :: exponentText width (point - 1)
  | digit :: rest => digit :: '.' :: (rest ++ exponentText width (point - 1))

namespace Magnitude

def text (style : NumberStyle) (magnitude : Magnitude) : List Char :=
  if magnitude.significand = 0 then "0.0".toList
  else
    let decimal := magnitude.shortestDecimal
    let written := Text.naturalText decimal.digits
    let point := decimal.exponent + written.length
    let digits := withoutTrailingZeros written
    if style.lowestPoint ≤ point ∧ point ≤ style.highestPoint then positionalText digits point
    else scientificText style.exponentWidth digits point

end Magnitude

/-- The text of a double in a style. -/
def Double.text (style : NumberStyle) : Double → List Char
  | .finite negative magnitude =>
      if negative then '-' :: magnitude.text style else magnitude.text style
  | .infinite negative => if negative then '-' :: style.infinity else style.infinity
  | .notANumber => style.notANumber

end AdminGate

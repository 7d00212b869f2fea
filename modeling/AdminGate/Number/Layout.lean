import AdminGate.Number.Text

/-!
# Numbers to a given number of places

A size with a fixed number of places, in scientific form, or in the shorter of the two.  The digits
are those of the exact value rounded to nearest, a tie to the even digit.
-/

namespace AdminGate.Magnitude

/-- The value in units of `10 ^ exponent`, rounded. -/
def roundedAt (magnitude : Magnitude) (exponent : Int) : Nat :=
  let (numerator, denominator) := magnitude.scaledBy exponent
  roundedQuotient numerator denominator

/-- A number with its last `places` digits behind a point, which stands even without digits behind
it if `keepsPoint`. -/
def withPoint (places value : Nat) (keepsPoint : Bool) : List Char :=
  let digits := paddedNatural (places + 1) value
  let whole := digits.take (digits.length - places)
  if places = 0 then whole ++ (if keepsPoint then ['.'] else [])
  else whole ++ '.' :: digits.drop (digits.length - places)

/-- A fixed number of places. -/
def fixedText (magnitude : Magnitude) (places : Nat) (keepsPoint : Bool) : List Char :=
  withPoint places (magnitude.roundedAt (-(places : Int))) keepsPoint

/-- The digits of the scientific form with `places` digits behind the point, and its exponent. -/
def scientificDigits (magnitude : Magnitude) (places : Nat) : Nat × Int :=
  if magnitude.significand = 0 then (0, 0)
  else
    let exponent := magnitude.pointPosition - 1
    let digits := magnitude.roundedAt (exponent - places)
    if digits = Nat.pow 10 (places + 1) then (Nat.pow 10 places, exponent + 1)
    else (digits, exponent)

def exponentialText (magnitude : Magnitude) (places : Nat) (keepsPoint : Bool) : List Char :=
  let (digits, exponent) := magnitude.scientificDigits places
  withPoint places digits keepsPoint ++ exponentText 2 exponent

/-- A text with a point without the zeros at its end, and without the point if nothing is left
behind it. -/
def withoutEmptyPlaces (text : List Char) : List Char :=
  if text.contains '.' then
    let kept := text.reverse.dropWhile (· == '0')
    (if kept.head? == some '.' then kept.drop 1 else kept).reverse
  else text

/-- The scientific form for exponents outside `-4` up to the number of digits, otherwise the
positional one. -/
def generalText (magnitude : Magnitude) (digits : Nat) (keepsZeros : Bool) : List Char :=
  let count := max digits 1
  let (value, exponent) := magnitude.scientificDigits (count - 1)
  let trim := fun text => if keepsZeros then text else withoutEmptyPlaces text
  if -4 ≤ exponent && exponent < count then
    trim (magnitude.fixedText (count - 1 - exponent).toNat keepsZeros)
  else trim (withPoint (count - 1) value keepsZeros) ++ exponentText 2 exponent

end AdminGate.Magnitude

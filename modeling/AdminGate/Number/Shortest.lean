import AdminGate.Number.Double

/-!
# Shortest decimals

The shortest decimal that reads back as a given double, and of several that short the nearest
one.  Candidates with one digit, two digits and so on are tried until one reads back; the exact
decimal value, which always reads back, ends the search.
-/

namespace AdminGate

/-- The number `digits · 10 ^ exponent`. -/
structure Decimal where
  digits : Nat
  exponent : Int
deriving DecidableEq, Repr

namespace Magnitude

/-- Whether a decimal reads back as the magnitude. -/
def isReadFrom (magnitude : Magnitude) (decimal : Decimal) : Bool :=
  Double.ofDecimal false decimal.digits decimal.exponent == .finite false magnitude

/-- The exact decimal value, kept folded in proofs: its digits fill a page. -/
@[irreducible] def exactDecimal (magnitude : Magnitude) : Decimal :=
  ⟨magnitude.units * Nat.pow 5 1074, -1074⟩

/-- The position of the decimal point: the power of ten just above the value, which is positive. -/
def pointPosition (magnitude : Magnitude) : Int :=
  let units := magnitude.units
  if unit ≤ units then (Nat.toDigits 10 (units / unit)).length
  else
    let places := (Nat.toDigits 10 (unit / units)).length - 1
    if unit ≤ units * Nat.pow 10 places then 1 - (places : Int) else -(places : Int)

/-- The value in units of `10 ^ exponent`, as a quotient. -/
def scaledBy (magnitude : Magnitude) (exponent : Int) : Nat × Nat :=
  if 0 ≤ exponent then (magnitude.units, unit * Nat.pow 10 exponent.toNat)
  else (magnitude.units * Nat.pow 10 (-exponent).toNat, unit)

/-- The decimal with the given number of digits that reads back and is nearest to the value, an
even last digit breaking a tie. -/
def decimalOfLength? (magnitude : Magnitude) (length : Nat) : Option Decimal :=
  let exponent := magnitude.pointPosition - length
  let (numerator, denominator) := magnitude.scaledBy exponent
  let below : Decimal := ⟨numerator / denominator, exponent⟩
  let above : Decimal := ⟨numerator / denominator + 1, exponent⟩
  let nearest : Decimal := ⟨roundedQuotient numerator denominator, exponent⟩
  [nearest, below, above].find? magnitude.isReadFrom

/-- The shortest decimal that reads back as the magnitude. -/
def shortestDecimal (magnitude : Magnitude) : Decimal :=
  ((List.range 17).findSome? fun index => magnitude.decimalOfLength? (index + 1)).getD
    magnitude.exactDecimal

theorem isReadFrom_of_decimalOfLength? {magnitude : Magnitude} {length : Nat} {decimal : Decimal}
    (found : magnitude.decimalOfLength? length = some decimal) :
    magnitude.isReadFrom decimal := by
  simp only [decimalOfLength?] at found
  exact List.find?_some found

theorem isReadFrom_shortestDecimal {magnitude : Magnitude}
    (exact : magnitude.isReadFrom magnitude.exactDecimal) :
    magnitude.isReadFrom magnitude.shortestDecimal := by
  rw [shortestDecimal]
  generalize magnitude.exactDecimal = whole at exact
  cases search : (List.range 17).findSome? fun index => magnitude.decimalOfLength? (index + 1) with
  | none => exact exact
  | some decimal =>
      obtain ⟨index, _, found⟩ := List.exists_of_findSome?_eq_some search
      exact isReadFrom_of_decimalOfLength? found

end Magnitude

end AdminGate

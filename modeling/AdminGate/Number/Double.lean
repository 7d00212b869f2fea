/-!
# Double-precision numbers

A finite double is `significand · 2 ^ (scale − 1074)` with a sign, in the one form that the
format allows: the significand has 53 bits, or fewer at the smallest scale.  `Magnitude.ofRatio?`
rounds a quotient of natural numbers to the nearest double, a tie to the even significand;
everything is exact arithmetic on natural numbers.
-/

namespace AdminGate

/-- The size of a finite double, without its sign. -/
structure Magnitude where
  significand : Nat
  scale : Nat
  significand_lt : significand < Nat.pow 2 53
  normal : Nat.pow 2 52 ≤ significand ∨ scale = 0
  scale_le : scale ≤ 2045
deriving DecidableEq, Repr

/-- A double: a signed finite number, an infinity, or the value that is no number. -/
inductive Double where
  | finite (negative : Bool) (magnitude : Magnitude)
  | infinite (negative : Bool)
  | notANumber
deriving DecidableEq, Repr

namespace Magnitude

def zero : Magnitude := ⟨0, 0, by decide, .inr rfl, by decide⟩

instance : Inhabited Magnitude := ⟨zero⟩

/-- The value counted in units of `2 ^ -1074`. -/
def units (magnitude : Magnitude) : Nat :=
  magnitude.significand * Nat.pow 2 magnitude.scale

/-- The number of units in one, kept folded in proofs. -/
@[irreducible] def unit : Nat := Nat.pow 2 1074

/-- The natural number nearest to a quotient, the even one of two equally near. -/
def roundedQuotient (numerator denominator : Nat) : Nat :=
  let quotient := numerator / denominator
  let remainder := numerator % denominator
  if 2 * remainder < denominator then quotient
  else if denominator < 2 * remainder then quotient + 1
  else if quotient % 2 = 0 then quotient
  else quotient + 1

/-- The scale at which a quotient of units has a significand of at most 53 bits. -/
def scaleFor (numerator denominator : Nat) : Nat :=
  Nat.log2 (numerator / denominator) - 52

/-- A significand and its scale, a significand of 54 bits moved one scale up; nothing when the
scale is out of range. -/
def make? (significand scale : Nat) : Option Magnitude :=
  if fits : significand < Nat.pow 2 53 ∧ (Nat.pow 2 52 ≤ significand ∨ scale = 0) ∧ scale ≤ 2045 then
    some ⟨significand, scale, fits.1, fits.2.1, fits.2.2⟩
  else if significand = Nat.pow 2 53 then
    if carried : scale + 1 ≤ 2045 then
      some ⟨Nat.pow 2 52, scale + 1, by decide, .inl (Nat.le_refl _), carried⟩
    else none
  else none

/-- The double nearest to `numerator / denominator`; nothing when it is beyond the largest. -/
def ofRatio? (numerator denominator : Nat) : Option Magnitude :=
  let scale := scaleFor (numerator * unit) denominator
  make? (roundedQuotient (numerator * unit) (denominator * Nat.pow 2 scale)) scale

end Magnitude

namespace Double

instance : Inhabited Double := ⟨.finite false .zero⟩

/-- The double nearest to a signed quotient, infinite when it is out of range. -/
def ofRatio (negative : Bool) (numerator denominator : Nat) : Double :=
  ((Magnitude.ofRatio? numerator denominator).map (.finite negative)).getD (.infinite negative)

/-- The double nearest to `digits · 10 ^ exponent`.  An exponent that puts the value beyond
every double, or below half of the smallest one, is answered without computing the power. -/
def ofDecimal (negative : Bool) (digits : Nat) (exponent : Int) : Double :=
  let magnitude := exponent + (Nat.toDigits 10 digits).length
  if digits = 0 then .finite negative .zero
  else if 400 < magnitude then .infinite negative
  else if magnitude < -400 then .finite negative .zero
  else if 0 ≤ exponent then ofRatio negative (digits * Nat.pow 10 exponent.toNat) 1
  else ofRatio negative digits (Nat.pow 10 (-exponent).toNat)

def ofInt (value : Int) : Double :=
  ofRatio (value < 0) value.natAbs 1

/-- Whether the number is one of the two zeros. -/
def isZero : Double → Bool
  | .finite _ magnitude => magnitude.significand = 0
  | _ => false

/-- Whether the number is neither infinite nor missing. -/
def isFinite : Double → Bool
  | .finite .. => true
  | _ => false

end Double

end AdminGate

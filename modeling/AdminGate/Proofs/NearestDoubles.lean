import AdminGate.Number.Shortest
import Mathlib.Tactic.Ring

/-!
# Nearest doubles

Which double is nearest to a decimal depends on the number that the decimal stands
for and not on how it is written: zeros may move from its digits to its exponent.
A decimal that stands for a double exactly is read as that double, and so is the
shortest decimal of a double.
-/

namespace AdminGate

namespace Magnitude

variable {magnitude : Magnitude} {numerator denominator factor : Nat}

/-! ## Quotients -/

theorem roundedQuotient_mul_right (positive : 0 < factor) :
    roundedQuotient (numerator * factor) (denominator * factor) =
      roundedQuotient numerator denominator := by
  simp only [roundedQuotient, Nat.mul_div_mul_right _ _ positive,
    Nat.mul_mod_mul_right, ← Nat.mul_assoc, Nat.mul_lt_mul_right positive]

theorem roundedQuotient_mul_self (positive : 0 < denominator) :
    roundedQuotient (numerator * denominator) denominator = numerator := by
  simp [roundedQuotient, positive]

theorem scaleFor_mul_right (positive : 0 < factor) :
    scaleFor (numerator * factor) (denominator * factor) =
      scaleFor numerator denominator := by
  rw [scaleFor, scaleFor, Nat.mul_div_mul_right _ _ positive]

theorem ofRatio?_mul_right (positive : 0 < factor) :
    ofRatio? (numerator * factor) (denominator * factor) =
      ofRatio? numerator denominator := by
  simp only [ofRatio?, Nat.mul_right_comm _ factor, scaleFor_mul_right positive,
    roundedQuotient_mul_right positive]

theorem ofRatio?_congr {otherNumerator otherDenominator : Nat}
    (positive : 0 < denominator) (other : 0 < otherDenominator)
    (same : numerator * otherDenominator = otherNumerator * denominator) :
    ofRatio? numerator denominator = ofRatio? otherNumerator otherDenominator := by
  rw [← ofRatio?_mul_right other, same, Nat.mul_comm denominator,
    ofRatio?_mul_right positive]

theorem make?_self (magnitude : Magnitude) :
    make? magnitude.significand magnitude.scale = some magnitude :=
  dif_pos ⟨magnitude.significand_lt, magnitude.normal, magnitude.scale_le⟩

/-- The scale of a magnitude is the one at which its value is rounded. -/
theorem log2_units (magnitude : Magnitude) :
    Nat.log2 magnitude.units - 52 = magnitude.scale := by
  obtain ⟨significand, scale, small, normal, _⟩ := magnitude
  have positive : 0 < 2 ^ scale := Nat.two_pow_pos scale
  change Nat.log2 (significand * 2 ^ scale) - 52 = scale
  rcases normal with large | rfl
  · have filled : 0 < significand := Nat.lt_of_lt_of_le (by decide) large
    have high : Nat.log2 (significand * 2 ^ scale) = 52 + scale := by
      refine (Nat.log2_eq_iff (Nat.mul_pos filled positive).ne').mpr ⟨?_, ?_⟩
      · rw [Nat.pow_add]
        exact Nat.mul_le_mul_right _ large
      · rw [show 52 + scale + 1 = 53 + scale by omega, Nat.pow_add]
        exact (Nat.mul_lt_mul_right positive).mpr small
    omega
  · rcases Nat.eq_zero_or_pos significand with rfl | filled
    · decide
    · have low : Nat.log2 significand < 53 :=
        (Nat.log2_lt (Nat.ne_of_gt filled)).mpr small
      rw [Nat.pow_zero, Nat.mul_one]
      omega

/-- A quotient that is the value of a magnitude is read as that magnitude. -/
theorem ofRatio?_of_units (positive : 0 < denominator)
    (same : numerator * unit = magnitude.units * denominator) :
    ofRatio? numerator denominator = some magnitude := by
  have scale : scaleFor (magnitude.units * denominator) denominator =
      magnitude.scale := by
    rw [scaleFor, Nat.mul_div_cancel _ positive, log2_units]
  have significand : roundedQuotient (magnitude.units * denominator)
      (denominator * Nat.pow 2 magnitude.scale) = magnitude.significand := by
    rw [units, Nat.mul_assoc, Nat.mul_comm (Nat.pow 2 _)]
    exact roundedQuotient_mul_self (Nat.mul_pos positive (Nat.two_pow_pos _))
  simp only [ofRatio?, same, scale, significand, make?_self]

end Magnitude

/-! ## Decimals -/

theorem length_toDigits_mul_pow {digits : Nat} (positive : 0 < digits)
    (zeros : Nat) :
    (Nat.toDigits 10 (digits * 10 ^ zeros)).length =
      (Nat.toDigits 10 digits).length + zeros := by
  induction zeros with
  | zero => rw [Nat.pow_zero, Nat.mul_one, Nat.add_zero]
  | succ zeros ih =>
      have filled : 0 < digits * 10 ^ zeros :=
        Nat.mul_pos positive (Nat.pow_pos (by decide))
      have longer : digits * 10 ^ (zeros + 1) = 10 * (digits * 10 ^ zeros) + 0 := by
        ring
      rw [longer, ← Nat.toDigits_append_toDigits (by decide) filled (by decide),
        List.length_append, ih]
      rfl

namespace Double

variable {negative : Bool} {digits : Nat} {exponent : Int}

theorem ofRatio_eq_finite_iff {numerator denominator : Nat} {magnitude : Magnitude} :
    ofRatio negative numerator denominator = .finite negative magnitude ↔
      Magnitude.ofRatio? numerator denominator = some magnitude := by
  rw [ofRatio]
  generalize Magnitude.ofRatio? numerator denominator = found
  cases found <;> simp

/-- Where the first digit of a decimal stands decides whether it is in reach at all;
if it is, the nearest double is that of a quotient. -/
theorem ofDecimal_eq (positive : 0 < digits) :
    ofDecimal negative digits exponent =
      if 400 < exponent + (Nat.toDigits 10 digits).length then .infinite negative
      else if exponent + (Nat.toDigits 10 digits).length < -400 then
        .finite negative .zero
      else ofRatio negative (digits * 10 ^ exponent.toNat) (10 ^ (-exponent).toNat) := by
  rw [ofDecimal, if_neg (Nat.ne_of_gt positive)]
  congr 2
  split
  · rename_i above
    rw [Int.toNat_of_nonpos (show -exponent ≤ 0 by omega), Nat.pow_zero, Nat.pow_eq]
  · rename_i below
    rw [Int.toNat_of_nonpos (show exponent ≤ 0 by omega), Nat.pow_zero, Nat.mul_one,
      Nat.pow_eq]

/-- Zeros at the end of the digits may as well count for the exponent. -/
theorem ofDecimal_mul_pow (negative : Bool) (digits zeros : Nat) (exponent : Int) :
    ofDecimal negative (digits * 10 ^ zeros) exponent =
      ofDecimal negative digits (exponent + zeros) := by
  rcases Nat.eq_zero_or_pos digits with rfl | positive
  · simp [ofDecimal]
  have filled : 0 < digits * 10 ^ zeros :=
    Nat.mul_pos positive (Nat.pow_pos (by decide))
  have place : exponent + ((Nat.toDigits 10 (digits * 10 ^ zeros)).length : Int) =
      exponent + zeros + (Nat.toDigits 10 digits).length := by
    rw [length_toDigits_mul_pow positive]
    omega
  have quotient : ofRatio negative (digits * 10 ^ zeros * 10 ^ exponent.toNat)
      (10 ^ (-exponent).toNat) =
        ofRatio negative (digits * 10 ^ (exponent + zeros).toNat)
          (10 ^ (-(exponent + zeros)).toNat) := by
    have exponents : zeros + (exponent.toNat + (-(exponent + zeros)).toNat) =
        (exponent + zeros).toNat + (-exponent).toNat := by
      omega
    have same : digits * 10 ^ zeros * 10 ^ exponent.toNat *
        10 ^ (-(exponent + zeros)).toNat =
          digits * 10 ^ (exponent + zeros).toNat * 10 ^ (-exponent).toNat := by
      rw [Nat.mul_assoc, Nat.mul_assoc, Nat.mul_assoc, ← pow_add, ← pow_add,
        ← pow_add, exponents]
    rw [ofRatio, ofRatio, Magnitude.ofRatio?_congr (Nat.pow_pos (by decide))
      (Nat.pow_pos (by decide)) same]
  rw [ofDecimal_eq filled, ofDecimal_eq positive, place, quotient]

theorem digits_pos_of_read {magnitude : Magnitude}
    (filled : magnitude.significand ≠ 0)
    (read : ofDecimal negative digits exponent = .finite negative magnitude) :
    0 < digits := by
  refine Nat.pos_of_ne_zero fun zero => filled ?_
  rw [ofDecimal, if_pos zero] at read
  cases read
  rfl

theorem ofDecimal_signed {magnitude : Magnitude} (positive : 0 < digits)
    (read : ofDecimal false digits exponent = .finite false magnitude)
    (negative : Bool) :
    ofDecimal negative digits exponent = .finite negative magnitude := by
  rw [ofDecimal_eq positive] at read ⊢
  split at read
  · cases read
  rename_i near
  rw [if_neg near]
  split at read
  · cases read
    rename_i small
    rw [if_pos small]
  · rename_i large
    rw [if_neg large]
    exact ofRatio_eq_finite_iff.mpr (ofRatio_eq_finite_iff.mp read)

end Double

/-! ## Exact and shortest decimals -/

namespace Magnitude

variable {magnitude : Magnitude}

theorem units_pos (filled : magnitude.significand ≠ 0) : 0 < magnitude.units :=
  Nat.mul_pos (Nat.pos_of_ne_zero filled) (Nat.two_pow_pos _)

theorem lt_length_exact {steps : Nat} (moving : 0 < steps)
    (filled : magnitude.significand ≠ 0) :
    2 * steps < (Nat.toDigits 10 (magnitude.units * 5 ^ (3 * steps))).length := by
  refine Nat.lt_of_not_le fun short => ?_
  have below := (Nat.length_toDigits_le_iff (by decide) (by omega)).mp short
  refine Nat.not_le_of_lt below ?_
  calc 10 ^ (2 * steps)
      = (10 ^ 2) ^ steps := pow_mul 10 2 steps
    _ ≤ (5 ^ 3) ^ steps := Nat.pow_le_pow_left (by decide) steps
    _ = 5 ^ (3 * steps) := (pow_mul 5 3 steps).symm
    _ ≤ magnitude.units * 5 ^ (3 * steps) :=
        Nat.le_mul_of_pos_left _ (units_pos filled)

theorem length_exact_le {places tens : Nat} (some : 0 < tens)
    (reach : 53 + magnitude.scale ≤ places + 3 * tens) :
    (Nat.toDigits 10 (magnitude.units * 5 ^ places)).length ≤ places + tens := by
  refine (Nat.length_toDigits_le_iff (by decide) (by omega)).mpr ?_
  calc magnitude.units * 5 ^ places
      < 2 ^ 53 * 2 ^ magnitude.scale * 5 ^ places :=
        (Nat.mul_lt_mul_right (Nat.pow_pos (by decide))).mpr
          ((Nat.mul_lt_mul_right (Nat.two_pow_pos _)).mpr magnitude.significand_lt)
    _ = 2 ^ (53 + magnitude.scale) * 5 ^ places := by rw [pow_add]
    _ ≤ 2 ^ (places + 3 * tens) * 5 ^ places :=
        Nat.mul_le_mul_right _ (Nat.pow_le_pow_right (by decide) reach)
    _ = (2 ^ 3) ^ tens * (2 * 5) ^ places := by
        rw [pow_add, pow_mul, mul_pow]
        ring
    _ ≤ 10 ^ tens * (2 * 5) ^ places :=
        Nat.mul_le_mul_right _ (Nat.pow_le_pow_left (by decide) tens)
    _ = 10 ^ (places + tens) := by
        rw [pow_add, Nat.mul_comm]

/-- An exact decimal has as many places as a unit has factors.  Their number stays
a variable, or it would be computed with. -/
theorem exists_places : ∃ places : Nat, places = 1074 ∧ unit = 2 ^ places ∧
    ∀ magnitude : Magnitude,
      magnitude.exactDecimal = ⟨magnitude.units * 5 ^ places, -(places : Int)⟩ := by
  have cast : (1074 : Int) = ((1074 : Nat) : Int) := Eq.refl 1074
  unfold unit exactDecimal
  rw [cast]
  generalize 1074 = places
  exact ⟨places, rfl, rfl, fun _ => rfl⟩

theorem isReadFrom_exactDecimal (filled : magnitude.significand ≠ 0) :
    magnitude.isReadFrom magnitude.exactDecimal := by
  obtain ⟨places, deep, unit, exact⟩ := exists_places
  have positive : 0 < magnitude.units * 5 ^ places :=
    Nat.mul_pos (units_pos filled) (Nat.pow_pos (by decide))
  have scale := magnitude.scale_le
  have short : (Nat.toDigits 10 (magnitude.units * 5 ^ places)).length ≤
      places + 342 :=
    length_exact_le (by decide) (by omega)
  have long : 2 * 358 < (Nat.toDigits 10 (magnitude.units * 5 ^ places)).length := by
    rw [show places = 3 * 358 by omega]
    exact lt_length_exact (by decide) filled
  have value : magnitude.units * 5 ^ places * Magnitude.unit =
      magnitude.units * 10 ^ places := by
    rw [unit, Nat.mul_assoc, ← mul_pow]
    rfl
  have read := ofRatio?_of_units (Nat.pow_pos (by decide)) value
  rw [exact]
  refine beq_iff_eq.mpr ?_
  change Double.ofDecimal false _ (-(places : Int)) = _
  rw [Double.ofDecimal_eq positive, if_neg (by omega), if_neg (by omega),
    Int.neg_neg, Int.toNat_natCast, Int.toNat_of_nonpos (by omega), Nat.pow_zero,
    Nat.mul_one, Double.ofRatio, read, Option.map_some,
    Option.getD_some]

theorem ofDecimal_shortestDecimal (filled : magnitude.significand ≠ 0) :
    Double.ofDecimal false magnitude.shortestDecimal.digits
      magnitude.shortestDecimal.exponent = .finite false magnitude :=
  beq_iff_eq.mp (isReadFrom_shortestDecimal (isReadFrom_exactDecimal filled))

end Magnitude

end AdminGate

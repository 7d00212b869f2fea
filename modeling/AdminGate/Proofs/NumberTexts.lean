import AdminGate.Json.Reader
import AdminGate.Proofs.IntegerTexts
import AdminGate.Proofs.NearestDoubles

/-!
# Number texts

The written form of an integer or of a finite double is a number of the exchange
format: digits that do not begin with a superfluous zero, then possibly a point with
digits behind it and an exponent.  Reading it takes all of it, whatever may follow
that a number does not go on with, and gives the integer or the double back.
-/

namespace AdminGate

/-! ## Digits -/

namespace Text

def Digits (text : List Char) : Prop :=
  ∀ character ∈ text, character.isDigit = true

theorem digits_naturalText (value : Nat) : Digits (naturalText value) :=
  fun _ => isDigit_of_mem_naturalText

theorem digits_zeros (count : Nat) : Digits (List.replicate count '0') := by
  intro character member
  rw [List.eq_of_mem_replicate member]
  decide

theorem Digits.append {first second : List Char} (front : Digits first)
    (back : Digits second) : Digits (first ++ second) :=
  List.forall_mem_append.mpr ⟨front, back⟩

theorem ne_of_isDigit {digit mark : Char} (shown : digit.isDigit = true)
    (unlike : mark.isDigit = false) : digit ≠ mark := by
  rintro rfl
  cases shown.symm.trans unlike

theorem length_basicDigits (text : List Char) :
    (basicDigits text).length = text.length :=
  List.length_map _

theorem filterMap_basicDigit? {text : List Char} (digits : Digits text) :
    text.filterMap basicDigit? = basicDigits text := by
  rw [basicDigits, ← List.filterMap_eq_map]
  refine List.filterMap_congr fun character member => ?_
  simp [basicDigit?, digits character member]

/-- The number that a row of digits stands for. -/
def rowValue (text : List Char) : Nat :=
  Nat.ofDigitChars 10 text 0

theorem rowValue_naturalText (value : Nat) : rowValue (naturalText value) = value :=
  Nat.ofDigitChars_ten_toDigits

theorem rowValue_append_zeros (text : List Char) (zeros : Nat) :
    rowValue (text ++ List.replicate zeros '0') = rowValue text * 10 ^ zeros := by
  rw [rowValue, Nat.ofDigitChars_append, Nat.ofDigitChars_replicate_zero, Nat.mul_comm]
  rfl

theorem rowValue_zeros_append (zeros : Nat) (text : List Char) :
    rowValue (List.replicate zeros '0' ++ text) = rowValue text := by
  rw [rowValue, Nat.ofDigitChars_append, Nat.ofDigitChars_replicate_zero, Nat.mul_zero]
  rfl

theorem digitsValue_append (first second : List Char) :
    digitsValue (digitsValue 0 (basicDigits first)) (basicDigits second) =
      rowValue (first ++ second) := by
  rw [digitsValue_basicDigits, digitsValue_basicDigits, rowValue,
    Nat.ofDigitChars_append]

/-- Digits with nothing to leave out at their front. -/
structure Significant (text : List Char) : Prop where
  digits : Digits text
  filled : text ≠ []
  proper : text.head? ≠ some '0'

theorem head?_naturalText {value : Nat} (positive : 0 < value) :
    (naturalText value).head? ≠ some '0' := by
  unfold naturalText
  induction value using Nat.strongRecOn with
  | ind value ih =>
      rw [Nat.toDigits_eq_if (by decide)]
      split
      · simpa using positive.ne'
      · rename_i large
        rw [List.head?_append_of_ne_nil _ Nat.toDigits_ne_nil]
        exact ih (value / 10) (by omega) (by omega)

theorem significant_naturalText {value : Nat} (positive : 0 < value) :
    Significant (naturalText value) :=
  ⟨digits_naturalText value, Nat.toDigits_ne_nil, head?_naturalText positive⟩

namespace Significant

variable {digits : List Char}

theorem append {more : List Char} (significant : Significant digits)
    (further : Digits more) : Significant (digits ++ more) where
  digits := significant.digits.append further
  filled := List.append_ne_nil_of_left_ne_nil significant.filled more
  proper := by
    rw [List.head?_append_of_ne_nil _ significant.filled]
    exact significant.proper

theorem of_append {more : List Char} (significant : Significant (digits ++ more))
    (filled : digits ≠ []) : Significant digits where
  digits := (List.forall_mem_append.mp significant.digits).1
  filled := filled
  proper := by
    have proper := significant.proper
    rwa [List.head?_append_of_ne_nil _ filled] at proper

theorem take {count : Nat} (significant : Significant digits) (positive : 0 < count) :
    Significant (digits.take count) := by
  rw [← List.take_append_drop count digits] at significant
  refine significant.of_append fun empty => significant.filled ?_
  rw [List.take_append_drop]
  exact (List.take_eq_nil_iff.mp empty).resolve_left positive.ne'

theorem exists_cons (significant : Significant digits) :
    ∃ first rest, digits = first :: rest ∧ first.isDigit = true ∧ first ≠ '0' := by
  cases digits with
  | nil => exact absurd rfl significant.filled
  | cons first rest =>
      exact ⟨first, rest, rfl, significant.digits first List.mem_cons_self,
        fun zero => significant.proper (congrArg some zero)⟩

end Significant

end Text

/-! ## Reading -/

namespace Json.Reader

open Text (Digits Significant rowValue)

variable {text whole decimals rest : List Char} {negative : Bool}

/-- What a number does not go on with. -/
def EndsNumber (rest : List Char) : Prop :=
  ∀ first ∈ rest.head?, first.isDigit = false ∧ first ≠ '.' ∧ first ≠ 'e' ∧ first ≠ 'E'

theorem spanDigits_append (digits : Digits text)
    (other : ∀ first ∈ rest.head?, first.isDigit = false) :
    spanDigits (text ++ rest) = (Text.basicDigits text, rest) := by
  have stops : rest.takeWhile Char.isDigit = [] ∧
      rest.dropWhile Char.isDigit = rest := by
    cases rest with
    | nil => exact ⟨rfl, rfl⟩
    | cons first rest => simp [other first rfl]
  rw [spanDigits, List.takeWhile_append_of_pos digits,
    List.dropWhile_append_of_pos digits, stops.1, stops.2, List.append_nil,
    Text.filterMap_basicDigit? digits]

/-- The digits that a number begins with: no zero stands in front of others. -/
inductive Leads : List Char → Prop where
  | zero : Leads ['0']
  | significant {text : List Char} : Significant text → Leads text

theorem leads_naturalText (value : Nat) : Leads (Text.naturalText value) := by
  rcases Nat.eq_zero_or_pos value with rfl | positive
  · exact .zero
  · exact .significant (Text.significant_naturalText positive)

/-- The texts of numbers with a point or an exponent, the digits in them and the
power of ten that these count. -/
inductive Fractional : List Char → Nat → Int → Prop where
  | positional {whole decimals : List Char} : Leads whole → Digits decimals →
      decimals ≠ [] → Fractional (whole ++ '.' :: decimals) (rowValue (whole ++ decimals))
        (-(decimals.length : Int))
  | scientific {whole : List Char} {width : Nat} {exponent : Int} : Leads whole →
      Fractional (whole ++ exponentText width exponent) (rowValue whole) exponent
  | both {whole decimals : List Char} {width : Nat} {exponent : Int} : Leads whole →
      Digits decimals → decimals ≠ [] →
      Fractional (whole ++ '.' :: (decimals ++ exponentText width exponent))
        (rowValue (whole ++ decimals)) (exponent - decimals.length)

theorem digitsValue_paddedNatural (width value : Nat) :
    Text.digitsValue 0 (Text.basicDigits (paddedNatural width value)) = value := by
  rw [Text.digitsValue_basicDigits]
  exact (Text.rowValue_zeros_append _ _).trans (Text.rowValue_naturalText value)

theorem digits_paddedNatural (width value : Nat) :
    Digits (paddedNatural width value) :=
  (Text.digits_zeros _).append (Text.digits_naturalText value)

theorem exponent?_append (width : Nat) (exponent : Int)
    (other : ∀ first ∈ rest.head?, first.isDigit = false) :
    exponent? (exponentText width exponent ++ rest) = some (exponent, rest) := by
  have digits := spanDigits_append (digits_paddedNatural width exponent.natAbs) other
  have filled : Text.basicDigits (paddedNatural width exponent.natAbs) ≠ [] := by
    simp [Text.basicDigits, paddedNatural, Text.naturalText]
  have value := digitsValue_paddedNatural width exponent.natAbs
  generalize Text.basicDigits (paddedNatural width exponent.natAbs) = row at *
  cases row with
  | nil => exact absurd rfl filled
  | cons first row =>
      have sign : (if exponent < 0 then -(exponent.natAbs : Int)
          else exponent.natAbs) = exponent := by
        split <;> omega
      rw [← value] at sign
      rcases Int.lt_or_le exponent 0 with below | above
      · rw [if_pos below] at sign
        simp [exponentText, exponent?, below, digits, sign]
      · rw [if_neg (Int.not_lt.mpr above)] at sign
        simp [exponentText, exponent?, Int.not_lt.mpr above, digits, sign]

theorem fraction?_append (digits : Digits decimals) (filled : decimals ≠ [])
    (other : ∀ first ∈ rest.head?, first.isDigit = false) :
    fraction? ('.' :: (decimals ++ rest)) = some (Text.basicDigits decimals, rest) := by
  rw [fraction?, spanDigits_append digits other]
  cases decimals with
  | nil => exact absurd rfl filled
  | cons first decimals => rfl

theorem EndsNumber.fraction? (ends : EndsNumber rest) : fraction? rest = none := by
  cases rest with
  | nil => rfl
  | cons first rest =>
      have other : first ≠ '.' := (ends first rfl).2.1
      simp [Reader.fraction?, other]

theorem EndsNumber.exponent? (ends : EndsNumber rest) : exponent? rest = none := by
  cases rest with
  | nil => rfl
  | cons first rest =>
      obtain ⟨-, -, small, large⟩ := ends first rfl
      simp [Reader.exponent?, small, large]

theorem EndsNumber.other (ends : EndsNumber rest) :
    ∀ first ∈ rest.head?, first.isDigit = false :=
  fun first begins => (ends first begins).1

theorem Leads.read (leads : Leads whole)
    (other : ∀ first ∈ rest.head?, first.isDigit = false) :
    leadingDigits (whole ++ rest) = (Text.basicDigits whole, rest) := by
  cases leads with
  | zero => rfl
  | significant significant =>
      have digits := significant.digits
      obtain ⟨first, tail, rfl, -, proper⟩ := significant.exists_cons
      rw [List.cons_append, leadingDigits, ← List.cons_append,
        spanDigits_append digits other]
      simpa using proper

theorem Leads.isEmpty_basicDigits (leads : Leads whole) :
    (Text.basicDigits whole).isEmpty = false := by
  cases leads with
  | zero => rfl
  | significant significant => simpa [Text.basicDigits] using significant.filled

def OpensDigits (text : List Char) : Prop :=
  ∃ first tail, text = first :: tail ∧ first.isDigit = true

theorem Leads.opensDigits (leads : Leads whole) : OpensDigits whole := by
  cases leads with
  | zero => exact ⟨'0', [], rfl, by decide⟩
  | significant significant =>
      obtain ⟨first, tail, whole, digit, -⟩ := significant.exists_cons
      exact ⟨first, tail, whole, digit⟩

theorem unsigned?_integer (leads : Leads whole) (ends : EndsNumber rest)
    (short : whole.length ≤ digitLimit) :
    unsigned? negative (whole ++ rest) =
      some (.int (if negative then -(rowValue whole : Int) else rowValue whole),
        rest) := by
  simp [unsigned?, leads.read ends.other, leads.isEmpty_basicDigits, ends.fraction?,
    ends.exponent?, Text.length_basicDigits, short, Text.digitsValue_basicDigits,
    rowValue]

/-- Neither a point nor an exponent is a digit, and an exponent is no fraction. -/
theorem point_other (rest : List Char) :
    ∀ first ∈ ('.' :: rest).head?, first.isDigit = false := by
  simp

theorem exponentText_other (width : Nat) (exponent : Int) (rest : List Char) :
    ∀ first ∈ (exponentText width exponent ++ rest).head?, first.isDigit = false := by
  simp [exponentText]

theorem fraction?_exponentText (width : Nat) (exponent : Int) (rest : List Char) :
    fraction? (exponentText width exponent ++ rest) = none :=
  rfl

theorem Fractional.read {digits : Nat} {power : Int}
    (fractional : Fractional text digits power) (ends : EndsNumber rest) :
    unsigned? negative (text ++ rest) =
      some (.float (Double.ofDecimal negative digits power), rest) := by
  cases fractional with
  | positional leads digits filled =>
      rw [List.append_assoc, List.cons_append]
      simp [unsigned?, leads.read (point_other _), leads.isEmpty_basicDigits,
        fraction?_append digits filled ends.other, ends.exponent?,
        Text.digitsValue_append, Text.length_basicDigits]
  | scientific leads =>
      rw [List.append_assoc]
      simp [unsigned?, leads.read (exponentText_other _ _ _), leads.isEmpty_basicDigits,
        fraction?_exponentText, exponent?_append _ _ ends.other,
        Text.digitsValue_basicDigits]
      rfl
  | both leads digits filled =>
      rw [List.append_assoc, List.cons_append, List.append_assoc]
      simp [unsigned?, leads.read (point_other _), leads.isEmpty_basicDigits,
        fraction?_append digits filled (exponentText_other _ _ _),
        exponent?_append _ _ ends.other, Text.digitsValue_append,
        Text.length_basicDigits]

end Json.Reader

/-! ## Writing -/

open Text (Digits Significant rowValue)
open Json.Reader (Leads Fractional EndsNumber)

/-- Digits that are not all zero are followed by the zeros that are left out. -/
theorem exists_zeros {digits : List Char} (positive : rowValue digits ≠ 0) :
    ∃ zeros, digits = withoutTrailingZeros digits ++ List.replicate zeros '0' := by
  have halves : digits.reverse.takeWhile (· == '0') ++
      digits.reverse.dropWhile (· == '0') = digits.reverse :=
    List.takeWhile_append_dropWhile
  obtain ⟨zeros, dropped⟩ : ∃ zeros, digits.reverse.takeWhile (· == '0') =
      List.replicate zeros '0' := by
    refine ⟨_, List.eq_replicate_of_mem fun character member => ?_⟩
    simpa using List.mem_takeWhile_imp member
  rw [dropped] at halves
  have whole : digits = (digits.reverse.dropWhile (· == '0')).reverse ++
      List.replicate zeros '0' := by
    simpa using congrArg List.reverse halves.symm
  refine ⟨zeros, ?_⟩
  unfold withoutTrailingZeros
  split
  · rename_i none
    rw [none] at whole
    refine absurd ?_ positive
    rw [whole, List.nil_append, ← List.append_nil (List.replicate zeros '0'),
      Text.rowValue_zeros_append]
    rfl
  · exact whole

namespace Magnitude

variable {magnitude : Magnitude}

theorem eq_zero_of_empty : (magnitude : Magnitude) → magnitude.significand = 0 →
    magnitude = .zero
  | ⟨_, _, _, .inl large, _⟩, rfl => absurd large (by decide)
  | ⟨_, _, _, .inr rfl, _⟩, rfl => rfl

/-- What is written of the digits of a shortest decimal, and where the point
belongs, still stands for the double. -/
theorem shortestDecimal_kept (filled : magnitude.significand ≠ 0) :
    let written := Text.naturalText magnitude.shortestDecimal.digits
    let point := magnitude.shortestDecimal.exponent + written.length
    let kept := withoutTrailingZeros written
    Significant kept ∧ ∀ negative,
      Double.ofDecimal negative (rowValue kept) (point - kept.length) =
        .finite negative magnitude := by
  intro written point kept
  have read := ofDecimal_shortestDecimal filled
  have positive := Double.digits_pos_of_read filled read
  have value : rowValue written = magnitude.shortestDecimal.digits :=
    Text.rowValue_naturalText _
  obtain ⟨zeros, whole⟩ : ∃ zeros, written = kept ++ List.replicate zeros '0' :=
    exists_zeros (value ▸ positive.ne')
  have place : point - kept.length = magnitude.shortestDecimal.exponent + zeros := by
    have length := congrArg List.length whole
    rw [List.length_append, List.length_replicate] at length
    omega
  constructor
  · have significant : Significant written := Text.significant_naturalText positive
    rw [whole] at significant
    exact significant.of_append (withoutTrailingZeros_ne_nil _)
  · intro negative
    rw [place, ← Double.ofDecimal_mul_pow, ← Text.rowValue_append_zeros, ← whole, value]
    exact Double.ofDecimal_signed positive read negative

end Magnitude

variable {digits : List Char}

/-- A layout of digits is a number of the exchange format that stands for the digits
with the point where it is asked for. -/
def StandsFor (text digits : List Char) (point : Int) : Prop :=
  ∃ row power, Fractional text row power ∧ ∀ negative,
    Double.ofDecimal negative row power =
      Double.ofDecimal negative (rowValue digits) (point - digits.length)

theorem positionalText_standsFor (significant : Significant digits) (point : Int) :
    StandsFor (positionalText digits point) digits point := by
  unfold positionalText
  split
  · -- All digits stand behind the point, after the zeros between them.
    rename_i behind
    have decimals : Digits (List.replicate (-point).toNat '0' ++ digits) :=
      (Text.digits_zeros _).append significant.digits
    refine ⟨_, _, .positional .zero decimals (by simp [significant.filled]),
      fun negative => ?_⟩
    have row : rowValue (['0'] ++ (List.replicate (-point).toNat '0' ++ digits)) =
        rowValue digits :=
      (Text.rowValue_zeros_append 1 _).trans (Text.rowValue_zeros_append _ _)
    rw [row, List.length_append, List.length_replicate]
    congr 1
    omega
  simp only []
  split
  · -- All digits stand in front of it, before the zeros that are missing.
    rename_i front short
    have whole := significant.append (Text.digits_zeros (point.toNat - digits.length))
    refine ⟨_, _, .positional (.significant whole) (Text.digits_zeros 1) nofun,
      fun negative => ?_⟩
    have row : rowValue (digits ++ List.replicate (point.toNat - digits.length) '0' ++
        ['0']) = rowValue digits * 10 ^ (point.toNat - digits.length + 1) := by
      rw [List.append_assoc, ← List.replicate_succ', Text.rowValue_append_zeros]
    rw [row, Double.ofDecimal_mul_pow, List.length_singleton]
    congr 1
    omega
  · rename_i front long
    have decimals : Digits (digits.drop point.toNat) := fun character member =>
      significant.digits character (List.mem_of_mem_drop member)
    have whole := significant.take (show 0 < point.toNat by omega)
    refine ⟨_, _, .positional (.significant whole) decimals (by simpa using long),
      fun negative => ?_⟩
    rw [List.take_append_drop, List.length_drop]
    congr 1
    omega

theorem scientificText_standsFor (significant : Significant digits) (width : Nat)
    (point : Int) : StandsFor (scientificText width digits point) digits point := by
  match digits, significant with
  | [], significant => exact absurd rfl significant.filled
  | [digit], significant =>
      exact ⟨_, _, .scientific (.significant significant), fun negative => rfl⟩
  | digit :: second :: rest, significant =>
      have whole := significant.take (show 0 < 1 by decide)
      have decimals : Digits (second :: rest) :=
        (List.forall_mem_cons.mp significant.digits).2
      refine ⟨_, _, .both (.significant whole) decimals (by simp), fun negative => ?_⟩
      change Double.ofDecimal negative (rowValue (digit :: second :: rest)) _ = _
      congr 1
      simp only [List.length_cons]
      omega

/-- The text of a size is a number of the exchange format that is read as it. -/
theorem Magnitude.text_fractional (magnitude : Magnitude) :
    ∃ row power, Fractional (magnitude.text .exchange) row power ∧
      ∀ negative, Double.ofDecimal negative row power = .finite negative magnitude := by
  by_cases empty : magnitude.significand = 0
  · rw [eq_zero_of_empty magnitude empty]
    exact ⟨_, _, .positional .zero (Text.digits_zeros 1) nofun, fun _ => rfl⟩
  obtain ⟨significant, read⟩ := shortestDecimal_kept empty
  rw [text, if_neg empty]
  simp only []
  split
  · obtain ⟨row, power, spelled, stands⟩ := positionalText_standsFor significant _
    exact ⟨row, power, spelled, fun negative => (stands negative).trans (read negative)⟩
  · obtain ⟨row, power, spelled, stands⟩ := scientificText_standsFor significant _ _
    exact ⟨row, power, spelled, fun negative => (stands negative).trans (read negative)⟩

/-! ## Reading back -/

namespace Json.Reader

variable {rest : List Char}

/-- Begins with a digit or a sign in front of one. -/
def OpensNumber (text : List Char) : Prop :=
  ∃ first tail, text = first :: tail ∧ (first = '-' ∨ first.isDigit = true)

theorem Fractional.opensDigits {text : List Char} {row : Nat} {power : Int}
    (fractional : Fractional text row power) : OpensDigits text := by
  cases fractional with
  | positional leads _ _ | scientific leads | both leads _ _ =>
      obtain ⟨first, tail, rfl, digit⟩ := leads.opensDigits
      exact ⟨first, _, rfl, digit⟩

theorem opensNumber_signed {text : List Char} (opens : OpensDigits text)
    (negative : Bool) : OpensNumber (if negative then '-' :: text else text) := by
  obtain ⟨first, tail, rfl, digit⟩ := opens
  cases negative with
  | false => exact ⟨first, tail, rfl, .inr digit⟩
  | true => exact ⟨'-', _, rfl, .inl rfl⟩

/-- What begins with a digit is no name of a number, with or without a sign. -/
theorem number?_signed {text : List Char} (opens : OpensDigits text)
    (negative : Bool) (rest : List Char) :
    number? ((if negative then '-' :: text else text) ++ rest) =
      unsigned? negative (text ++ rest) := by
  obtain ⟨first, tail, rfl, digit⟩ := opens
  have other : first ≠ 'N' ∧ first ≠ 'I' ∧ first ≠ '-' := by
    refine ⟨?_, ?_, ?_⟩ <;> exact Text.ne_of_isDigit digit rfl
  cases negative with
  | true => simp [number?, other]
  | false => simp [number?, other]

theorem integerText_signed (value : Int) :
    Text.integerText value =
      if decide (value < 0) then '-' :: Text.naturalText value.natAbs
      else Text.naturalText value.natAbs := by
  simp [Text.integerText]

theorem opensNumber_integerText (value : Int) :
    OpensNumber (Text.integerText value) := by
  rw [integerText_signed]
  exact opensNumber_signed (leads_naturalText value.natAbs).opensDigits _

theorem number?_integerText {value : Int} (ends : EndsNumber rest)
    (short : (Text.naturalText value.natAbs).length ≤ digitLimit) :
    number? (Text.integerText value ++ rest) = some (.int value, rest) := by
  have leads := leads_naturalText value.natAbs
  have sign : (if decide (value < 0) then -(value.natAbs : Int)
      else value.natAbs) = value := by
    split <;> rename_i below <;> rw [decide_eq_true_eq] at below <;> omega
  rw [integerText_signed, number?_signed leads.opensDigits,
    unsigned?_integer leads ends short, Text.rowValue_naturalText, sign]

theorem opensNumber_text {value : Double} (finite : value.isFinite = true) :
    OpensNumber (value.text .exchange) := by
  cases value with
  | infinite _ | notANumber => cases finite
  | finite negative magnitude =>
      obtain ⟨row, power, spelled, -⟩ := magnitude.text_fractional
      exact opensNumber_signed spelled.opensDigits negative

theorem number?_text {value : Double} (ends : EndsNumber rest)
    (finite : value.isFinite = true) :
    number? (value.text .exchange ++ rest) = some (.float value, rest) := by
  cases value with
  | infinite _ | notANumber => cases finite
  | finite negative magnitude =>
      obtain ⟨row, power, spelled, read⟩ := magnitude.text_fractional
      rw [Double.text, number?_signed spelled.opensDigits, spelled.read ends, read]

end Json.Reader

end AdminGate

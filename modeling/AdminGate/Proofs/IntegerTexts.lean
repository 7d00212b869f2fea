import AdminGate.Number.Integer
import AdminGate.Proofs.TextForms

/-!
# Integer texts

An integer text is an optional sign and digits, between which single underscores
may stand.  Reading accepts these texts and no others, as long as they do not have
too many digits, and what an integer is written as reads back.
-/

namespace AdminGate

namespace Text

theorem toNat_of_isDigit {character : Char} (digit : character.isDigit = true) :
    48 ≤ character.toNat ∧ character.toNat < 58 := by
  simp only [Char.isDigit, Bool.and_eq_true, decide_eq_true_eq] at digit
  exact ⟨UInt32.le_iff_toNat_le.mp digit.1,
    Nat.lt_succ_of_le (UInt32.le_iff_toNat_le.mp digit.2)⟩

theorem digitValue?_of_isDigit {character : Char}
    (digit : character.isDigit = true) :
    digitValue? character = some (character.toNat - 48) := by
  obtain ⟨least, greatest⟩ := toNat_of_isDigit digit
  simp [digitValue?, digitRows, least, greatest]

def basicDigits (text : List Char) : List Nat :=
  text.map fun character => character.toNat - 48

theorem digitsValue_basicDigits (start : Nat) (text : List Char) :
    digitsValue start (basicDigits text) = Nat.ofDigitChars 10 text start := by
  rw [digitsValue, basicDigits, List.foldl_map]
  rfl

theorem digitsValue_naturalText (value : Nat) :
    digitsValue 0 (basicDigits (naturalText value)) = value := by
  rw [digitsValue_basicDigits, naturalText,
    Nat.ofDigitChars_toDigits (by decide) (by decide)]

end Text

variable {text : List Char} {digits : List Nat} {value : Int}

/-- Digits of any script with their values; one underscore may stand between two of
them. -/
inductive Grouped : List Char → List Nat → Prop where
  | last {character : Char} {digit : Nat} :
      Text.digitValue? character = some digit → Grouped [character] [digit]
  | next {character : Char} {digit : Nat} {text : List Char} {digits : List Nat} :
      Text.digitValue? character = some digit → Grouped text digits →
      Grouped (character :: text) (digit :: digits)
  | spaced {character : Char} {digit : Nat} {text : List Char} {digits : List Nat} :
      Text.digitValue? character = some digit → Grouped text digits →
      Grouped (character :: '_' :: text) (digit :: digits)

/-- Texts of integers with their digits and the integer. -/
inductive IntegerText : List Char → List Nat → Int → Prop where
  | unsigned {text : List Char} {digits : List Nat} : Grouped text digits →
      IntegerText text digits (Text.digitsValue 0 digits)
  | plus {text : List Char} {digits : List Nat} : Grouped text digits →
      IntegerText ('+' :: text) digits (Text.digitsValue 0 digits)
  | minus {text : List Char} {digits : List Nat} : Grouped text digits →
      IntegerText ('-' :: text) digits (-(Text.digitsValue 0 digits : Int))

theorem Grouped.head?_ne (grouped : Grouped text digits) (mark : Char)
    (other : Text.digitValue? mark = none) : text.head? ≠ some mark := by
  cases grouped with
  | last digit | next digit _ | spaced digit _ =>
      rintro same
      cases same
      rw [other] at digit
      cases digit

theorem Grouped.of_read (read : groupedDigits? text = some digits) :
    Grouped text digits := by
  fun_induction groupedDigits? text generalizing digits with
  | case1 => cases read
  | case2 last =>
      obtain ⟨digit, found, rfl⟩ := Option.map_eq_some_iff.mp read
      exact .last found
  | case3 first rest ih =>
      obtain ⟨digit, found, later⟩ := Option.bind_eq_some_iff.mp read
      obtain ⟨digits, more, whole⟩ := Option.bind_eq_some_iff.mp later
      cases whole
      exact .spaced found (ih more)
  | case4 first rest _ _ ih =>
      obtain ⟨digit, found, later⟩ := Option.bind_eq_some_iff.mp read
      obtain ⟨digits, more, whole⟩ := Option.bind_eq_some_iff.mp later
      cases whole
      exact .next found (ih more)

theorem Grouped.read (grouped : Grouped text digits) :
    groupedDigits? text = some digits := by
  induction grouped with
  | last digit => simp [groupedDigits?, digit]
  | spaced digit _ ih => simp [groupedDigits?, digit, ih]
  | @next character value text digits digit grouped ih =>
      -- The text goes on with a digit, so no underscore is skipped.
      have undivided := grouped.head?_ne '_' (by decide)
      cases text with
      | nil => cases grouped
      | cons second rest =>
          have other : second ≠ '_' := by simpa using undivided
          rw [groupedDigits?]
          · simp [digit, ih]
          · simp
          · simpa using other

theorem groupedDigits?_eq_some_iff :
    groupedDigits? text = some digits ↔ Grouped text digits :=
  ⟨.of_read, Grouped.read⟩

theorem natural?_eq_some_iff {value : Nat} :
    natural? text = some value ↔ ∃ digits, Grouped text digits ∧
      digits.length ≤ digitLimit ∧ Text.digitsValue 0 digits = value := by
  simp only [natural?, Option.bind_eq_bind, Option.bind_eq_some_iff,
    groupedDigits?_eq_some_iff, Option.ite_none_right_eq_some, Option.some.injEq]

theorem integer?_eq_some_iff :
    integer? text = some value ↔ ∃ digits,
      IntegerText (Text.trim text) digits value ∧ digits.length ≤ digitLimit := by
  unfold integer?
  constructor
  · intro read
    split at read
    · rename_i signed
      obtain ⟨_, found, rfl⟩ := Option.map_eq_some_iff.mp read
      obtain ⟨size, counted, whole⟩ := Option.bind_eq_some_iff.mp found
      cases whole
      obtain ⟨digits, grouped, short, rfl⟩ := natural?_eq_some_iff.mp counted
      exact ⟨digits, signed ▸ .minus grouped, short⟩
    · rename_i signed
      obtain ⟨size, found, rfl⟩ := Option.map_eq_some_iff.mp read
      obtain ⟨digits, grouped, short, rfl⟩ := natural?_eq_some_iff.mp found
      exact ⟨digits, signed ▸ .plus grouped, short⟩
    · obtain ⟨size, found, rfl⟩ := Option.map_eq_some_iff.mp read
      obtain ⟨digits, grouped, short, rfl⟩ := natural?_eq_some_iff.mp found
      exact ⟨digits, .unsigned grouped, short⟩
  · rintro ⟨digits, spelled, short⟩
    generalize Text.trim text = trimmed at spelled
    cases spelled with
    | minus grouped =>
        simp [natural?_eq_some_iff.mpr ⟨digits, grouped, short, rfl⟩]
    | plus grouped =>
        simp [natural?_eq_some_iff.mpr ⟨digits, grouped, short, rfl⟩]
    | unsigned grouped =>
        have positive := grouped.head?_ne '-' (by decide)
        have plain := grouped.head?_ne '+' (by decide)
        split
        · simp at positive
        · simp at plain
        · simp [natural?_eq_some_iff.mpr ⟨digits, grouped, short, rfl⟩]

/-! ## Written integers -/

theorem grouped_of_isDigit (filled : text ≠ [])
    (basic : ∀ character ∈ text, character.isDigit = true) :
    Grouped text (Text.basicDigits text) := by
  induction text with
  | nil => exact absurd rfl filled
  | cons first rest ih =>
      obtain ⟨here, later⟩ := List.forall_mem_cons.mp basic
      have digit := Text.digitValue?_of_isDigit here
      cases rest with
      | nil => exact .last digit
      | cons second rest => exact .next digit (ih (by simp) later)

theorem grouped_naturalText (value : Nat) :
    Grouped (Text.naturalText value) (Text.basicDigits (Text.naturalText value)) :=
  grouped_of_isDigit Nat.toDigits_ne_nil fun _ => Text.isDigit_of_mem_naturalText

theorem integerText_integerText (value : Int) :
    IntegerText (Text.integerText value)
      (Text.basicDigits (Text.naturalText value.natAbs)) value := by
  have grouped := grouped_naturalText value.natAbs
  have counted := Text.digitsValue_naturalText value.natAbs
  unfold Text.integerText
  split
  · have signed := IntegerText.minus grouped
    rwa [counted, show -(value.natAbs : Int) = value by omega] at signed
  · have plain := IntegerText.unsigned grouped
    rwa [counted, show (value.natAbs : Int) = value by omega] at plain

/-- What an integer is written as reads back, unless it has too many digits. -/
theorem integer?_integerText
    (short : (Text.naturalText value.natAbs).length ≤ digitLimit) :
    integer? (Text.integerText value) = some value := by
  have spelled := integerText_integerText value
  rw [← Text.trim_of_numeral (Text.numeral_integerText value)] at spelled
  exact integer?_eq_some_iff.mpr
    ⟨_, spelled, by simpa [Text.basicDigits] using short⟩

end AdminGate

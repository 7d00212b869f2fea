import AdminGate.Lenient
import AdminGate.Proofs.Trimming
import AdminGate.Text.Ascii

/-!
# Text forms

What the text form of a value looks like that is no text itself.  A number is
written with few characters and a fraction never with digits alone, an array or
an object begins with a bracket.  So of all values that are no texts only the
number one reads like a word that switches something on.
-/

namespace AdminGate

namespace Text

/-! ## Numbers -/

/-- Whether numbers are written with a character. -/
def isNumeral (character : Char) : Bool :=
  character.isDigit || ".-+einfa".toList.contains character

/-- A text of characters that numbers are written with. -/
def Numeral (text : List Char) : Prop :=
  ∀ character ∈ text, isNumeral character = true

instance : DecidablePred Numeral := fun text =>
  decidable_of_iff (text.all isNumeral) List.all_eq_true

theorem isNumeral_of_isDigit {character : Char}
    (digit : character.isDigit = true) : isNumeral character = true := by
  simp [isNumeral, digit]

theorem isNumeral_plain {character : Char}
    (numeral : isNumeral character = true) :
    character.toNat < 128 ∧ isBlank character = false ∧
      character.toLower = character := by
  have ascii : character.toNat < 128 := by
    rcases (Bool.or_eq_true _ _).mp numeral with digit | sign
    · simp only [Char.isDigit, Bool.and_eq_true, decide_eq_true_eq] at digit
      exact Nat.lt_of_le_of_lt (UInt32.le_iff_toNat_le.mp digit.2) (by decide)
    · have small : ".-+einfa".toList.all isAscii = true := by decide
      have ascii := List.all_eq_true.mp small character
        (List.contains_iff_mem.mp sign)
      simpa [isAscii] using ascii
  refine ⟨ascii, ?_⟩
  revert numeral
  exact forall_ascii ascii (by decide)

theorem trim_of_numeral {text : List Char} (numeral : Numeral text) :
    trim text = text :=
  trim_of_inked fun character member =>
    (isNumeral_plain (numeral character member)).2.1

theorem lower_of_numeral {text : List Char} (numeral : Numeral text) :
    lower text = text := by
  have small : ∀ character ∈ text, character.toLower = id character :=
    fun character member => (isNumeral_plain (numeral character member)).2.2
  rw [lower_of_ascii fun character member =>
    (isNumeral_plain (numeral character member)).1,
    List.map_congr_left small, List.map_id]

theorem isDigit_of_mem_naturalText {value : Nat} {character : Char}
    (member : character ∈ naturalText value) : character.isDigit = true :=
  Nat.isDigit_of_mem_toDigits (by decide) (by decide) member

theorem numeral_naturalText (value : Nat) : Numeral (naturalText value) :=
  fun _ member => isNumeral_of_isDigit (isDigit_of_mem_naturalText member)

theorem numeral_integerText (value : Int) : Numeral (integerText value) := by
  unfold integerText
  split
  · exact List.forall_mem_cons.mpr ⟨by decide, numeral_naturalText _⟩
  · exact numeral_naturalText _

theorem integerText_eq_one_iff (value : Int) :
    integerText value = ['1'] ↔ value = 1 := by
  constructor
  · intro written
    unfold integerText at written
    split at written
    · cases written
    · have read : value.natAbs = Nat.ofDigitChars 10 ['1'] 0 := by
        rw [← written, naturalText, Nat.ofDigitChars_toDigits (by decide) (by decide)]
      have one : value.natAbs = 1 := read
      omega
  · rintro rfl
    decide

theorem Numeral.append {first second : List Char} (front : Numeral first)
    (back : Numeral second) : Numeral (first ++ second) :=
  List.forall_mem_append.mpr ⟨front, back⟩

theorem Numeral.cons {first : Char} {rest : List Char}
    (front : isNumeral first = true) (back : Numeral rest) :
    Numeral (first :: rest) :=
  List.forall_mem_cons.mpr ⟨front, back⟩

theorem Numeral.sublist {part text : List Char} (numeral : Numeral text)
    (sublist : part.Sublist text) : Numeral part :=
  fun character member => numeral character (sublist.subset member)

theorem numeral_zeros (count : Nat) : Numeral (List.replicate count '0') := by
  intro character member
  rw [List.eq_of_mem_replicate member]
  decide

end Text

open Text (Numeral)

variable {digits : List Char}

theorem numeral_exponentText (width : Nat) (exponent : Int) :
    Numeral (exponentText width exponent) := by
  have digits : Numeral (paddedNatural width exponent.natAbs) :=
    (Text.numeral_zeros _).append (Text.numeral_naturalText _)
  refine .cons (by decide) (.cons ?_ digits)
  split <;> decide

theorem withoutTrailingZeros_ne_nil (digits : List Char) :
    withoutTrailingZeros digits ≠ [] := by
  unfold withoutTrailingZeros
  split
  · simp
  · rename_i kept
    exact kept

theorem numeral_withoutTrailingZeros (numeral : Numeral digits) :
    Numeral (withoutTrailingZeros digits) := by
  unfold withoutTrailingZeros
  split
  · exact .cons (by decide) nofun
  · refine numeral.sublist ?_
    rw [← List.reverse_sublist, List.reverse_reverse]
    exact List.dropWhile_sublist _

theorem numeral_positionalText (numeral : Numeral digits) (point : Int) :
    Numeral (positionalText digits point) := by
  unfold positionalText
  split
  · exact .cons (by decide) (.cons (by decide)
      ((Text.numeral_zeros _).append numeral))
  · simp only []
    split
    · exact (numeral.append (Text.numeral_zeros _)).append
        (.cons (by decide) (.cons (by decide) nofun))
    · exact (numeral.sublist (List.take_sublist _ _)).append
        (.cons (by decide) (numeral.sublist (List.drop_sublist _ _)))

theorem numeral_scientificText (numeral : Numeral digits) (width : Nat)
    (point : Int) : Numeral (scientificText width digits point) := by
  have exponent := numeral_exponentText width (point - 1)
  unfold scientificText
  split
  · exact nofun
  · exact numeral.append exponent
  · obtain ⟨first, rest⟩ := List.forall_mem_cons.mp numeral
    exact .cons first (.cons (by decide) (Numeral.append rest exponent))

theorem point_mem_positionalText (digits : List Char) (point : Int) :
    '.' ∈ positionalText digits point := by
  unfold positionalText
  split
  · simp
  · simp only []
    split <;> simp

theorem exponent_mem_scientificText (filled : digits ≠ []) (width : Nat)
    (point : Int) : 'e' ∈ scientificText width digits point := by
  unfold scientificText exponentText
  split
  · exact absurd rfl filled
  · simp
  · simp

theorem Magnitude.numeral_text (style : NumberStyle) (magnitude : Magnitude) :
    Numeral (magnitude.text style) := by
  have digits : Numeral (withoutTrailingZeros
      (Text.naturalText magnitude.shortestDecimal.digits)) :=
    numeral_withoutTrailingZeros (Text.numeral_naturalText _)
  unfold text
  split
  · decide
  · simp only []
    split
    · exact numeral_positionalText digits _
    · exact numeral_scientificText digits _ _

theorem Magnitude.exists_not_isDigit (style : NumberStyle)
    (magnitude : Magnitude) :
    ∃ character ∈ magnitude.text style, character.isDigit = false := by
  unfold text
  split
  · exact ⟨'.', by decide⟩
  · simp only []
    split
    · exact ⟨'.', point_mem_positionalText _ _, by decide⟩
    · exact ⟨'e', exponent_mem_scientificText
        (withoutTrailingZeros_ne_nil _) _ _, by decide⟩

theorem Double.numeral_text (value : Double) :
    Numeral (value.text .display) := by
  unfold text
  split
  · split
    · exact .cons (by decide) (Magnitude.numeral_text _ _)
    · exact Magnitude.numeral_text _ _
  · split <;> decide
  · decide

theorem Double.exists_not_isDigit (value : Double) :
    ∃ character ∈ value.text .display, character.isDigit = false := by
  unfold text
  split
  · split
    · exact ⟨'-', by simp, by decide⟩
    · exact Magnitude.exists_not_isDigit _ _
  · split
    · exact ⟨'-', by decide⟩
    · exact ⟨'i', by decide⟩
  · exact ⟨'n', by decide⟩

/-! ## Values that are no texts -/

namespace Lenient

theorem isOn_iff (text : String) :
    isOn text.toList = true ↔
      Text.lowercased (Text.trimmed text) ∈ onWords := by
  rw [isOn, List.contains_iff_mem, Text.lowercased, Text.trimmed,
    String.toList_ofList]

theorem isOn_trim (text : List Char) : isOn (Text.trim text) = isOn text := by
  rw [isOn, isOn, Text.trim_trim]

theorem isOn_of_numeral {text : List Char} (numeral : Numeral text) :
    isOn text = true ↔ text = ['1'] := by
  have words : ∀ word ∈ onWords,
      word.toList = ['1'] ∨ ¬Numeral word.toList := by
    decide
  rw [isOn, Text.trim_of_numeral numeral, Text.lower_of_numeral numeral,
    List.contains_iff_mem]
  constructor
  · intro word
    rcases words _ word with one | strange
    · simpa using one
    · rw [String.toList_ofList] at strange
      exact absurd numeral strange
  · rintro rfl
    decide

theorem isOn_integerText (number : Int) :
    isOn (Text.integerText number) = true ↔ number = 1 :=
  (isOn_of_numeral (Text.numeral_integerText number)).trans
    (Text.integerText_eq_one_iff number)

theorem isOn_double (number : Double) :
    isOn (number.text .display) = false := by
  refine Bool.eq_false_iff.mpr fun on => ?_
  have one := (isOn_of_numeral number.numeral_text).mp on
  obtain ⟨character, member, other⟩ := number.exists_not_isDigit
  rw [one] at member
  rw [List.mem_singleton.mp member] at other
  cases other

theorem isOn_of_bracket {first : Char} (bracket : first ∈ ['[', '{'])
    (rest : List Char) : isOn (first :: rest) = false := by
  have shape : Text.isBlank first = false ∧ first.toNat < 128 ∧
      ∀ word ∈ onWords, word.toList.head? ≠ some first.toLower := by
    rcases List.mem_pair.mp bracket with rfl | rfl <;> decide
  obtain ⟨inked, ascii, words⟩ := shape
  obtain ⟨kept, trimmed⟩ := Text.trim_cons inked rest
  obtain ⟨more, lowered⟩ : [first.toLower] <+: Text.lower (first :: kept) :=
    Text.lower_ascii_prefix (by simpa using ascii) (List.prefix_append [first] kept)
  refine Bool.eq_false_iff.mpr fun on => ?_
  rw [isOn, trimmed, ← lowered, List.contains_iff_mem] at on
  exact words _ on (by simp)

end Lenient

namespace Json

theorem cleaned_text (text : String) :
    (Json.text text).cleaned = Text.trimmed text := by
  cases empty : text.isEmpty with
  | true =>
      rw [String.isEmpty_iff.mp empty]
      decide
  | false =>
      simp only [cleaned, isTruthy, empty, Bool.not_false, if_true]
      rfl

theorem trimmed_cleaned (value : Json) :
    Text.trimmed value.cleaned = value.cleaned := by
  unfold cleaned
  split
  · rw [Text.trimmed, String.toList_ofList, Text.trim_trim]
  · decide

theorem cleaned_of_falsy {value : Json} (falsy : value.isTruthy = false) :
    value.cleaned = "" := by
  simp [cleaned, falsy]

/-- The text form of a value that is no text: a constant, a number, or something
in brackets. -/
theorem display_shape (value : Json) :
    (∃ text, value = .text text) ∨
      value.display ∈ ["None", "True", "False"].map String.toList ∨
      Numeral value.display ∨
      ∃ first ∈ ['[', '{'], ∃ rest, value.display = first :: rest := by
  cases value with
  | text text => exact .inl ⟨text, rfl⟩
  | null => exact .inr (.inl (by decide))
  | bool flag => cases flag <;> exact .inr (.inl (by decide))
  | int number => exact .inr (.inr (.inl (Text.numeral_integerText number)))
  | float number => exact .inr (.inr (.inl number.numeral_text))
  | array items => exact .inr (.inr (.inr ⟨'[', by decide, _, rfl⟩))
  | object fields => exact .inr (.inr (.inr ⟨'{', by decide, _, rfl⟩))

/-- A word that begins with a small letter and has a colon further on is the
cleaned form of a text only. -/
theorem exists_text_of_cleaned {value : Json}
    (letter : value.cleaned.toList.head?.any Char.isLower = true)
    (colon : ':' ∈ value.cleaned.toList) : ∃ text, value = .text text := by
  have truthy : value.isTruthy = true := by
    by_contra falsy
    simp [cleaned, falsy] at colon
  have form : value.cleaned.toList = Text.trim value.display := by
    rw [cleaned, if_pos truthy, String.toList_ofList]
  rw [form] at letter colon
  rcases display_shape value with
    text | constant | numeral | ⟨bracket, member, inside, display⟩
  · exact text
  · have plain : ∀ word ∈ ["None", "True", "False"].map String.toList,
        ':' ∉ Text.trim word := by
      decide
    exact absurd colon (plain _ constant)
  · rw [Text.trim_of_numeral numeral] at colon
    cases numeral ':' colon
  · obtain ⟨inked, other⟩ :
        Text.isBlank bracket = false ∧ bracket.isLower = false := by
      rcases List.mem_pair.mp member with rfl | rfl <;> decide
    obtain ⟨kept, begins⟩ := Text.trim_cons inked inside
    simp [display, begins, other] at letter

end Json

end AdminGate

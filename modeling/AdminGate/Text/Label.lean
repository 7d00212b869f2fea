import AdminGate.Text.Composition
import AdminGate.Text.Quoted

/-!
# Labels of host names

A label may hold the letters, digits and marks of any script.  Some characters are admitted between
certain neighbours only, and a label with letters from right to left may not mix directions.
-/

namespace AdminGate.Text

/-- How a character takes part in the direction of its line. -/
inductive Direction where
  | left
  | right
  | arabic
  | arabicNumber
  | number
  | hyphen
  | neutral
  | joiner
  | mark
deriving DecidableEq, Repr

/-- The characters that keep letters apart or together without being seen. -/
def nonJoiner : Char := Char.ofNat 0x200C

@[inherit_doc nonJoiner]
def joiner : Char := Char.ofNat 0x200D

/-- The direction of a character of labels. -/
def direction? (character : Char) : Option Direction :=
  if isWithin leftLetters character then some .left
  else if isWithin numbers character then some .number
  else if character == '-' then some .hyphen
  else if (markOrder? nonspacingMarks character).isSome then some .mark
  else if (markOrder? spacingMarks character).isSome then some .left
  else if isWithin rightLetters character then some .right
  else if isWithin arabicLetters character then some .arabic
  else if isWithin arabicNumbers character then some .arabicNumber
  else if isWithin neutralSigns character then some .neutral
  else if character == nonJoiner || character == joiner then some .joiner
  else none

def isMark (character : Char) : Bool :=
  (markOrder? (nonspacingMarks ++ spacingMarks ++ otherMarks) character).isSome

/-- Whether the joining of letters passes over a character. -/
def isTransparent (character : Char) : Bool :=
  isWithin otherTransparent character ||
    ((markOrder? nonspacingMarks character).isSome && !isWithin breakingMarks character)

/-- Whether the first character that joining does not pass over lies in one of the spans. -/
def meetsJoining (spans : List Span) (text : List Char) : Bool :=
  match text.dropWhile isTransparent with
  | [] => false
  | character :: _ => isWithin spans character

/-- Whether a text, read backwards, starts with the mark that silences a vowel. -/
def followsSilencer (before : List Char) : Bool :=
  before.head?.any fun character => combiningOrder character == 9

private def arabicDigits : Span := ⟨0x660, 0x669, 1⟩

private def easternDigits : Span := ⟨0x6F0, 0x6F9, 1⟩

/-- Whether a character may stand between the characters `before`, nearest first, and `after`. -/
def fitsBetween (before : List Char) (character : Char) (after : List Char) : Bool :=
  if character == nonJoiner then
    followsSilencer before ||
      (meetsJoining (leftJoining ++ dualJoining) before &&
        meetsJoining (rightJoining ++ dualJoining) after)
  else if character == joiner then followsSilencer before
  else if character == '·' then before.head? == some 'l' && after.head? == some 'l'
  else if character == '͵' then after.head?.any (isWithin greekLetters)
  else if character == '׳' || character == '״' then before.head?.any (isWithin hebrewLetters)
  else if character == '・' then
    (before ++ after).any (isWithin (hiraganaLetters ++ katakanaLetters ++ hanLetters))
  else if arabicDigits.covers character.toNat then !(before ++ after).any (isWithin [easternDigits])
  else if easternDigits.covers character.toNat then !(before ++ after).any (isWithin [arabicDigits])
  else true

/-- Why a text is no label.  Positions count from one. -/
inductive LabelFault where
  | empty
  | tooLong
  | notComposed
  | innerHyphens
  | outerHyphen
  | leadingMark
  | notAdmitted (position : Nat)
  | misplaced (position : Nat)
  | looseJoiner (position : Nat)
  | unknownDirection (position : Nat)
  | noDirectionFirst
  | leftInRight (position : Nat)
  | mixedNumbers
  | rightInLeft (position : Nat)
  | openEnd
deriving DecidableEq, Repr

/-- A code point by its number in four capital hexadecimal digits or more. -/
def codeName (code : Nat) : String :=
  let digits := (Nat.toDigits 16 code).map Char.toUpper
  String.ofList ("U+".toList ++ List.replicate (4 - digits.length) '0' ++ digits)

/-- The wording of a fault in a label with the given code points. -/
def LabelFault.message (codes : List Nat) (fault : LabelFault) : String :=
  let label := String.ofList (quoteCodes codes)
  let code (position : Nat) : String := codeName (codes.getD (position - 1) 0)
  match fault with
  | empty => "Empty Label"
  | tooLong => "Label too long"
  | notComposed => "Label must be in Normalization Form C"
  | innerHyphens => "Label has disallowed hyphens in 3rd and 4th position"
  | outerHyphen => "Label must not start or end with a hyphen"
  | leadingMark => "Label begins with an illegal combining character"
  | notAdmitted position =>
      "Codepoint " ++ code position ++ " at position " ++ toString position ++ " of " ++ label ++
        " not allowed"
  | misplaced position =>
      "Codepoint " ++ code position ++ " not allowed at position " ++ toString position ++ " in " ++
        label
  | looseJoiner position =>
      "Unknown codepoint adjacent to joiner " ++ code position ++ " at position " ++
        toString position ++ " in " ++ label
  | unknownDirection position =>
      "Unknown directionality in label " ++ label ++ " at position " ++ toString position
  | noDirectionFirst =>
      "First codepoint in label " ++ label ++ " must be directionality L, R or AL"
  | leftInRight position =>
      "Invalid direction for codepoint at position " ++ toString position ++
        " in a right-to-left label"
  | mixedNumbers => "Can not mix numeral types in a right-to-left label"
  | rightInLeft position =>
      "Invalid direction for codepoint at position " ++ toString position ++
        " in a left-to-right label"
  | openEnd => "Label ends with illegal codepoint directionality"

/-- Whether a character may stand in a label between some neighbours. -/
def isAdmitted (character : Char) : Bool :=
  (direction? character).isSome || isWithin laterCharacters character

/-- The first character of a text that may not stand where it stands, at `position` after the
characters `before`, nearest first. -/
def placeFault? (position : Nat) (before : List Char) : List Char → Option LabelFault
  | [] => none
  | character :: after =>
      if !isAdmitted character then some (.notAdmitted position)
      else if fitsBetween before character after then
        placeFault? (position + 1) (character :: before) after
      else if character == nonJoiner || character == joiner then some (.looseJoiner position)
      else some (.misplaced position)

/-- Whether a direction makes a line run from right to left. -/
def Direction.isRightward : Direction → Bool
  | right | arabic | arabicNumber => true
  | _ => false

/-- The first part of a line from right to left that does not fit into it: one from left to right,
or a digit of another kind than the digits before it. -/
def rightFault? (position : Nat) (numbers : Option Direction) : List Direction → Option LabelFault
  | [] => none
  | .left :: _ => some (.leftInRight position)
  | direction :: rest =>
      if direction == .number || direction == .arabicNumber then
        if numbers.any (· != direction) then some .mixedNumbers
        else rightFault? (position + 1) (some direction) rest
      else rightFault? (position + 1) numbers rest

/-- Whether a line from right to left ends, marks apart, with a letter or a digit. -/
def endsClosed (directions : List Direction) : Bool :=
  (directions.reverse.dropWhile (· == .mark)).head?.any fun direction =>
    direction.isRightward || direction == .number

/-- What is wrong with a sequence of directions.  Nothing is asked of one without right-to-left
parts; the others must be a line from right to left. -/
def directionFault? (directions : List Direction) : Option LabelFault :=
  match directions.findIdx? Direction.isRightward, directions.head? with
  | none, _ => none
  | some _, some .right | some _, some .arabic =>
      match rightFault? 1 none directions with
      | some fault => some fault
      | none => if endsClosed directions then none else some .openEnd
  | some index, some .left => some (.rightInLeft (index + 1))
  | some _, _ => some .noDirectionFirst

/-- What is wrong with the hyphens of a text: two in its third and fourth place, or one at an
end. -/
def hyphenFault? (text : List Char) : Option LabelFault :=
  if (text.drop 2).take 2 == ['-', '-'] then some .innerHyphens
  else if text.head? == some '-' || text.getLast? == some '-' then some .outerHyphen
  else none

/-- Why a text is no label, if it is none. -/
def labelFault? (text : List Char) : Option LabelFault :=
  if text.isEmpty then some .empty
  else if 254 < text.length then some .tooLong
  else if !isComposed text then some .notComposed
  else
    match hyphenFault? text with
    | some fault => some fault
    | none =>
        if text.head?.any isMark then some .leadingMark
        else
          match placeFault? 1 [] text, text.findIdx? fun character =>
              (direction? character).isNone with
          | some fault, _ => some fault
          | none, some index => some (.unknownDirection (index + 1))
          | none, none => directionFault? (text.filterMap direction?)

end AdminGate.Text

import AdminGate.Text.CompositionTable

/-!
# Composed texts

A letter with marks can be written in several ways.  A text is composed when it is written in the
shortest one: no letter stands apart from a mark that it has a common character with, and marks
that follow each other are in combining order.
-/

namespace AdminGate.Text

/-- Whether a span holds a code point. -/
def Span.covers (span : Span) (code : Nat) : Bool :=
  span.first ≤ code && code ≤ span.last && (code - span.first) % span.stride == 0

/-- Whether a character lies in one of the spans. -/
def isWithin (spans : List Span) (character : Char) : Bool :=
  spans.any (·.covers character.toNat)

/-- The combining order of a mark, if one of the spans holds it. -/
def markOrder? (spans : List MarkSpan) (character : Char) : Option Nat :=
  (spans.find? (·.span.covers character.toNat)).map (·.order)

/-- The combining order of a character: 0 for all but marks. -/
def combiningOrder (character : Char) : Nat :=
  (markOrder? (nonspacingMarks ++ spacingMarks ++ otherMarks) character).getD 0

/-- A letter and all marks on it; a composed character holds three marks at most. -/
def decomposed (character : Char) : List Char :=
  separate 4 character
where
  separate : Nat → Char → List Char
    | 0, character => [character]
    | depth + 1, character =>
        match compositions.lookup character.toNat with
        | some (letter, mark) => separate depth (Char.ofNat letter) ++ [Char.ofNat mark]
        | none => [character]

/-- Put a character in front of a text, behind the marks that come before it. -/
def insertMark (character : Char) : List Char → List Char
  | [] => [character]
  | first :: rest =>
      if combiningOrder first != 0 && combiningOrder first < combiningOrder character then
        first :: insertMark character rest
      else character :: first :: rest

/-- The Korean syllable for a consonant and a vowel, or for a syllable that ends in a vowel and a
consonant. -/
def syllable? (first second : Nat) : Option Nat :=
  if 0x1100 ≤ first ∧ first ≤ 0x1112 ∧ 0x1161 ≤ second ∧ second ≤ 0x1175 then
    some (0xAC00 + ((first - 0x1100) * 21 + (second - 0x1161)) * 28)
  else if 0xAC00 ≤ first ∧ first ≤ 0xD7A3 ∧ (first - 0xAC00) % 28 = 0 ∧
      0x11A8 ≤ second ∧ second ≤ 0x11C2 then
    some (first + (second - 0x11A7))
  else none

/-- The one character for a letter and a mark. -/
def composition? (letter mark : Char) : Option Char :=
  match syllable? letter.toNat mark.toNat with
  | some code => some (Char.ofNat code)
  | none => (compositions.find? (·.2 == (letter.toNat, mark.toNat))).map (Char.ofNat ·.1)

/-- Join a letter with the marks after it; `passed` are the marks that it is not joined with, and
each of them keeps marks of its own order apart. -/
def composeFrom (letter : Char) (passed : List Char) : List Char → List Char
  | [] => letter :: passed
  | next :: rest =>
      let isFree : Bool := match passed.getLast? with
        | some mark => combiningOrder mark < combiningOrder next
        | none => true
      match if isFree then composition? letter next else none with
      | some joined => composeFrom joined passed rest
      | none =>
          if combiningOrder next = 0 then letter :: passed ++ composeFrom next [] rest
          else composeFrom letter (passed ++ [next]) rest

/-- A text in its shortest way of writing. -/
def composed (text : List Char) : List Char :=
  match (text.flatMap decomposed).foldr insertMark [] with
  | [] => []
  | first :: rest => composeFrom first [] rest

/-- Whether a text is written in its shortest way. -/
def isComposed (text : List Char) : Bool :=
  !text.any (isWithin neverComposed) && composed text == text

end AdminGate.Text

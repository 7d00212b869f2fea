/-!
# White space and trimming

`isBlank` is the Unicode white space set.  `trim` removes it from both ends of a text, so
that the text is `Trimmed`.
-/

namespace AdminGate.Text

/-- Unicode white space, the four information separators included. -/
def isBlank (character : Char) : Bool :=
  let code := character.toNat
  (9 ≤ code && code ≤ 13) || (28 ≤ code && code ≤ 32) || code == 0x85 || code == 0xA0 ||
    code == 0x1680 || (0x2000 ≤ code && code ≤ 0x200A) || code == 0x2028 || code == 0x2029 ||
    code == 0x202F || code == 0x205F || code == 0x3000

def trimStart (text : List Char) : List Char :=
  text.dropWhile isBlank

def trimEnd (text : List Char) : List Char :=
  (text.reverse.dropWhile isBlank).reverse

def trim (text : List Char) : List Char :=
  trimEnd (trimStart text)

def trimmed (text : String) : String :=
  String.ofList (trim text.toList)

/-- A text without a blank at either end; the empty text is one. -/
def Trimmed (text : List Char) : Prop :=
  (∀ first ∈ text.head?, isBlank first = false) ∧ (∀ last ∈ text.getLast?, isBlank last = false)

end AdminGate.Text

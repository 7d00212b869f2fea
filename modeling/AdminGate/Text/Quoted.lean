import AdminGate.Text.Digit
import AdminGate.Text.PrintableTable

/-!
# Quoted texts

The quoted form of a text: between single quotes, or between double quotes when the text holds
a single quote and no double one.  The quote in use and the backslash are escaped, and so is
every character without a printed form.
-/

namespace AdminGate.Text

/-- Whether a character has a printed form of its own. -/
def isPrintable (character : Char) : Bool :=
  let code := character.toNat
  if code < 127 then 32 ≤ code
  else !unprintableRanges.any fun (first, last) => first ≤ code && code ≤ last

/-- The escape that spells out a code point with two, four or eight hexadecimal digits. -/
def codeEscape (code : Nat) : List Char :=
  if code < 0x100 then '\\' :: 'x' :: hexDigits 2 code
  else if code < 0x10000 then '\\' :: 'u' :: hexDigits 4 code
  else '\\' :: 'U' :: hexDigits 8 code

/-- One character inside a text quoted with `quote`. -/
def quotedForm (quote character : Char) : List Char :=
  if character == quote || character == '\\' then ['\\', character]
  else if character == '\t' then ['\\', 't']
  else if character == '\n' then ['\\', 'n']
  else if character == '\r' then ['\\', 'r']
  else if isPrintable character then [character]
  else codeEscape character.toNat

/-- The quote that needs fewer escapes. -/
def quoteFor (text : List Char) : Char :=
  if text.contains '\'' && !text.contains '"' then '"' else '\''

def quote (text : List Char) : List Char :=
  let mark := quoteFor text
  mark :: (text.flatMap (quotedForm mark) ++ [mark])

/-- `quote` on code points, a surrogate having no character. -/
def quoteCodes (codes : List Nat) : List Char :=
  let mark := quoteFor (codes.map Char.ofNat)
  mark :: (codes.flatMap fun code =>
    if code.isValidChar then quotedForm mark (Char.ofNat code) else codeEscape code) ++ [mark]

def quoted (text : String) : String :=
  String.ofList (quote text.toList)

end AdminGate.Text

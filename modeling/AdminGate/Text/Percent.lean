import AdminGate.Text.Digit
import AdminGate.Text.Encoding

/-!
# Percent-encoding

A character outside the safe set is written as its UTF-8 bytes, each a percent sign and two
hexadecimal digits.  `encodeKeeping` leaves escapes that are there already as they are.
-/

namespace AdminGate.Text

def isBasicAlphanumeric (character : Char) : Bool :=
  character.isAlpha || character.isDigit

/-- The characters that no component of an address needs to escape. -/
def isUnreserved (character : Char) : Bool :=
  isBasicAlphanumeric character || character == '-' || character == '.' || character == '_' ||
    character == '~'

/-- A number below sixteen as a capital hexadecimal digit. -/
def capitalHexDigit (value : Nat) : Char :=
  Char.ofNat (if value < 10 then 48 + value else 55 + value)

def escapedByte (byte : UInt8) : List Char :=
  ['%', capitalHexDigit (byte.toNat / 16), capitalHexDigit (byte.toNat % 16)]

def escaped (character : Char) : List Char :=
  (utf8Form character).flatMap escapedByte

/-- Escape every character that is not safe. -/
def encodeUnless (isSafe : Char → Bool) (text : List Char) : List Char :=
  text.flatMap fun character => if isSafe character then [character] else escaped character

/-- Escape every character that is not safe, but no part of an escape. -/
def encodeKeeping (isSafe : Char → Bool) : List Char → List Char
  | [] => []
  | '%' :: high :: low :: rest =>
      if (hexDigit? high).isSome && (hexDigit? low).isSome then
        '%' :: high :: low :: encodeKeeping isSafe rest
      else
        (if isSafe '%' then ['%'] else escaped '%') ++ encodeKeeping isSafe (high :: low :: rest)
  | character :: rest =>
      (if isSafe character then [character] else escaped character) ++ encodeKeeping isSafe rest

/-- Escapes with capital digits, all else unchanged. -/
def capitalEscapes : List Char → List Char
  | [] => []
  | '%' :: high :: low :: rest =>
      if (hexDigit? high).isSome && (hexDigit? low).isSome then
        '%' :: high.toUpper :: low.toUpper :: capitalEscapes rest
      else '%' :: capitalEscapes (high :: low :: rest)
  | character :: rest => character :: capitalEscapes rest

/-- The bytes of a text whose escapes stand for bytes and whose other characters are UTF-8. -/
def unescapedBytes : List Char → List UInt8
  | [] => []
  | '%' :: high :: low :: rest =>
      match hexDigit? high, hexDigit? low with
      | some high, some low => UInt8.ofNat (16 * high + low) :: unescapedBytes rest
      | _, _ => utf8Form '%' ++ unescapedBytes (high :: low :: rest)
  | character :: rest => utf8Form character ++ unescapedBytes rest

/-- The text that a percent-encoded text stands for, broken bytes replaced. -/
def decodeLossy (text : List Char) : List Char :=
  utf8TextLossy (unescapedBytes text)

end AdminGate.Text

import AdminGate.Text.Digit

/-!
# Character encodings

Texts as bytes in UTF-8 and bytes as texts in UTF-8, UTF-16 and UTF-32.  A surrogate that is
encoded on its own has no character; the decoders of this module read it as the replacement
character.
-/

namespace AdminGate.Text

/-- The character that stands for what cannot be decoded. -/
def replacement : Char := Char.ofNat 0xFFFD

/-- The character with a code; the replacement for a surrogate.  Texts here hold scalar values
only, so two texts that differ in nothing but lone surrogates are not told apart. -/
def scalar (code : Nat) : Char :=
  if 0xD800 ≤ code && code ≤ 0xDFFF then replacement else Char.ofNat code

def utf8Form (character : Char) : List UInt8 :=
  let code := character.toNat
  if code < 0x80 then [UInt8.ofNat code]
  else if code < 0x800 then [UInt8.ofNat (0xC0 + code / 64), UInt8.ofNat (0x80 + code % 64)]
  else if code < 0x10000 then
    [UInt8.ofNat (0xE0 + code / 4096), UInt8.ofNat (0x80 + code / 64 % 64),
      UInt8.ofNat (0x80 + code % 64)]
  else
    [UInt8.ofNat (0xF0 + code / 262144), UInt8.ofNat (0x80 + code / 4096 % 64),
      UInt8.ofNat (0x80 + code / 64 % 64), UInt8.ofNat (0x80 + code % 64)]

def utf8Bytes (text : List Char) : List UInt8 :=
  text.flatMap utf8Form

/-- Bounds of the second byte, number of following bytes and leading bits that a first byte of
several announces. -/
def utf8Lead? (byte : UInt8) : Option (Nat × Nat × Nat × Nat) :=
  let code := byte.toNat
  if 0xC2 ≤ code && code ≤ 0xDF then some (0x80, 0xBF, 1, code - 0xC0)
  else if code == 0xE0 then some (0xA0, 0xBF, 2, 0)
  else if 0xE1 ≤ code && code ≤ 0xEF then some (0x80, 0xBF, 2, code - 0xE0)
  else if code == 0xF0 then some (0x90, 0xBF, 3, 0)
  else if 0xF1 ≤ code && code ≤ 0xF3 then some (0x80, 0xBF, 3, code - 0xF0)
  else if code == 0xF4 then some (0x80, 0x8F, 3, 4)
  else none

/-- Read `count` more bytes of a character, the next one within the bounds. -/
def utf8Tail? (low high : Nat) : Nat → Nat → List UInt8 → Option (Nat × List UInt8)
  | 0, code, rest => some (code, rest)
  | count + 1, code, byte :: rest =>
      if low ≤ byte.toNat && byte.toNat ≤ high then
        utf8Tail? 0x80 0xBF count (64 * code + (byte.toNat - 0x80)) rest
      else none
  | _ + 1, _, [] => none

/-- Read UTF-8; nothing when the bytes are not well formed.  The first argument bounds the
number of characters. -/
private def utf8Read? : Nat → List Char → List UInt8 → Option (List Char)
  | _, read, [] => some read.reverse
  | 0, _, _ :: _ => none
  | bound + 1, read, byte :: rest =>
      if byte.toNat < 0x80 then utf8Read? bound (Char.ofNat byte.toNat :: read) rest
      else
        match utf8Lead? byte with
        | none => none
        | some (low, high, count, bits) =>
            match utf8Tail? low high count bits rest with
            | none => none
            | some (code, rest) => utf8Read? bound (scalar code :: read) rest

/-- The text of UTF-8 bytes; nothing when they are not well formed. -/
def utf8Text? (bytes : List UInt8) : Option (List Char) :=
  utf8Read? bytes.length [] bytes

/-- The bytes of a broken character that one replacement stands for, after its first byte. -/
private def skipBroken (low high : Nat) : Nat → List UInt8 → List UInt8
  | count + 1, byte :: rest =>
      if low ≤ byte.toNat && byte.toNat ≤ high then skipBroken 0x80 0xBF count rest
      else byte :: rest
  | _, rest => rest

private def utf8ReadLossy : Nat → List Char → List UInt8 → List Char
  | _, read, [] => read.reverse
  | 0, read, _ :: _ => read.reverse
  | bound + 1, read, byte :: rest =>
      if byte.toNat < 0x80 then utf8ReadLossy bound (Char.ofNat byte.toNat :: read) rest
      else
        match utf8Lead? byte with
        | none => utf8ReadLossy bound (replacement :: read) rest
        | some (low, high, count, bits) =>
            let high := if byte.toNat == 0xED then 0x9F else high
            match utf8Tail? low high count bits rest with
            | none => utf8ReadLossy bound (replacement :: read) (skipBroken low high count rest)
            | some (code, rest) => utf8ReadLossy bound (scalar code :: read) rest

/-- The text of UTF-8 bytes, a replacement for every broken sequence. -/
def utf8TextLossy (bytes : List UInt8) : List Char :=
  utf8ReadLossy bytes.length [] bytes

/-- Whether the high byte of a unit comes first. -/
inductive ByteOrder where
  | big
  | little
deriving DecidableEq, Repr

/-- The 16-bit units of bytes; nothing when a byte is left over. -/
def units16? (order : ByteOrder) : List UInt8 → Option (List Nat)
  | [] => some []
  | [_] => none
  | first :: second :: rest => do
      let units ← units16? order rest
      let unit := match order with
        | .big => first.toNat * 256 + second.toNat
        | .little => second.toNat * 256 + first.toNat
      return unit :: units

/-- Join surrogate pairs; a surrogate alone becomes the replacement. -/
def utf16Text : List Nat → List Char
  | [] => []
  | [unit] => [scalar unit]
  | high :: low :: rest =>
      if 0xD800 ≤ high && high ≤ 0xDBFF && (0xDC00 ≤ low && low ≤ 0xDFFF) then
        Char.ofNat (0x10000 + (high - 0xD800) * 1024 + (low - 0xDC00)) :: utf16Text rest
      else scalar high :: utf16Text (low :: rest)

def utf16Text? (order : ByteOrder) (bytes : List UInt8) : Option (List Char) :=
  (units16? order bytes).map utf16Text

def utf32Text? (order : ByteOrder) : List UInt8 → Option (List Char)
  | [] => some []
  | first :: second :: third :: fourth :: rest => do
      let code := match order with
        | .big => ((first.toNat * 256 + second.toNat) * 256 + third.toNat) * 256 + fourth.toNat
        | .little => ((fourth.toNat * 256 + third.toNat) * 256 + second.toNat) * 256 + first.toNat
      if code < 0x110000 then
        let text ← utf32Text? order rest
        return scalar code :: text
      else none
  | _ => none

/-- The bytes that a text of hexadecimal digits spells, two digits each. -/
def hexBytes? : List Char → Option (List UInt8)
  | [] => some []
  | [_] => none
  | high :: low :: rest => do
      let high ← hexDigit? high
      let low ← hexDigit? low
      let bytes ← hexBytes? rest
      return UInt8.ofNat (16 * high + low) :: bytes

end AdminGate.Text

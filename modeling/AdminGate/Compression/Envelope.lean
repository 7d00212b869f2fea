import AdminGate.Compression.Checksum
import AdminGate.Compression.Inflate

/-!
# Envelopes of packed data

Packed data travels in one of two envelopes, each with a head, and behind the data a checksum of
what it unpacks to.  Data that ends early gives as much as it holds; what follows the envelope is not
looked at.
-/

namespace AdminGate.Compression

/-- The bytes that come out, unless the data is broken. -/
def settled? {α : Type} (output : Array UInt8) (ending : Except Stop α) : Option (List UInt8) :=
  match ending with
  | .error .broken => none
  | _ => some output.toList

def takeBytes? (count : Nat) (input : List UInt8) : Except Stop (List UInt8 × List UInt8) :=
  if input.length < count then .error .short else .ok (input.take count, input.drop count)

/-- The number that bytes spell, the lowest one first. -/
def littleNumber (bytes : List UInt8) : Nat :=
  bytes.foldr (fun byte value => byte.toNat + 256 * value) 0

/-- What follows a text that ends with a zero byte. -/
def afterText? (input : List UInt8) : Except Stop (List UInt8) :=
  match input.dropWhile (· != 0) with
  | [] => .error .short
  | _ :: rest => .ok rest

/-- What follows the head of a file, which may name the file and comment on it. -/
def afterFileHead? (input : List UInt8) : Except Stop (List UInt8) := do
  let (mark, rest) ← takeBytes? 2 input
  if mark != [0x1F, 0x8B] then throw .broken
  let (kind, rest) ← takeBytes? 2 rest
  let flags := (kind.getD 1 0).toNat
  if kind.head? != some 8 || 0x20 ≤ flags then throw .broken
  let (_, rest) ← takeBytes? 6 rest
  let rest ←
    if flags.testBit 2 then
      let (size, rest) ← takeBytes? 2 rest
      (takeBytes? (littleNumber size) rest).map Prod.snd
    else pure rest
  let rest ← if flags.testBit 3 then afterText? rest else pure rest
  let rest ← if flags.testBit 4 then afterText? rest else pure rest
  if flags.testBit 1 then
    let head := input.take (input.length - rest.length)
    let (check, rest) ← takeBytes? 2 rest
    if littleNumber check != cyclicRemainder head % 65536 then throw .broken
    return rest
  else return rest

/-- Unpack a file: behind the data stand its cyclic remainder and its size. -/
def unpackFile? (input : List UInt8) : Option (List UInt8) :=
  match afterFileHead? input with
  | .error stop => settled? #[] (.error stop : Except Stop Unit)
  | .ok packed =>
      let (output, ending) := inflate packed
      settled? output do
        let (check, rest) ← takeNumber? 32 (← ending)
        if check != cyclicRemainder output.toList then throw .broken
        let (size, _) ← takeNumber? 32 rest
        if size != output.size % 0x100000000 then throw Stop.broken

/-- What follows the head of a stream: two bytes that make a multiple of 31. -/
def afterStreamHead? (input : List UInt8) : Except Stop (List UInt8) := do
  let (head, rest) ← takeBytes? 2 input
  let method := (head.getD 0 0).toNat
  let flags := (head.getD 1 0).toNat
  if (256 * method + flags) % 31 != 0 || method % 16 != 8 || 7 < method / 16 then throw .broken
  if flags.testBit 5 then
    let _ ← takeBytes? 4 rest
    throw .broken
  return rest

/-- Unpack a stream: behind the data stand its running sums, the highest byte first. -/
def unpackStream? (input : List UInt8) : Option (List UInt8) :=
  match afterStreamHead? input with
  | .error stop => settled? #[] (.error stop : Except Stop Unit)
  | .ok packed =>
      let (output, ending) := inflate packed
      settled? output do
        let (first, rest) ← takeNumber? 8 (← ending)
        let (second, rest) ← takeNumber? 8 rest
        let (third, rest) ← takeNumber? 8 rest
        let (fourth, _) ← takeNumber? 8 rest
        if ((first * 256 + second) * 256 + third) * 256 + fourth != runningSum output.toList then
          throw Stop.broken

def unpackBare? (input : List UInt8) : Option (List UInt8) :=
  let (output, ending) := inflate input
  settled? output ending

end AdminGate.Compression

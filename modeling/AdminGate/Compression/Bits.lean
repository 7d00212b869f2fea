/-!
# Bits

Packed data is a row of bits, the lowest bit of each byte first.  Reading from it stops when the
data is used up before its end, or when it is broken.
-/

namespace AdminGate.Compression

inductive Stop where
  | short
  | broken
deriving DecidableEq, Repr

def bits (bytes : List UInt8) : List Bool :=
  bytes.flatMap fun byte => (List.range 8).map byte.toNat.testBit

/-- A number in some bits, the lowest one first, and what follows it. -/
def takeNumber? : Nat → List Bool → Except Stop (Nat × List Bool)
  | 0, rest => .ok (0, rest)
  | _ + 1, [] => .error .short
  | count + 1, bit :: rest => do
      let (value, rest) ← takeNumber? count rest
      return (2 * value + bit.toNat, rest)

/-- The bits from the next whole byte on, when they end with a whole byte. -/
def fromWholeByte (rest : List Bool) : List Bool :=
  rest.drop (rest.length % 8)

end AdminGate.Compression

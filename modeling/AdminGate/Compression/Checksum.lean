/-!
# Checksums

Two numbers by which a change in bytes is noticed: the remainder of a division of polynomials, and
a pair of running sums.
-/

namespace AdminGate.Compression

/-- Divide once by the polynomial, lowest power in the highest place. -/
def remainderStep (value : UInt32) : UInt32 :=
  if value % 2 = 1 then (value >>> 1) ^^^ 0xEDB88320 else value >>> 1

def remainderWith (value : UInt32) (byte : UInt8) : UInt32 :=
  (List.range 8).foldl (fun value _ => remainderStep value) (value ^^^ byte.toUInt32)

def cyclicRemainder (bytes : List UInt8) : Nat :=
  ((bytes.foldl remainderWith 0xFFFFFFFF) ^^^ 0xFFFFFFFF).toNat

def sumModulus : Nat := 65521

/-- The running sums of bytes: that of the bytes, one added, and that of all sums on the way. -/
def runningSums (bytes : List UInt8) : Nat × Nat :=
  bytes.foldl (fun (first, second) byte =>
    let first := (first + byte.toNat) % sumModulus
    (first, (second + first) % sumModulus)) (1, 0)

def runningSum (bytes : List UInt8) : Nat :=
  let (first, second) := runningSums bytes
  65536 * second + first

end AdminGate.Compression

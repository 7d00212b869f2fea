import AdminGate.Compression.PrefixCode

/-!
# Unpacking blocks

Packed data comes in blocks.  A block holds bytes as they are, or a row of items in two prefix codes:
single bytes, and copies of bytes that have been unpacked already, given by their number and how far
back they begin.  The codes are fixed ones or stand in front of the items.  `inflate` unpacks block
after block; what has been unpacked stays when the data is used up before its end.
-/

namespace AdminGate.Compression

/-- Bytes unpacked so far, and the bits that are left or why there are none. -/
abbrev Unpacked := Array UInt8 × Except Stop (List Bool)

structure BlockCodes where
  items : PrefixCode
  distances : PrefixCode

inductive Item where
  | single (byte : UInt8)
  | copied (count distance : Nat)
  | blockEnd

/-- The least number of copied bytes of each symbol for them, and how many bits add to it. -/
def copyCounts : List (Nat × Nat) := [
  (3, 0), (4, 0), (5, 0), (6, 0), (7, 0), (8, 0), (9, 0), (10, 0), (11, 1), (13, 1), (15, 1),
  (17, 1), (19, 2), (23, 2), (27, 2), (31, 2), (35, 3), (43, 3), (51, 3), (59, 3), (67, 4), (83, 4),
  (99, 4), (115, 4), (131, 5), (163, 5), (195, 5), (227, 5), (258, 0)]

/-- The least distance of each symbol for them, and how many bits add to it. -/
def copyDistances : List (Nat × Nat) := [
  (1, 0), (2, 0), (3, 0), (4, 0), (5, 1), (7, 1), (9, 2), (13, 2), (17, 3), (25, 3), (33, 4),
  (49, 4), (65, 5), (97, 5), (129, 6), (193, 6), (257, 7), (385, 7), (513, 8), (769, 8), (1025, 9),
  (1537, 9), (2049, 10), (3073, 10), (4097, 11), (6145, 11), (8193, 12), (12289, 12), (16385, 13),
  (24577, 13)]

/-- The number that a symbol and the bits after it stand for. -/
def takeAmount? (table : List (Nat × Nat)) (symbol : Nat) (input : List Bool) :
    Except Stop (Nat × List Bool) :=
  match table[symbol]? with
  | none => .error .broken
  | some (least, width) => do
      let (more, rest) ← takeNumber? width input
      return (least + more, rest)

def takeItem? (codes : BlockCodes) (input : List Bool) : Except Stop (Item × List Bool) := do
  let (symbol, rest) ← codes.items.take? input
  if symbol < 256 then return (.single (UInt8.ofNat symbol), rest)
  if symbol = 256 then return (.blockEnd, rest)
  let (count, rest) ← takeAmount? copyCounts (symbol - 257) rest
  let (symbol, rest) ← codes.distances.take? rest
  let (distance, rest) ← takeAmount? copyDistances symbol rest
  return (.copied count distance, rest)

/-- Copy bytes one by one, so that a copy may run into itself. -/
def copyBack : Nat → Nat → Array UInt8 → Array UInt8
  | 0, _, output => output
  | count + 1, distance, output =>
      copyBack count distance (output.push (output.getD (output.size - distance) 0))

/-- Unpack the items of a block; the first argument bounds their number. -/
def unpackItems (codes : BlockCodes) : Nat → Array UInt8 → List Bool → Unpacked
  | 0, output, _ => (output, .error .broken)
  | bound + 1, output, input =>
      match takeItem? codes input with
      | .error stop => (output, .error stop)
      | .ok (.blockEnd, rest) => (output, .ok rest)
      | .ok (.single byte, rest) => unpackItems codes bound (output.push byte) rest
      | .ok (.copied count distance, rest) =>
          if output.size < distance then (output, .error .broken)
          else unpackItems codes bound (copyBack count distance output) rest

def unpackBytes : Nat → Array UInt8 → List Bool → Unpacked
  | 0, output, input => (output, .ok input)
  | count + 1, output, input =>
      match takeNumber? 8 input with
      | .error stop => (output, .error stop)
      | .ok (byte, rest) => unpackBytes count (output.push (UInt8.ofNat byte)) rest

/-- Unpack a block of bytes: their number stands in front of them, and once more with all bits
turned over. -/
def unpackPlain (output : Array UInt8) (input : List Bool) : Unpacked :=
  match takeNumber? 32 (fromWholeByte input) with
  | .error stop => (output, .error stop)
  | .ok (both, rest) =>
      if both % 65536 + both / 65536 = 65535 then unpackBytes (both % 65536) output rest
      else (output, .error .broken)

def fixedCodes : BlockCodes where
  items := .ofLengths (List.replicate 144 8 ++ List.replicate 112 9 ++ List.replicate 24 7 ++
    List.replicate 8 8)
  distances := .ofLengths (List.replicate 32 5)

/-- The order in which the lengths of the code for lengths are given. -/
def lengthOrder : List Nat := [16, 17, 18, 0, 8, 7, 9, 6, 10, 5, 11, 4, 12, 3, 13, 2, 14, 1, 15]

def takeTriples? : Nat → List Bool → Except Stop (List Nat × List Bool)
  | 0, input => .ok ([], input)
  | count + 1, input => do
      let (first, rest) ← takeNumber? 3 input
      let (others, rest) ← takeTriples? count rest
      return (first :: others, rest)

/-- How often a symbol for lengths repeats which length, and what follows; `before` is the length
before it. -/
def takeRun? (before : Option Nat) (symbol : Nat) (input : List Bool) :
    Except Stop (Nat × Nat × List Bool) := do
  if symbol < 16 then return (1, symbol, input)
  if symbol = 16 then
    let (more, rest) ← takeNumber? 2 input
    match before with
    | some length => return (3 + more, length, rest)
    | none => throw .broken
  if symbol = 17 then
    let (more, rest) ← takeNumber? 3 input
    return (3 + more, 0, rest)
  let (more, rest) ← takeNumber? 7 input
  return (11 + more, 0, rest)

/-- The lengths that a code for lengths spells, `wanted` in all; `read` holds the earlier ones, last
first, and the first argument bounds the number of symbols. -/
def takeLengths? (code : PrefixCode) (wanted : Nat) :
    Nat → List Nat → List Bool → Except Stop (List Nat × List Bool)
  | 0, _, _ => .error .broken
  | bound + 1, read, input =>
      if read.length = wanted then .ok (read.reverse, input)
      else do
        let (symbol, rest) ← code.take? input
        let (count, length, rest) ← takeRun? read.head? symbol rest
        if wanted < read.length + count then throw .broken
        takeLengths? code wanted bound (List.replicate count length ++ read) rest

/-- The codes in front of a block. -/
def takeCodes? (input : List Bool) : Except Stop (BlockCodes × List Bool) := do
  let (sizes, rest) ← takeNumber? 14 input
  let itemCount := 257 + sizes % 32
  let distanceCount := 1 + sizes / 32 % 32
  if 286 < itemCount || 30 < distanceCount then throw .broken
  let (given, rest) ← takeTriples? (4 + sizes / 1024) rest
  let order := lengthOrder.zip given
  let code := PrefixCode.ofLengths ((List.range 19).map fun symbol =>
    (order.lookup symbol).getD 0)
  if !code.isUsable false then throw .broken
  let wanted := itemCount + distanceCount
  if code.isEmpty then throw (if rest.length < wanted then .short else .broken)
  let (lengths, rest) ← takeLengths? code wanted (wanted + 1) [] rest
  let items := PrefixCode.ofLengths (lengths.take itemCount)
  let distances := PrefixCode.ofLengths (lengths.drop itemCount)
  if lengths[256]? = some 0 || !items.isUsable true || !distances.isUsable true then throw .broken
  return (⟨items, distances⟩, rest)

def unpackBlock (kind : Nat) (output : Array UInt8) (input : List Bool) : Unpacked :=
  match kind with
  | 0 => unpackPlain output input
  | 1 => unpackItems fixedCodes (input.length + 1) output input
  | 2 =>
      match takeCodes? input with
      | .error stop => (output, .error stop)
      | .ok (codes, rest) => unpackItems codes (rest.length + 1) output rest
  | _ => (output, .error .broken)

/-- Unpack block after block up to the last one; the first argument bounds their number. -/
def unpackBlocks : Nat → Array UInt8 → List Bool → Unpacked
  | 0, output, _ => (output, .error .broken)
  | bound + 1, output, input =>
      match takeNumber? 3 input with
      | .error stop => (output, .error stop)
      | .ok (head, rest) =>
          match unpackBlock (head / 2) output rest with
          | (output, .error stop) => (output, .error stop)
          | (output, .ok rest) =>
              if head % 2 = 1 then (output, .ok (fromWholeByte rest))
              else unpackBlocks bound output rest

/-- Unpack packed bytes; the bits left start with a whole byte. -/
def inflate (bytes : List UInt8) : Unpacked :=
  let input := bits bytes
  unpackBlocks (input.length + 1) #[] input

end AdminGate.Compression

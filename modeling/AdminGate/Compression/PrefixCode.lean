import AdminGate.Compression.Bits

/-!
# Prefix codes

A code gives symbols rows of bits of which none begins another one.  It is known by the lengths of
its rows alone: they are handed out in ascending order, shorter ones first, and among rows of one
length in the order of the symbols.
-/

namespace AdminGate.Compression

/-- A code: how many rows there are of each length from one on, and the symbols in the order of
their rows. -/
structure PrefixCode where
  counts : List Nat
  symbols : Array Nat
deriving Repr

namespace PrefixCode

def longestRow : Nat := 15

/-- The symbols that have rows of a length. -/
def symbolsOfLength (lengths : List Nat) (length : Nat) : List Nat :=
  (lengths.zipIdx.filter fun entry => entry.1 == length).map Prod.snd

/-- The code in which every symbol has a row of the given length, or no row for a length of zero. -/
def ofLengths (lengths : List Nat) : PrefixCode :=
  let groups := (List.range longestRow).map fun index => symbolsOfLength lengths (index + 1)
  ⟨groups.map List.length, groups.flatten.toArray⟩

def isEmpty (code : PrefixCode) : Bool :=
  code.symbols.isEmpty

/-- How many of the longest rows are left over; nothing when there are too few. -/
def room? (code : PrefixCode) : Option Nat :=
  code.counts.foldlM (fun room count =>
    if count ≤ 2 * room then some (2 * room - count) else none) 1

/-- Whether a code can be used: its rows are there, and none is left over.  An empty code can be
used until a symbol is asked for, and so can, where it `mayBeSingle`, a code of a single bit. -/
def isUsable (code : PrefixCode) (mayBeSingle : Bool) : Bool :=
  code.isEmpty ||
    match code.room? with
    | none => false
    | some 0 => true
    | some _ => mayBeSingle && (code.counts.drop 1).all (· == 0)

/-- The symbol of a row whose earlier bits have been read: `row` is their number, `first` that of
the first row of this length, `index` the number of shorter rows. -/
def takeFrom? (symbols : Array Nat) (row first index : Nat) :
    List Nat → List Bool → Except Stop (Nat × List Bool)
  | [], _ => .error .broken
  | _ :: _, [] => .error .short
  | count :: longer, bit :: rest =>
      let row := 2 * row + bit.toNat
      let first := 2 * first
      if row < first + count then
        match symbols[index + (row - first)]? with
        | some symbol => .ok (symbol, rest)
        | none => .error .broken
      else if index + count = symbols.size then .error .broken
      else takeFrom? symbols row (first + count) (index + count) longer rest

/-- The next symbol and what follows it. -/
def take? (code : PrefixCode) (input : List Bool) : Except Stop (Nat × List Bool) :=
  takeFrom? code.symbols 0 0 0 code.counts input

end PrefixCode

end AdminGate.Compression

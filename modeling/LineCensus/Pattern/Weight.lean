import LineCensus.Pattern.Node

/-!
# LineCensus.Pattern.Weight — how large a pattern becomes when it is compiled

A pattern is refused when its compiled form, in which counted repetitions are written out and a set is
spelled over the bytes of its characters, would exceed a limit. This module weighs patterns in bytes:

1. `byteRanges`: a range of code points as sequences of byte ranges.
2. `CharSet.weight`: a set as a tree over those sequences.
3. `Weight`: the weights of the composite forms, from the weights of their parts.
-/

namespace LineCensus.Pattern

/-! ## Code points as bytes -/

/-- A range of byte values, or of the leading bits of a code point. -/
abbrev ByteRange := Nat × Nat

/-- Splits the code points from `lo` to `hi`, all with the same number of `tails` bytes of six bits
behind their leading bits, into products of ranges. -/
def splitTails : (tails : Nat) → (lo hi : Nat) → List (List ByteRange)
  | 0, lo, hi => [[(lo, hi)]]
  | tails + 1, lo, hi =>
    let unit := 64 ^ (tails + 1)
    let first := lo / unit
    let last := hi / unit
    let full := splitTails tails 0 (unit - 1)
    let under (lead : ByteRange) (below : List (List ByteRange)) := below.map (lead :: ·)
    if first = last then under (first, last) (splitTails tails (lo % unit) (hi % unit))
    else
      let whole := if lo % unit = 0 then first else first + 1
      let wholeEnd := if hi % unit = unit - 1 then last + 1 else last
      (if lo % unit = 0 then []
        else under (first, first) (splitTails tails (lo % unit) (unit - 1)))
        ++ (if whole < wholeEnd then under (whole, wholeEnd - 1) full else [])
        ++ (if hi % unit = unit - 1 then []
        else under (last, last) (splitTails tails 0 (hi % unit)))

/-- The first and last code point written with one byte, two bytes and so on, with the number of bytes
after the first one. -/
def lengthClasses : List (Nat × Nat × Nat) :=
  [(0, 0x7f, 0), (0x80, 0x7ff, 1), (0x800, 0xffff, 2), (0x10000, 0x10ffff, 3)]

/-- A range of code points as sequences of byte ranges, each led by the number of bytes. -/
def byteRanges (lo hi : Nat) : List (List ByteRange) :=
  lengthClasses.flatMap fun (first, last, tails) =>
    if max lo first ≤ min hi last then
      (splitTails tails (max lo first) (min hi last)).map fun ranges =>
        match ranges with
        | (a, b) :: rest => (tails * 0x1000 + a, tails * 0x1000 + b) :: rest
        | [] => []
    else []

/-! ## Weights -/

namespace Weight

/-- One state. -/
def state : Nat := 32

/-- One transition of a state that has several. -/
def transition : Nat := 8

/-- One branch of a choice. -/
def branch : Nat := 4

/-- The largest compiled form. -/
def limit : Nat := 10 * 1024 * 1024

/-- What every pattern needs around itself: the search for its start, and its match. -/
def frame : Nat := 6 * state + 2 * transition

/-- The length of the common start of two lists. -/
def commonPrefix : List ByteRange → List ByteRange → Nat
  | a :: as, b :: bs => if a = b then commonPrefix as bs + 1 else 0
  | _, _ => 0

/-- The branchings of the tree that holds the sequences, which are in order. -/
def treeStates : (previous : List ByteRange) → List (List ByteRange) → Nat
  | _, [] => 0
  | previous, next :: rest => (next.length - commonPrefix previous next) + treeStates next rest

/-- A set of characters. -/
def set (s : CharSet) : Nat :=
  let ranges := s.ranges
  if ranges.all fun (_, hi) => hi < 0x80 then 2 * state + ranges.length * transition
  else
    let sequences := ranges.flatMap fun (lo, hi) => byteRanges lo hi
    2 * state + sequences.length * branch + treeStates [] sequences * state

/-- A single character, spelled out. -/
def char (c : Char) : Nat := c.utf8Size * state

/-- The weights taken together. -/
def total (weights : List Nat) : Nat := weights.foldr Nat.add 0

/-- A choice among branches of the given weights. -/
def alternatives (weights : List Nat) : Nat :=
  2 * state + weights.length * branch + total weights

/-- Exactly so many rounds. -/
def times (body count : Nat) : Nat := if count = 0 then state else count * body

/-- At most so many rounds. -/
def upTo (body count : Nat) : Nat := state + count * (state + 2 * branch + body)

/-- Any number of further rounds of a body. -/
def loop : Nat := state + 2 * branch

end Weight

end LineCensus.Pattern

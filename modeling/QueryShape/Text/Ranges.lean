/-!
# Sets of characters as ranges of code points

The character classes of this library (white space, digits, letters, characters with no glyph of
their own) are sets of code points of the Unicode standard, version 17.0.  Each is written as the
list of its maximal ranges in increasing order.
-/

namespace QueryShape

/-- The first and the last code point of each range of a set. -/
abbrev CodeRanges := List (Nat × Nat)

namespace CodeRanges

def containsCode (ranges : CodeRanges) (code : Nat) : Bool :=
  ranges.any fun (first, last) => first ≤ code && code ≤ last

def contains (ranges : CodeRanges) (c : Char) : Bool :=
  ranges.containsCode c.toNat

/-- The maximal ranges of one range and of ranges that start no earlier, in increasing order. -/
def absorb (first last : Nat) : CodeRanges → CodeRanges
  | [] => [(first, last)]
  | (next, final) :: rest =>
      if next ≤ last + 1 then absorb first (max last final) rest
      else (first, last) :: absorb next final rest

/-- The maximal ranges of a set that is given as ranges in any order. -/
def ofList (ranges : List (Nat × Nat)) : CodeRanges :=
  match ranges.mergeSort fun left right => left.1 ≤ right.1 with
  | [] => []
  | (first, last) :: rest => absorb first last rest

def union (left right : CodeRanges) : CodeRanges :=
  ofList (left ++ right)

/-- The code points from `next` on that are in none of the ranges. -/
def complementFrom (next : Nat) : CodeRanges → CodeRanges
  | [] => if next ≤ 0x10FFFF then [(next, 0x10FFFF)] else []
  | (first, last) :: rest =>
      if next < first then (next, first - 1) :: complementFrom (last + 1) rest
      else complementFrom (last + 1) rest

def complement (ranges : CodeRanges) : CodeRanges :=
  ranges.complementFrom 0

def difference (left right : CodeRanges) : CodeRanges :=
  (left.complement.union right).complement

end CodeRanges

end QueryShape

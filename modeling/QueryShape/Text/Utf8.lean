import QueryShape.Text.Ranges

/-!
# Sets of characters as sequences of bytes

A character is encoded in UTF-8 as one to four bytes.  The encodings of a range of characters are
those of a few sequences of byte ranges: one byte out of each range in turn, in every combination.
Sequences in increasing order that start alike stand next to each other, like the branches of a
tree.
-/

namespace QueryShape.Text

/-- The first and the last byte of a range. -/
abbrev ByteRange := Nat × Nat

/-- The numbers from `first` to `last`, written with `more + 1` digits to the base 64.  The first
digit counts from `base`, the other ones from the first continuation byte. -/
def digitSequences (base : Nat) : Nat → Nat → Nat → List (List ByteRange)
  | 0, first, last => [[(base + first, base + last)]]
  | more + 1, first, last =>
      let block := Nat.pow 64 (more + 1)
      let (low, lowRest) := (first / block, first % block)
      let (high, highRest) := (last / block, last % block)
      let under (least greatest first last : Nat) :=
        (digitSequences 0x80 more first last).map ((base + least, base + greatest) :: ·)
      if low = high then
        under low low lowRest highRest
      else
        let start := if lowRest = 0 then low else low + 1
        let stop := if highRest + 1 = block then high + 1 else high
        (if start = low then [] else under low low lowRest (block - 1)) ++
        (if start < stop then under start (stop - 1) 0 (block - 1) else []) ++
        (if stop = high then under high high 0 highRest else [])

/-- The ranges of code points that are encoded alike: the first and the last one, the number from
which the first byte counts, and how many bytes follow it.  Surrogates are no characters. -/
def encodingForms : List (Nat × Nat × Nat × Nat) :=
  [(0, 0x7F, 0, 0), (0x80, 0x7FF, 0xC0, 1), (0x800, 0xD7FF, 0xE0, 2), (0xE000, 0xFFFF, 0xE0, 2),
    (0x10000, 0x10FFFF, 0xF0, 3)]

/-- The byte sequences of a set, in increasing order. -/
def byteSequences (ranges : CodeRanges) : List (List ByteRange) :=
  ranges.flatMap fun (first, last) =>
    encodingForms.flatMap fun (least, greatest, base, more) =>
      if max first least ≤ min last greatest then
        digitSequences base more (max first least) (min last greatest)
      else []

/-- The bytes of one character. -/
def utf8Bytes (c : Char) : List Nat :=
  (byteSequences [(c.toNat, c.toNat)]).flatMap fun sequence => sequence.map Prod.fst

/-- The sequences by their first range. -/
def branches : List (List ByteRange) → List (ByteRange × List (List ByteRange))
  | [] => []
  | [] :: sequences => branches sequences
  | (range :: tail) :: sequences =>
      match branches sequences with
      | [] => [(range, [tail])]
      | (next, tails) :: others =>
          if next = range then (range, tail :: tails) :: others
          else (range, [tail]) :: (next, tails) :: others

/-- What may follow each of the beginnings of less than `length` ranges, the empty one included. -/
def continuations : Nat → List (List ByteRange) → List (List (List ByteRange))
  | 0, _ => []
  | length + 1, sequences =>
      match branches sequences with
      | [] => []
      | nexts => sequences :: nexts.flatMap fun (_, tails) => continuations length tails

/-- How many ranges a sequence does not share with the sequence before it. -/
def unshared : List ByteRange → List ByteRange → Nat
  | range :: rest, next :: others =>
      if range = next then unshared rest others else others.length + 1
  | [], others => others.length
  | _, [] => 0

/-- How many different beginnings the sequences after a given one have. -/
def beginnings (previous : List ByteRange) : List (List ByteRange) → Nat
  | [] => 0
  | current :: others => unshared previous current + beginnings current others

end QueryShape.Text

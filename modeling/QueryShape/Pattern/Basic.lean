import QueryShape.Text.Blank
import QueryShape.Text.Folding
import QueryShape.Text.Numeral
import QueryShape.Text.Word

/-!
# Patterns

A pattern describes texts: single characters out of a set, assertions about the place between two
characters, and sequences, alternatives and repetitions of patterns.
-/

namespace QueryShape

/-- The character classes that have a letter of their own. -/
inductive NamedClass where
  | digit
  | space
  | word
deriving DecidableEq, Hashable, Repr

namespace NamedClass

def contains : NamedClass → Char → Bool
  | .digit, c => Text.isDecimalDigit c
  | .space, c => Text.isBlank c
  | .word, c => Text.isWordChar c

end NamedClass

/-- A set of characters.  A folded set also holds the characters that differ in case only, either
all of them or only ASCII letters. -/
inductive CharSet where
  | none
  | range (first last : Char)
  | named (name : NamedClass)
  | union (left right : CharSet)
  | complement (set : CharSet)
  | folded (set : CharSet)
  | foldedAscii (set : CharSet)
deriving DecidableEq, Hashable, Repr

namespace CharSet

def any : CharSet := .complement .none

def single (c : Char) : CharSet := .range c c

def ofRanges (ranges : List (Char × Char)) : CharSet :=
  ranges.foldr (fun (first, last) set => .union (.range first last) set) .none

def contains : CharSet → Char → Bool
  | .none, _ => false
  | .range first last, c => first ≤ c && c ≤ last
  | .named name, c => name.contains c
  | .union left right, c => left.contains c || right.contains c
  | .complement set, c => !set.contains c
  | .folded set, c => (Text.caseVariants c).any set.contains
  | .foldedAscii set, c => set.contains c.toLower || set.contains c.toUpper

/-- The set as ranges of code points. -/
def ranges : CharSet → CodeRanges
  | .none => []
  | .range first last => if first ≤ last then [(first.toNat, last.toNat)] else []
  | .named .digit => Text.digitRanges
  | .named .space => Text.blankRanges
  | .named .word => Text.wordRanges
  | .union left right => left.ranges.union right.ranges
  | .complement set => set.ranges.complement
  | .folded set => Text.withCaseVariants set.ranges
  | .foldedAscii set =>
      let codes := (List.range 128).filter fun code =>
        let c := Char.ofNat code
        set.ranges.contains c.toLower || set.ranges.contains c.toUpper
      set.ranges.union (codes.map fun code => (code, code))

/-- The characters that both sets hold. -/
def intersection (left right : CharSet) : CharSet :=
  .complement (.union (.complement left) (.complement right))

/-- The characters that the first set holds and the second one does not. -/
def difference (left right : CharSet) : CharSet :=
  .complement (.union (.complement left) right)

end CharSet

/-- Which characters words are made of. -/
inductive Words where
  | unicode
  | ascii
deriving DecidableEq, Hashable, Repr

namespace Words

/-- The characters of words of ASCII. -/
def asciiRanges : List (Char × Char) :=
  [('0', '9'), ('A', 'Z'), ('a', 'z'), ('_', '_')]

/-- Whether there is a character and it belongs to a word. -/
def contain (words : Words) (found : Option Char) : Bool :=
  match words with
  | .unicode => found.any Text.isWordChar
  | .ascii => found.any (CharSet.ofRanges asciiRanges).contains

end Words

/-- What ends a line: a line feed, or also a carriage return, alone or before a line feed. -/
inductive LineBreaks where
  | feeds
  | returnsAndFeeds
deriving DecidableEq, Hashable, Repr

/-- A statement about the place between two characters; at either end of the text there is only
one. -/
inductive Assertion where
  | textStart
  | textEnd
  | lineStart (breaks : LineBreaks)
  | lineEnd (breaks : LineBreaks)
  | wordBoundary (words : Words)
  | noWordBoundary (words : Words)
  | wordStart (words : Words)
  | wordEnd (words : Words)
  /-- No word goes on from before. -/
  | noWordBefore (words : Words)
  /-- No word goes on after. -/
  | noWordAfter (words : Words)
deriving DecidableEq, Hashable, Repr

def Assertion.holds (before after : Option Char) : Assertion → Bool
  | .textStart => before.isNone
  | .textEnd => after.isNone
  | .lineStart .feeds => before.isNone || before = some '\n'
  | .lineStart .returnsAndFeeds =>
      before.isNone || before = some '\n' || (before = some '\r' && after ≠ some '\n')
  | .lineEnd .feeds => after.isNone || after = some '\n'
  | .lineEnd .returnsAndFeeds =>
      after.isNone || after = some '\r' || (after = some '\n' && before ≠ some '\r')
  | .wordBoundary words => words.contain before != words.contain after
  | .noWordBoundary words => words.contain before == words.contain after
  | .wordStart words => !words.contain before && words.contain after
  | .wordEnd words => words.contain before && !words.contain after
  | .noWordBefore words => !words.contain before
  | .noWordAfter words => !words.contain after

inductive Pattern where
  | never
  | empty
  | char (set : CharSet)
  | place (assertion : Assertion)
  | sequence (first second : Pattern)
  | either (left right : Pattern)
  | repetition (body : Pattern) (least : Nat) (most : Option Nat)
deriving DecidableEq, Hashable, Repr

end QueryShape

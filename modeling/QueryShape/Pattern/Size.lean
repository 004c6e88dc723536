import QueryShape.Pattern.Plan
import QueryShape.Text.Utf8

/-!
# The sizes of machines

A pattern is run by two machines that read bytes, one from the start of a text and one from its end.
A state takes 32 bytes; each way out of a state with several ways takes 4 more, and each range of
bytes in a table takes 8 more.  A counted repetition has one copy of its body for each time that the
body may occur.
-/

namespace QueryShape.Pattern

open Text (beginnings branches byteSequences continuations utf8Bytes)

inductive Direction where
  | forward
  | backward
deriving DecidableEq, Repr

def stateSize : Nat := 32

/-- A state with a number of ways out. -/
def forkSize (ways : Nat) : Nat :=
  stateSize + 4 * ways

/-- A state that looks the next byte up in a table. -/
def tableSize (ranges : Nat) : Nat :=
  stateSize + 8 * ranges

def total (sizes : List Nat) : Nat :=
  sizes.foldl (· + ·) 0

namespace Direction

/-- The bytes of a text in the order in which a machine reads them. -/
def arrange (direction : Direction) (chars : List Char) : List Nat :=
  let bytes := chars.flatMap utf8Bytes
  match direction with
  | .forward => bytes
  | .backward => bytes.reverse

end Direction

/-! ## Sets of characters -/

/-- A machine that reads one character of a set.  ASCII characters take one table.  Otherwise the
forward machine has a table for every different continuation, and the backward machine a state for
every different beginning. -/
def setSize (direction : Direction) (ranges : CodeRanges) : Nat :=
  if ranges.all fun (_, last) => last < 128 then
    tableSize ranges.length + stateSize
  else
    let sequences := byteSequences ranges
    match direction with
    | .forward =>
        let tables := (continuations 4 sequences).eraseDups
        stateSize + total (tables.map fun sequences => tableSize (branches sequences).length)
    | .backward => forkSize sequences.length + stateSize * (1 + beginnings [] sequences)

/-! ## Texts -/

/-- The words between those that are empty. -/
def segments : List (List Nat) → List (List (List Nat))
  | [] => [[]]
  | [] :: words => [] :: segments words
  | word :: words =>
      match segments words with
      | [] => [[word]]
      | segment :: others => (word :: segment) :: others

/-- The tails of the words that start with a byte. -/
def tailsAfter (byte : Nat) (words : List (List Nat)) : List (List Nat) :=
  words.filterMap fun
    | first :: tail => if first = byte then some tail else none
    | [] => none

/-- A tree of the words, read byte by byte, without the state that they all end in.  A word that
ends where others go on parts these into those before and those after it. -/
def treeSize : Nat → List (List Nat) → Nat
  | 0, _ => 0
  | length + 1, words =>
      if words.all List.isEmpty then 0
      else
        let parts := segments words
        let full := parts.filter (!·.isEmpty)
        forkSize (full.length + (parts.length - 1)) + total (full.map fun words =>
          let bytes := (words.filterMap List.head?).eraseDups
          (if bytes.length = 1 then stateSize else tableSize bytes.length) +
            total (bytes.map fun byte => treeSize length (tailsAfter byte words)))

/-! ## Plans -/

def Plan.chars? : Plan → Option (List Char)
  | .text chars => some chars
  | _ => none

/-- The size of a repetition with the size of its body. -/
def repetitionSize (body : Nat) (takesSomething : Bool) (least : Nat) :
    Option Nat → Nat
  | none =>
      if least = 0 then
        if takesSomething then body + forkSize 2 else body + 2 * forkSize 2 + stateSize
      else
        least * body + forkSize 2
  | some most =>
      if least = 0 ∧ most = 1 then
        body + forkSize 2 + stateSize
      else
        (if least = 0 then stateSize else least * body) +
          (if least < most then stateSize + (most - least) * (body + forkSize 2) else 0)

namespace Plan

mutual

def size (direction : Direction) : Plan → Nat
  | .empty | .place _ => stateSize
  | .text chars => stateSize * (direction.arrange chars).length
  | .set ranges => setSize direction ranges
  | .repetition body least most =>
      repetitionSize (body.size direction) body.takesSomething least most
  | .capture body =>
      body.size direction + (if direction = .forward then 2 * stateSize else 0)
  | .sequence parts => partsSize direction parts
  | .choice branches =>
      match branches.mapM chars? with
      | some texts =>
          let words := texts.map direction.arrange
          stateSize + treeSize (words.foldl (fun longest word => max longest word.length) 0) words
      | none => forkSize branches.length + stateSize + partsSize direction branches

def partsSize (direction : Direction) : List Plan → Nat
  | [] => 0
  | part :: parts => part.size direction + partsSize direction parts

end

/-- Whether the first place that a machine comes to is the end of the text it starts from. -/
def isAnchored (direction : Direction) (plan : Plan) : Bool :=
  let parts := match plan with
    | .sequence parts => parts
    | plan => [plan]
  match direction, parts.head?, parts.getLast? with
  | .forward, some (.place .textStart), _ => true
  | .backward, _, some (.place .textEnd) => true
  | _, _, _ => false

/-- The whole machine: it may start anywhere in the text unless it is anchored, it notes where the
match starts and ends when it reads forward, and it has a final state. -/
def machineSize (direction : Direction) (plan : Plan) : Nat :=
  let entry := if plan.isAnchored direction then stateSize
    else forkSize 2 + tableSize 1 + stateSize
  entry + (Plan.capture plan).size direction + stateSize

end Plan

end QueryShape.Pattern

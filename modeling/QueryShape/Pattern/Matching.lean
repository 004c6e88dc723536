import QueryShape.Pattern.Basic
import Std.Data.HashSet

/-!
# Matching by partial derivatives

The partial derivatives of a pattern by a character are patterns any of which may follow that
character.  A place between two characters matters to assertions, so all operations are told which
characters surround it.  A text matches when the pattern describes some part of it; the search
carries the patterns of all starting places along, each of them once, and stops as soon as one of
them is complete.
-/

namespace QueryShape.Pattern

/-- Whether the pattern describes the empty text between two characters. -/
def isNullable (before after : Option Char) : Pattern → Bool
  | .never => false
  | .empty => true
  | .char _ => false
  | .place assertion => assertion.holds before after
  | .sequence first second => first.isNullable before after && second.isNullable before after
  | .either left right => left.isNullable before after || right.isNullable before after
  | .repetition body least _ => least == 0 || body.isNullable before after

def followedBy : Pattern → Pattern → Pattern
  | .empty, second => second
  | .sequence first rest, second => .sequence first (followedBy rest second)
  | first, second => .sequence first second

/-- What may follow a character.  If a body may be empty at this place, any number of the
repetitions that are still due can be spent on it. -/
def derivatives (before : Option Char) (c : Char) : Pattern → List Pattern
  | .never | .empty | .place _ => []
  | .char set => if set.contains c then [.empty] else []
  | .sequence first second =>
      let through := (first.derivatives before c).map (followedBy · second)
      if first.isNullable before (some c) then through ++ second.derivatives before c else through
  | .either left right => left.derivatives before c ++ right.derivatives before c
  | .repetition _ _ (some 0) => []
  | .repetition body least most =>
      let due := if body.isNullable before (some c) then 0 else least - 1
      (body.derivatives before c).map (followedBy · (.repetition body due (most.map (· - 1))))

/-- The patterns of a list, each of them once. -/
def distinct (patterns : List Pattern) : List Pattern :=
  (Std.HashSet.ofList patterns).toList

/-- Whether one of the patterns, or the first one from some later place on, describes a part of the
text. -/
def searches (pattern : Pattern) (before : Option Char) (current : List Pattern) :
    List Char → Bool
  | [] => (pattern :: current).any (isNullable before none)
  | c :: rest =>
      let current := pattern :: current
      current.any (isNullable before (some c)) ||
        searches pattern (some c) (distinct (current.flatMap (derivatives before c))) rest

def isMatch (pattern : Pattern) (text : String) : Bool :=
  pattern.searches none [] text.toList

end QueryShape.Pattern

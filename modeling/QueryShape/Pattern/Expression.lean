import QueryShape.Pattern.Basic

/-!
# Patterns as they are written

An expression is a pattern with the structure of its text: groups, bracketed classes and directives
are parts of it, and a sequence or a choice lists all its parts.  Its depth is what a limit on
nesting counts, and `Expression.pattern` is what it means.
-/

namespace QueryShape.Pattern

inductive Expression where
  | empty
  /-- Flags that hold from here on. -/
  | directive
  /-- One character out of a set, which is written with that many levels of brackets. -/
  | char (set : CharSet) (brackets : Nat)
  | place (assertion : Assertion)
  | repetition (body : Expression) (least : Nat) (most : Option Nat)
  | group (captures : Bool) (body : Expression)
  | sequence (parts : List Expression)
  | choice (branches : List Expression)

namespace Expression

/-- Parts one after the other.  A single part is no sequence. -/
def ofParts : List Expression → Expression
  | [] => .empty
  | [part] => part
  | parts => .sequence parts

mutual

/-- Whether the expression has at most that many levels.  Every group, repetition, sequence, choice
and bracket is one. -/
def within (levels : Nat) : Expression → Bool
  | .empty | .directive | .place _ => true
  | .char _ brackets => brackets ≤ levels
  | .repetition body _ _ => 0 < levels && within (levels - 1) body
  | .group _ body => 0 < levels && within (levels - 1) body
  | .sequence parts => 0 < levels && allWithin (levels - 1) parts
  | .choice branches => 0 < levels && allWithin (levels - 1) branches

def allWithin (levels : Nat) : List Expression → Bool
  | [] => true
  | part :: parts => within levels part && allWithin levels parts

end

mutual

def pattern : Expression → Pattern
  | .empty | .directive => .empty
  | .char set _ => .char set
  | .place assertion => .place assertion
  | .repetition body least most => .repetition body.pattern least most
  | .group _ body => body.pattern
  | .sequence parts => sequencePattern parts
  | .choice branches => choicePattern branches

def sequencePattern : List Expression → Pattern
  | [] => .empty
  | [part] => part.pattern
  | part :: parts => .sequence part.pattern (sequencePattern parts)

def choicePattern : List Expression → Pattern
  | [] => .never
  | [branch] => branch.pattern
  | branch :: branches => .either branch.pattern (choicePattern branches)

end

end Expression

end QueryShape.Pattern

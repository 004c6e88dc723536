import QueryShape.Pattern.Expression

/-!
# Plans of machines

A plan is an expression in the simplified form from which a machine is laid out.  Characters that
follow each other are one text, sequences and choices are not nested in their own kind, a choice
between single characters is a set, and a repetition of something that takes no text happens at most
once.
-/

namespace QueryShape.Pattern

inductive Plan where
  | empty
  | text (chars : List Char)
  | set (ranges : CodeRanges)
  | place (assertion : Assertion)
  | repetition (body : Plan) (least : Nat) (most : Option Nat)
  | capture (body : Plan)
  | sequence (parts : List Plan)
  | choice (branches : List Plan)

namespace Plan

/-- One character out of a set. -/
def ofRanges : CodeRanges → Plan
  | [(first, last)] => if first = last then .text [Char.ofNat first] else .set [(first, last)]
  | ranges => .set ranges

/-- The parts with neighbouring texts joined. -/
def joinTexts : List Plan → List Plan
  | [] => []
  | .text chars :: parts =>
      match joinTexts parts with
      | .text others :: parts => .text (chars ++ others) :: parts
      | parts => .text chars :: parts
  | part :: parts => part :: joinTexts parts

def inOrder (parts : List Plan) : Plan :=
  let flat := parts.flatMap fun
    | .empty => []
    | .sequence inner => inner
    | part => [part]
  match joinTexts flat with
  | [] => .empty
  | [part] => part
  | parts => .sequence parts

/-- The set of characters that the plan takes one of, if it is of this form. -/
def ranges? : Plan → Option CodeRanges
  | .text [c] => some [(c.toNat, c.toNat)]
  | .set ranges => some ranges
  | _ => none

def oneOf (branches : List Plan) : Plan :=
  let flat := branches.flatMap fun
    | .choice inner => inner
    | branch => [branch]
  match flat with
  | [branch] => branch
  | branches =>
      match branches.mapM ranges? with
      | some sets => .ofRanges (CodeRanges.ofList sets.flatten)
      | none => .choice branches

mutual

/-- Whether every text that the plan takes is empty. -/
def takesNothing : Plan → Bool
  | .empty | .place _ => true
  | .text _ | .set _ => false
  | .repetition body _ _ => body.takesNothing
  | .capture body => body.takesNothing
  | .sequence parts => allTakeNothing parts
  | .choice branches => allTakeNothing branches

def allTakeNothing : List Plan → Bool
  | [] => true
  | part :: parts => part.takesNothing && allTakeNothing parts

end

mutual

/-- Whether no text that the plan takes is empty. -/
def takesSomething : Plan → Bool
  | .empty | .place _ => false
  | .text _ => true
  | .set ranges => !ranges.isEmpty
  | .repetition body least _ => 0 < least && body.takesSomething
  | .capture body => body.takesSomething
  | .sequence parts => someTakeSomething parts
  | .choice branches => allTakeSomething branches

def someTakeSomething : List Plan → Bool
  | [] => false
  | part :: parts => part.takesSomething || someTakeSomething parts

def allTakeSomething : List Plan → Bool
  | [] => true
  | branch :: branches => branch.takesSomething && allTakeSomething branches

end

def repeated (body : Plan) (least : Nat) (most : Option Nat) : Plan :=
  let (least, most) :=
    if body.takesNothing then (min least 1, some (min (most.getD 1) 1)) else (least, most)
  match least, most with
  | 0, some 0 => .empty
  | 1, some 1 => body
  | least, most => .repetition body least most

mutual

def ofExpression : Expression → Plan
  | .empty | .directive => .empty
  | .char chars _ => .ofRanges chars.ranges
  | .place assertion => .place assertion
  | .repetition body least most => (ofExpression body).repeated least most
  | .group captures body => if captures then .capture (ofExpression body) else ofExpression body
  | .sequence parts => .inOrder (ofExpressions parts)
  | .choice branches => .oneOf (ofExpressions branches)

def ofExpressions : List Expression → List Plan
  | [] => []
  | part :: parts => ofExpression part :: ofExpressions parts

end

end Plan

end QueryShape.Pattern

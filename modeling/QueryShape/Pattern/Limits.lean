import QueryShape.Pattern.Parser
import QueryShape.Pattern.Size

/-!
# Patterns within limits

A text denotes a pattern when it spells an expression that is not nested too deep and whose machines
are not too large.
-/

namespace QueryShape.Pattern

/-- How many levels an expression may have. -/
def nestingLimit : Nat := 250

/-- How many bytes a machine may take. -/
def sizeLimit : Nat := 10 * 1024 * 1024

def Plan.fits (plan : Plan) : Bool :=
  plan.machineSize .forward ≤ sizeLimit && plan.machineSize .backward ≤ sizeLimit

/-- The pattern that a text denotes, if it denotes one. -/
def ofText? (text : String) : Option Pattern := do
  let expression ← Expression.ofText? text
  if expression.within nestingLimit && (Plan.ofExpression expression).fits then
    some expression.pattern
  else
    none

end QueryShape.Pattern

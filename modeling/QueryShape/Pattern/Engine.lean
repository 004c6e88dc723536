import QueryShape.Pattern.Limits
import QueryShape.Pattern.Matching
import QueryShape.Schema.PatternEngine

/-!
# The engine of the command line

The patterns of this library as an engine for schemas.  It does not say why a text is no pattern.
-/

namespace QueryShape.Pattern

def engine : PatternEngine where
  compile text :=
    match ofText? text with
    | some pattern => .ok pattern.isMatch
    | none => .error "the text is not a pattern"

theorem accepts_engine_iff {text : String} : engine.Accepts text ↔ (ofText? text).isSome := by
  unfold PatternEngine.Accepts engine
  cases hread : ofText? text <;> simp [hread]

end QueryShape.Pattern

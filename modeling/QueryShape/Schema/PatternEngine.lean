/-!
# Pattern engines

A schema gives patterns as texts.  Which texts are patterns, and which texts a pattern describes, is
up to an engine: it compiles a text to a test of texts, or explains why the text is no pattern.
-/

namespace QueryShape

structure PatternEngine where
  compile : String → Except String (String → Bool)

namespace PatternEngine

/-- The text is a pattern. -/
def Accepts (engine : PatternEngine) (text : String) : Prop :=
  ∃ test, engine.compile text = .ok test

/-- The text is a pattern that describes the whole subject. -/
def Matches (engine : PatternEngine) (text subject : String) : Prop :=
  ∃ test, engine.compile text = .ok test ∧ test subject = true

theorem not_accepts_iff {engine : PatternEngine} {text : String} :
    ¬engine.Accepts text ↔ ∃ explanation, engine.compile text = .error explanation := by
  unfold Accepts
  cases engine.compile text <;> simp

end PatternEngine

end QueryShape

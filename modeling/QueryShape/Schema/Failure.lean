import QueryShape.Json.Reading
import QueryShape.Schema.Check

/-!
# Failures with schemas

A schema may be impossible to read, or to read as a schema; the check may find errors in it; and a
validator may be impossible to make from it.
-/

namespace QueryShape

inductive SchemaError where
  /-- The file cannot be read, for the given reason. -/
  | unreadable (path reason : String)
  | misread (error : Json.ReadError)
  /-- The check finds a number of errors, at least one. -/
  | faulty (errors : Nat) (first : Diagnostic)
  /-- The engine cannot compile the pattern of a column, with its explanation. -/
  | invalidPattern (model field explanation : String)
  | unknownModel (name : String)
deriving DecidableEq, Repr

def SchemaError.message : SchemaError → String
  | .unreadable path reason => s!"failed to read schema `{path}`: {reason}"
  | .misread error => "invalid schema document: " ++ error.message
  | .faulty errors first => s!"schema has {errors} error(s), first: " ++ first.text
  | .invalidPattern model field explanation =>
      s!"invalid pattern on `{model}.{field}`: " ++ explanation
  | .unknownModel name => s!"unknown model `{name}`"

namespace Schema

/-- The schema, if the check finds no errors in it. -/
def validated (engine : PatternEngine) (schema : Schema) : Except SchemaError Schema :=
  match (schema.check engine).errors with
  | [] => .ok schema
  | first :: rest => .error (.faulty (rest.length + 1) first)

end Schema

end QueryShape

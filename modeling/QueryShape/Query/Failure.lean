import QueryShape.Issue
import QueryShape.Json.Reading

/-!
# Failures of queries

A query fails because its entity is unknown, because data does not have the shape that the relations
ask for, because a validator rejects data, or because the result cannot be read as typed data.
-/

namespace QueryShape

/-- Where an entity was looked for. -/
inductive EntitySource where
  | relationGraph
  | validators
deriving DecidableEq, Repr

def EntitySource.text : EntitySource → String
  | .relationGraph => "relation graph"
  | .validators => "validator registry"

inductive Shape where
  | object
  | array
deriving DecidableEq, Repr

def Shape.text : Shape → String
  | .object => "object"
  | .array => "array"

inductive QueryError where
  | unknownEntity (entity : String) (source : EntitySource)
  | invalidShape (entity : String) (path : Path) (expected : Shape) (found : String)
  /-- The path leads to the place of the first issue, and the field is the last one on its way. -/
  | rejected (entity : String) (path : Path) (field : Option String) (issues : Issues)
  | undecodable (entity : String) (cause : Json.ReadError)
deriving DecidableEq, Repr

namespace QueryError

def code : QueryError → String
  | .unknownEntity _ _ => "UNKNOWN_ENTITY"
  | .invalidShape _ _ _ _ => "INVALID_SHAPE"
  | .rejected _ _ _ _ => "VALIDATION_FAILURE"
  | .undecodable _ _ => "DECODE_ERROR"

def entity : QueryError → String
  | .unknownEntity entity _ => entity
  | .invalidShape entity _ _ _ => entity
  | .rejected entity _ _ _ => entity
  | .undecodable entity _ => entity

def path? : QueryError → Option Path
  | .invalidShape _ path _ _ => some path
  | .rejected _ path _ _ => some path
  | _ => none

def field? : QueryError → Option String
  | .rejected _ _ field _ => field
  | _ => none

def issues? : QueryError → Option Issues
  | .rejected _ _ _ issues => some issues
  | _ => none

/-- The error of a validator that is called for the object at a path. -/
def ofIssues (entity : String) (path : Path) (issues : Issues) : QueryError :=
  match issues with
  | [] => .rejected entity path none []
  | first :: _ => .rejected entity (first.path.prefixed path) first.path.lastField issues

def message : QueryError → String
  | .unknownEntity entity source => s!"unknown entity `{entity}`: not in the " ++ source.text
  | .invalidShape entity path expected found =>
      s!"invalid shape for `{entity}` at " ++ path.text ++ ": expected " ++ expected.text ++
        ", found " ++ found
  | .rejected entity path _ issues =>
      s!"validation failed for `{entity}` at " ++ path.text ++ ": " ++ issues.text
  | .undecodable entity cause => s!"cannot decode `{entity}` result: " ++ cause.message

def toDocument (error : QueryError) : Json.Document :=
  .record (
    [("code", .string error.code), ("message", .string error.message),
      ("entity", .string error.entity)] ++
    (match error.path? with
      | some path => [("path", path.toDocument)]
      | none => []) ++
    (match error.field? with
      | some field => [("field", .string field)]
      | none => []) ++
    (match error.issues? with
      | some issues => [("issues", .list (issues.map Issue.toDocument))]
      | none => []))

end QueryError

end QueryShape

import QueryShape.Issue
import QueryShape.Schema.Failure
import QueryShape.Text.Address
import QueryShape.Text.Format

/-!
# Validators of models

The validator of a model checks the columns of an object and reports every problem it finds, column
by column in the order of their declaration.  An object without problems is reduced to its columns:
relations and names that the model does not have are left out.
-/

namespace QueryShape

open Json (Value Number)

/-- Takes a value to the part of it that is accepted, or to the issues with it. -/
abbrev Validator := Value → Except Issues Value

abbrev Validators := Keyed Validator

/-- A column of a model, ready for checking. -/
structure Column where
  name : String
  field : Field
  /-- The values of the enumeration that the column draws from. -/
  values : List String
  /-- The test for texts that the pattern of the field describes. -/
  pattern : Option (String → Bool)

namespace Column

/-- A pattern has to describe the whole of a text. -/
def wholeText (pattern : String) : String :=
  "^(?:" ++ pattern ++ ")$"

def typeIssue (path : Path) (expected : String) (found : Value) : Issue where
  path := path
  message := "expected " ++ expected ++ ", received " ++ found.typeName
  code := .invalidType
  constraint := none

def formatIssue (path : Path) (code : IssueCode) (message : String) : Issue where
  path := path
  message := message
  code := code
  constraint := none

def limitIssue (path : Path) (code : IssueCode) (message constraint : String) : Issue where
  path := path
  message := message
  code := code
  constraint := some constraint

/-- The issue, if there is a limit and it is violated. -/
def whenViolated {α : Type} (limit : Option α) (violated : α → Bool) (issue : α → Issue) : Issues :=
  match limit with
  | some limit => if violated limit then [issue limit] else []
  | none => []

def textIssues (column : Column) (path : Path) (text : String) : Issues :=
  let field := column.field
  whenViolated field.minLength (text.length < ·) (fun least =>
    limitIssue path .minLength s!"must be at least {least} characters" (toString least)) ++
  whenViolated field.maxLength (· < text.length) (fun most =>
    limitIssue path .maxLength s!"must be at most {most} characters" (toString most)) ++
  (if field.email && !Text.isEmail text.toList then
    [formatIssue path .invalidEmail "must be a valid email address"] else []) ++
  (if field.url && !Text.isUrl text.toList then
    [formatIssue path .invalidUrl "must be a valid URL"] else []) ++
  whenViolated column.pattern (!· text) (fun _ =>
    limitIssue path .patternMismatch "does not match the required pattern"
      (wholeText (field.pattern.getD "")))

def rangeIssues (column : Column) (path : Path) (value : Double) : Issues :=
  whenViolated column.field.min (value.lt ·) (fun least =>
    limitIssue path .min ("must be at least " ++ least.plainText) least.plainText) ++
  whenViolated column.field.max (·.lt value) (fun most =>
    limitIssue path .max ("must be at most " ++ most.plainText) most.plainText)

/-- The range of a number in a text.  A text without a numeric value is in every range. -/
def textRangeIssues (column : Column) (path : Path) (text : String) : Issues :=
  match Text.decimalValue? text.toList with
  | some value => column.rangeIssues path value
  | none => []

/-- The values of an enumeration, each once and in increasing order. -/
def sortedValues (values : List String) : List String :=
  Keyed.keys (values.foldl (fun sorted value => Keyed.insertSorted sorted value ()) [])

def enumIssues (column : Column) (path : Path) (value : Value) : Issues :=
  let known := match value with
    | .string text => column.values.contains text
    | _ => false
  if known then []
  else [limitIssue path .invalidEnumValue "must be one of the enum values"
    ("|".intercalate (sortedValues column.values))]

/-- The issues with a value that is present. -/
def valueIssues (column : Column) (path : Path) (value : Value) : Issues :=
  match column.field.type, value with
  | .string, .string text => column.textIssues path text
  | .string, value => [typeIssue path "string" value]
  | .int, .number (.integer number) => column.rangeIssues path (Double.ofInt number)
  | .int, value => [typeIssue path "integer" value]
  | .float, .number number => column.rangeIssues path number.toDouble
  | .float, value => [typeIssue path "number" value]
  | .boolean, .bool _ => []
  | .boolean, value => [typeIssue path "boolean" value]
  | .dateTime, .string text =>
      if Text.isTimestamp text.toList then []
      else [formatIssue path .invalidFormat "must be an RFC 3339 timestamp"]
  | .dateTime, value => [typeIssue path "timestamp string" value]
  | .bigInt, .number (.integer number) => column.rangeIssues path (Double.ofInt number)
  | .bigInt, .string text =>
      if Text.isInteger text.toList then column.textRangeIssues path text
      else [formatIssue path .invalidFormat "must be a integer string"]
  | .bigInt, value => [typeIssue path "integer" value]
  | .decimal, .number number => column.rangeIssues path number.toDouble
  | .decimal, .string text =>
      if Text.isDecimal text.toList then column.textRangeIssues path text
      else [formatIssue path .invalidFormat "must be a decimal string"]
  | .decimal, value => [typeIssue path "decimal" value]
  | .bytes, .string _ => []
  | .bytes, value => [typeIssue path "byte string" value]
  | .json, _ => []
  | .enumeration, value => column.enumIssues path value
  | .relation, _ => []

/-- The issues with the value of the column in an object, which may be missing. -/
def issues (column : Column) (value : Option Value) : Issues :=
  let path : Path := [.field column.name]
  match value with
  | none | some .null =>
      if column.field.optional then [] else [formatIssue path .required "is required"]
  | some value =>
      if column.field.list then
        match value with
        | .array items =>
            items.zipIdx.flatMap fun (item, index) =>
              column.valueIssues (path.child (.index index)) item
        | value => [typeIssue path "array" value]
      else
        column.valueIssues path value

/-- The values that a field may take, if its type is an enumeration that the schema has. -/
def valuesOf (schema : Schema) (field : Field) : List String :=
  if field.type = .enumeration then (field.target.bind schema.enumValues?).getD [] else []

/-- A column, if its pattern is one. -/
def ofField (engine : PatternEngine) (schema : Schema) (model name : String) (field : Field) :
    Except SchemaError Column :=
  let column (pattern : Option (String → Bool)) : Column :=
    { name, field, values := valuesOf schema field, pattern }
  match field.pattern with
  | none => .ok (column none)
  | some text =>
      match engine.compile (wholeText text) with
      | .ok test => .ok (column (some test))
      | .error explanation => .error (.invalidPattern model name explanation)

end Column

/-- The columns of a model, ready for checking. -/
structure ModelValidator where
  columns : List Column

namespace ModelValidator

def ofModel (engine : PatternEngine) (schema : Schema) (name : String) :
    Except SchemaError ModelValidator :=
  match schema.model? name with
  | none => .error (.unknownModel name)
  | some model => do
      let columns ← model.columns.mapM fun (field, definition) =>
        Column.ofField engine schema name field definition
      return { columns }

def columnNames (validator : ModelValidator) : List String :=
  validator.columns.map Column.name

def issues (validator : ModelValidator) (entries : Keyed Value) : Issues :=
  validator.columns.flatMap fun column => column.issues (entries.get? column.name)

/-- The columns of an object without issues. -/
def validate (validator : ModelValidator) : Validator
  | .object entries =>
      match validator.issues entries with
      | [] => .ok (.object (entries.filter fun (name, _) => validator.columnNames.contains name))
      | issues => .error issues
  | raw => .error [Column.typeIssue .root "object" raw]

end ModelValidator

/-- The validators of all models of a schema. -/
def Schema.validators (engine : PatternEngine) (schema : Schema) :
    Except SchemaError Validators :=
  schema.models.mapM fun (name, _) => do
    let validator ← ModelValidator.ofModel engine schema name
    return (name, validator.validate)

end QueryShape

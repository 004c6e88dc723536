import QueryShape.Diagnostic
import QueryShape.Schema.Basic
import QueryShape.Schema.PatternEngine

/-!
# Checking a schema

`Schema.check` lists what is wrong with a schema: enumerations without values and models without
fields as warnings, and then the errors of each field.  A field without the target that its type
asks for has no further errors.
-/

namespace QueryShape

/-- What can be wrong with a field. -/
inductive FieldFault where
  | missingTarget
  | unknownTarget (target : String)
  | misplacedStringConstraints
  | misplacedNumericConstraints
  | crossedLengths (least most : Nat)
  | invalidPattern (pattern explanation : String)
deriving DecidableEq, Repr

namespace FieldFault

/-- What the target of a field is. -/
def targetKind (type : FieldType) : String :=
  if type = .relation then "model" else "enum"

def code (type : FieldType) : FieldFault → String
  | .missingTarget => "S0001"
  | .unknownTarget _ => if type = .relation then "S0002" else "S0003"
  | .misplacedStringConstraints | .misplacedNumericConstraints | .crossedLengths _ _ => "S0010"
  | .invalidPattern _ _ => "S0011"

def title (type : FieldType) : FieldFault → String
  | .missingTarget => targetKind type ++ " field without a `target`"
  | .unknownTarget target => "unknown " ++ targetKind type ++ s!" `{target}`"
  | .misplacedStringConstraints => "string constraints on a non-string field"
  | .misplacedNumericConstraints => "numeric constraints on a non-numeric field"
  | .crossedLengths least most => s!"minLength {least} exceeds maxLength {most}"
  | .invalidPattern pattern _ => s!"invalid pattern `{pattern}`"

def message? : FieldFault → Option String
  | .invalidPattern _ explanation => some explanation
  | _ => none

def toDiagnostic (model name : String) (type : FieldType) (fault : FieldFault) : Diagnostic where
  severity := .error
  code := fault.code type
  title := fault.title type
  message := fault.message?
  location := { item := some model, field := some name }

end FieldFault

namespace Schema

def knowsTarget (schema : Schema) (type : FieldType) (target : String) : Bool :=
  if type = .relation then (schema.model? target).isSome else (schema.enumValues? target).isSome

def lengthFaults (field : Field) : List FieldFault :=
  match field.minLength, field.maxLength with
  | some least, some most => if most < least then [.crossedLengths least most] else []
  | _, _ => []

def patternFaults (engine : PatternEngine) (field : Field) : List FieldFault :=
  match field.pattern with
  | none => []
  | some text =>
      match engine.compile text with
      | .ok _ => []
      | .error explanation => [.invalidPattern text explanation]

/-- The faults of the constraints of a field, in the order in which they are reported. -/
def constraintFaults (engine : PatternEngine) (field : Field) : List FieldFault :=
  (if field.hasStringConstraints && !field.type.isTextual then [.misplacedStringConstraints]
    else []) ++
  (if field.hasNumericConstraints && !field.type.isNumeric then [.misplacedNumericConstraints]
    else []) ++
  lengthFaults field ++ patternFaults engine field

def fieldFaults (engine : PatternEngine) (schema : Schema) (field : Field) : List FieldFault :=
  if field.type = .relation ∨ field.type = .enumeration then
    match field.target with
    | none => [.missingTarget]
    | some target =>
        (if schema.knowsTarget field.type target then [] else [.unknownTarget target]) ++
          constraintFaults engine field
  else
    constraintFaults engine field

def enumDiagnostics (name : String) (values : List String) : Diagnostics :=
  if values.isEmpty then
    [{ severity := .warning, code := "S0020", title := s!"enum `{name}` has no values",
       location := { item := some name } }]
  else []

def fieldDiagnostics (engine : PatternEngine) (schema : Schema) (model name : String)
    (field : Field) : Diagnostics :=
  (schema.fieldFaults engine field).map (·.toDiagnostic model name field.type)

def modelDiagnostics (engine : PatternEngine) (schema : Schema) (name : String) (model : Model) :
    Diagnostics :=
  (if model.fields.isEmpty then
    [{ severity := .warning, code := "S0021", title := s!"model `{name}` has no fields",
       location := { item := some name } }]
  else []) ++
  model.fields.flatMap fun (fieldName, field) => schema.fieldDiagnostics engine name fieldName field

def check (engine : PatternEngine) (schema : Schema) : Diagnostics :=
  (schema.enums.flatMap fun (name, values) => enumDiagnostics name values) ++
    schema.models.flatMap fun (name, model) => schema.modelDiagnostics engine name model

end Schema

end QueryShape

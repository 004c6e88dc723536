import QueryShape.Keyed
import QueryShape.Number.Double

/-!
# Schemas

A schema names the models of a database, with their fields in the order of declaration, and the
enumerations that fields draw their values from.  A field of a model is a column or a relation to
another model.
-/

namespace QueryShape

inductive FieldType where
  | string
  | int
  | float
  | boolean
  | dateTime
  | bigInt
  | decimal
  | bytes
  | json
  | enumeration
  | relation
deriving DecidableEq, Repr

namespace FieldType

/-- Whether length, address and pattern constraints apply. -/
def isTextual (type : FieldType) : Bool :=
  type = .string

/-- Whether bounds apply. -/
def isNumeric : FieldType → Bool
  | .int | .float | .bigInt | .decimal => true
  | _ => false

end FieldType

/-- A field of a model.  The target is the model of a relation or the enumeration of its values. -/
structure Field where
  type : FieldType
  target : Option String := none
  optional : Bool := false
  list : Bool := false
  minLength : Option Nat := none
  maxLength : Option Nat := none
  email : Bool := false
  url : Bool := false
  pattern : Option String := none
  min : Option Double := none
  max : Option Double := none
deriving DecidableEq, Repr

namespace Field

def ofType (type : FieldType) : Field :=
  { type }

def relationTo (model : String) : Field :=
  { type := .relation, target := some model }

def valueOf (enumeration : String) : Field :=
  { type := .enumeration, target := some enumeration }

def isRelation (field : Field) : Bool :=
  field.type = .relation

def hasStringConstraints (field : Field) : Bool :=
  field.minLength.isSome || field.maxLength.isSome || field.email || field.url ||
    field.pattern.isSome

def hasNumericConstraints (field : Field) : Bool :=
  field.min.isSome || field.max.isSome

end Field

/-- A model, none of whose fields is declared twice. -/
@[ext]
structure Model where
  fields : Keyed Field := []
  distinct : fields.Distinct := by decide
deriving DecidableEq, Repr

namespace Model

def withField (model : Model) (name : String) (field : Field) : Model :=
  { fields := model.fields.insert name field, distinct := model.distinct.insert name field }

def relations (model : Model) : Keyed Field :=
  model.fields.filter fun (_, field) => field.isRelation

def columns (model : Model) : Keyed Field :=
  model.fields.filter fun (_, field) => !field.isRelation

end Model

/-- The models and enumerations of a schema, none of which is declared twice. -/
@[ext]
structure Schema where
  enums : Keyed (List String) := []
  models : Keyed Model := []
  distinctEnums : enums.Distinct := by decide
  distinctModels : models.Distinct := by decide
deriving DecidableEq, Repr

namespace Schema

def empty : Schema := {}

def withEnum (schema : Schema) (name : String) (values : List String) : Schema :=
  { schema with
    enums := schema.enums.insert name values
    distinctEnums := schema.distinctEnums.insert name values }

def withModel (schema : Schema) (name : String) (model : Model) : Schema :=
  { schema with
    models := schema.models.insert name model
    distinctModels := schema.distinctModels.insert name model }

def model? (schema : Schema) (name : String) : Option Model :=
  schema.models.get? name

def enumValues? (schema : Schema) (name : String) : Option (List String) :=
  schema.enums.get? name

end Schema

end QueryShape

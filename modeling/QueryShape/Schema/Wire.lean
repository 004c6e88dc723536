import QueryShape.Json.Value
import QueryShape.Schema.Basic

/-!
# Schemas as documents

A field is written with its type and its flags; its target, lengths, pattern and bounds are written
only if they are set.  Models, fields and enumerations keep their order, and a name that the format
does not know is refused at every level.
-/

namespace QueryShape

open Json (Document Reading RecordForm)

namespace FieldType

def text : FieldType → String
  | .string => "string"
  | .int => "int"
  | .float => "float"
  | .boolean => "boolean"
  | .dateTime => "dateTime"
  | .bigInt => "bigInt"
  | .decimal => "decimal"
  | .bytes => "bytes"
  | .json => "json"
  | .enumeration => "enum"
  | .relation => "relation"

def all : List FieldType :=
  [.string, .int, .float, .boolean, .dateTime, .bigInt, .decimal, .bytes, .json, .enumeration,
    .relation]

def named : Keyed FieldType :=
  all.map fun type => (type.text, type)

end FieldType

namespace Field

def members (field : Field) : Keyed Document :=
  [("type", .string field.type.text)] ++
  Document.memberIfSet "target" .string field.target ++
  [("optional", .bool field.optional), ("list", .bool field.list)] ++
  Document.memberIfSet "minLength" (fun (length : Nat) => .integer length) field.minLength ++
  Document.memberIfSet "maxLength" (fun (length : Nat) => .integer length) field.maxLength ++
  [("email", .bool field.email), ("url", .bool field.url)] ++
  Document.memberIfSet "pattern" .string field.pattern ++
  Document.memberIfSet "min" Document.double field.min ++
  Document.memberIfSet "max" Document.double field.max

def toDocument (field : Field) : Document :=
  .record field.members

/-- The attributes of a field that have been read. -/
structure Draft where
  type : Option FieldType := none
  target : Option (Option String) := none
  optional : Option Bool := none
  list : Option Bool := none
  minLength : Option (Option Nat) := none
  maxLength : Option (Option Nat) := none
  email : Option Bool := none
  url : Option Bool := none
  pattern : Option (Option String) := none
  min : Option (Option Double) := none
  max : Option (Option Double) := none

def form : RecordForm where
  title := "struct FieldDef"
  fields := [("type", false), ("target", true), ("optional", true), ("list", true),
    ("minLength", true), ("maxLength", true), ("email", true), ("url", true), ("pattern", true),
    ("min", true), ("max", true)]
  exact := true

def Draft.step (room : Nat) (draft : Draft) (name : String) (value : Document) : Reading Draft := do
  let optional {α : Type} (field : Option (Option α)) (read : Document → Reading α) :=
    Json.readOnce field name (value.readOptional read)
  let flag (field : Option Bool) := Json.readOnce field name value.readBool
  match name with
  | "type" =>
      return { draft with
        type := ← Json.readOnce draft.type name (value.readVariant FieldType.named room) }
  | "target" => return { draft with target := ← optional draft.target Document.readString }
  | "optional" => return { draft with optional := ← flag draft.optional }
  | "list" => return { draft with list := ← flag draft.list }
  | "minLength" => return { draft with minLength := ← optional draft.minLength Document.readNat }
  | "maxLength" => return { draft with maxLength := ← optional draft.maxLength Document.readNat }
  | "email" => return { draft with email := ← flag draft.email }
  | "url" => return { draft with url := ← flag draft.url }
  | "pattern" => return { draft with pattern := ← optional draft.pattern Document.readString }
  | "min" => return { draft with min := ← optional draft.min Document.readDouble }
  | _ => return { draft with max := ← optional draft.max Document.readDouble }

def Draft.finish (draft : Draft) : Reading Field := do
  let type ← Json.required draft.type "type"
  return {
    type
    target := draft.target.join
    optional := draft.optional.getD false
    list := draft.list.getD false
    minLength := draft.minLength.join
    maxLength := draft.maxLength.join
    email := draft.email.getD false
    url := draft.url.getD false
    pattern := draft.pattern.join
    min := draft.min.join
    max := draft.max.join }

def read (room : Nat) (document : Document) : Reading Field := do
  (← form.read Draft.step {} room document).finish

end Field

namespace Model

def toDocument (model : Model) : Document :=
  .record [("fields", .record (model.fields.map fun (name, field) => (name, field.toDocument)))]

def form : RecordForm where
  title := "struct ModelDef"
  fields := [("fields", true)]
  exact := true

def read (room : Nat) (document : Document) : Reading Model := do
  let fields ← form.read
    (fun room draft name value => Json.readOnce draft name (value.readKeyed Field.read room))
    none room document
  let fields := fields.getD .empty
  return { fields := fields.entries, distinct := fields.distinct }

end Model

namespace Schema

def valuesDocument (values : List String) : Document :=
  .list (values.map .string)

def enumsDocument (enums : Keyed (List String)) : Document :=
  .record (enums.map fun (name, values) => (name, valuesDocument values))

def modelsDocument (models : Keyed Model) : Document :=
  .record (models.map fun (name, model) => (name, model.toDocument))

def toDocument (schema : Schema) : Document :=
  .record [("enums", enumsDocument schema.enums), ("models", modelsDocument schema.models)]

/-- The parts of a schema that have been read. -/
structure Draft where
  enums : Option (Dictionary (List String)) := none
  models : Option (Dictionary Model) := none

def form : RecordForm where
  title := "struct SchemaDocument"
  fields := [("enums", true), ("models", true)]
  exact := true

def Draft.step (room : Nat) (draft : Draft) (name : String) (value : Document) : Reading Draft :=
  match name with
  | "enums" =>
      return { draft with
        enums := ← Json.readOnce draft.enums name
          (value.readKeyed (fun room values => values.readList (fun _ => Document.readString) room)
            room) }
  | _ =>
      return { draft with
        models := ← Json.readOnce draft.models name (value.readKeyed Model.read room) }

def read (room : Nat) (document : Document) : Reading Schema := do
  let draft ← form.read Draft.step {} room document
  let enums := draft.enums.getD .empty
  let models := draft.models.getD .empty
  return {
    enums := enums.entries
    models := models.entries
    distinctEnums := enums.distinct
    distinctModels := models.distinct }

def ofText (text : String) : Reading Schema :=
  Json.readText read text

end Schema

end QueryShape

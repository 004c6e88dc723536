import QueryShape.Path
import QueryShape.Relation.Graph

/-!
# Places in data

A path leads from the root of a value to the value at its end, through fields of objects and
positions of arrays.  Along the relations of an entity it leads to another entity: a field is the
name of a relation, and a position stays among the records of the relation it is reached by.
-/

namespace QueryShape

namespace Json.Value

/-- The value at the end of a path, if the path leads to one. -/
def at? : Value → Path → Option Value
  | value, [] => some value
  | .object entries, .field name :: rest =>
      (Keyed.get? entries name).bind fun value => value.at? rest
  | .array items, .index position :: rest => items[position]?.bind fun value => value.at? rest
  | _, _ :: _ => none

@[simp]
theorem at?_nil (value : Value) : value.at? [] = some value := by
  cases value <;> rfl

@[simp]
theorem at?_object_field (entries : Keyed Value) (name : String) (rest : Path) :
    (object entries).at? (.field name :: rest) =
      (Keyed.get? entries name).bind fun value => value.at? rest := rfl

@[simp]
theorem at?_array_index (items : List Value) (position : Nat) (rest : Path) :
    (array items).at? (.index position :: rest) =
      items[position]?.bind fun value => value.at? rest := rfl

/-- A path in two parts leads on from where its first part leads to. -/
theorem at?_append (value : Value) (first second : Path) :
    value.at? (first ++ second) = (value.at? first).bind fun reached => reached.at? second := by
  induction first generalizing value with
  | nil => simp
  | cons segment rest ih =>
      cases segment with
      | field name =>
          cases value with
          | object entries => cases hget : Keyed.get? entries name <;> simp [hget, ih]
          | _ => rfl
      | index position =>
          cases value with
          | array items => cases hget : items[position]? <;> simp [hget, ih]
          | _ => rfl

end Json.Value

namespace RelationMap

/-- The entity that the fields of a path lead to, each the name of a relation. -/
def entityAt? : RelationMap → String → Path → Option String
  | _, entity, [] => some entity
  | relations, entity, .index _ :: rest => entityAt? relations entity rest
  | relations, _, .field name :: rest =>
      (relations.get? name).bind fun relation => entityAt? relation.nested relation.target rest

end RelationMap

end QueryShape

import QueryShape.Relation.Graph
import QueryShape.Schema.Basic

/-!
# The relation graph of a schema

Each relation field whose target is a model of the schema becomes a relation, with the relations of
its target nested in it.  A step into a relation uses up one level of depth, so the nesting ends
also where models refer to each other in a circle.
-/

namespace QueryShape.Schema

def defaultDepth : Nat := 3

/-- The model that a relation field leads to, if the schema has it. -/
def relationTarget? (schema : Schema) (field : Field) : Option String :=
  field.target.filter fun target => (schema.model? target).isSome

/-- The relation of a field, with nothing nested in it.  A list may be empty, so it is never
optional. -/
def relationOf (field : Field) (target : String) : Relation :=
  .mk target (if field.list then .many else .one) (field.optional && !field.list) none

/-- The relations of a model down to a number of levels. -/
def relationsWithin (schema : Schema) : Nat → String → RelationMap
  | 0, _ => []
  | depth + 1, name =>
      match schema.model? name with
      | none => []
      | some model =>
          Keyed.restrict (fun _ field => (schema.relationTarget? field).map fun target =>
            (relationOf field target).withNested (schema.relationsWithin depth target))
            model.relations

/-- The relations of a model are made field by field. -/
theorem relationsWithin_of_model? {schema : Schema} {entity : String} {model : Model}
    (hmodel : schema.model? entity = some model) (depth : Nat) :
    schema.relationsWithin (depth + 1) entity =
      Keyed.restrict (fun _ field => (schema.relationTarget? field).map fun target =>
        (relationOf field target).withNested (schema.relationsWithin depth target))
        model.relations := by
  rw [relationsWithin, hmodel]

theorem wellFormed_relationsWithin (schema : Schema) (depth : Nat) (entity : String) :
    (schema.relationsWithin depth entity).WellFormed := by
  induction depth generalizing entity with
  | zero => exact RelationMap.wellFormed_nil
  | succ depth ih =>
      cases hmodel : schema.model? entity with
      | none =>
          rw [relationsWithin, hmodel]
          exact RelationMap.wellFormed_nil
      | some model =>
          have hfields := model.distinct.filter fun entry => entry.2.isRelation
          rw [relationsWithin_of_model? hmodel]
          refine .mk (hfields.restrict _) ?_
          intro name relation hmem
          obtain ⟨field, -, hfield⟩ := Keyed.mem_restrict.mp hmem
          obtain ⟨target, -, rfl⟩ := Option.map_eq_some_iff.mp hfield
          rw [Relation.nested_withNested]
          exact ih target

def relationTable (schema : Schema) (depth : Nat) (entity : String) : RelationTable :=
  ⟨schema.relationsWithin depth entity, schema.wellFormed_relationsWithin depth entity⟩

/-- The relations of every model, down to at least one level. -/
def relationGraph (schema : Schema) (maxDepth : Nat) : RelationGraph where
  entries := schema.models.map fun entry =>
    (entry.1, schema.relationTable (max 1 maxDepth) entry.1)
  distinct := schema.distinctModels.map fun entity _ =>
    schema.relationTable (max 1 maxDepth) entity

end QueryShape.Schema

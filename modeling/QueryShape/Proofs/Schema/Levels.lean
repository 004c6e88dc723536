import QueryShape.Proofs.Schema.Describes

/-!
# Relations level by level

The relations of a model down to some level are its relations with nothing nested in them, each then
filled with the relations of its target down to one level less.  What a relation is on its own, and
which model it leads to, does not depend on the number of levels.
-/

namespace QueryShape

theorem Relation.withNested_withNested (relation : Relation) (first second : RelationMap) :
    (relation.withNested first).withNested second = relation.withNested second := by
  cases relation
  cases first <;> cases second <;> rfl

namespace Schema

theorem relationsWithin_succ (schema : Schema) (depth : Nat) (entity : String) :
    schema.relationsWithin (depth + 1) entity =
      (schema.relationsWithin 1 entity).map fun entry =>
        (entry.1, entry.2.withNested (schema.relationsWithin depth entry.2.target)) := by
  rw [relationsWithin, relationsWithin]
  cases schema.model? entity with
  | none => rfl
  | some model =>
      simp only [Keyed.restrict, List.map_filterMap, Option.map_map, Function.comp_def,
        Relation.target_withNested, Relation.withNested_withNested]
      rfl

/-- A relation of a model is the same on every level, but for what is nested in it. -/
theorem get?_relationsWithin_succ (schema : Schema) (depth : Nat) (entity name : String) :
    (schema.relationsWithin (depth + 1) entity).get? name =
      ((schema.relationsWithin 1 entity).get? name).map fun relation =>
        relation.withNested (schema.relationsWithin depth relation.target) := by
  rw [relationsWithin_succ]
  exact Keyed.get?_map (fun _ (relation : Relation) =>
    relation.withNested (schema.relationsWithin depth relation.target)) _ name

/-- Every model is in the relation graph, with its relations down to at least one level. -/
theorem get?_relationGraph (schema : Schema) (maxDepth : Nat) (entity : String) :
    (schema.relationGraph maxDepth).get? entity =
      (schema.model? entity).map fun _ => schema.relationTable (max 1 maxDepth) entity :=
  Keyed.get?_map (fun name _ => schema.relationTable (max 1 maxDepth) name) schema.models entity

theorem keys_relationGraph (schema : Schema) (maxDepth : Nat) :
    (schema.relationGraph maxDepth).keys = schema.models.keys := by
  simp [relationGraph, Dictionary.keys, Keyed.keys]

end Schema

end QueryShape

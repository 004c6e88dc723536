import QueryShape.Proofs.Schema.Accepts
import QueryShape.Schema.Relations

/-!
# Relations that belong to a schema

The relations of a model lead to models of the schema, at every depth, and none of them has the name
of a column.  This is all that reshaping needs to know of a relation map: that it was made from the
schema, and down to which level, does not matter.
-/

namespace QueryShape

namespace Schema

/-- The entity is a model of the schema, none of the relations has the name of a column of it, and
each leads to such an entity again. -/
inductive Describes (schema : Schema) : String → RelationMap → Prop
  | intro {entity : String} {relations : RelationMap} (known : (schema.model? entity).isSome)
      (separate : ∀ name relation, relations.get? name = some relation →
        name ∉ schema.columnNames entity)
      (nested : ∀ name relation, relations.get? name = some relation →
        schema.Describes relation.target relation.nested) :
      schema.Describes entity relations

theorem Describes.known {schema : Schema} {entity : String} {relations : RelationMap}
    (hdescribes : schema.Describes entity relations) : (schema.model? entity).isSome := by
  cases hdescribes
  assumption

theorem Describes.separate {schema : Schema} {entity : String} {relations : RelationMap}
    (hdescribes : schema.Describes entity relations) {name : String} {relation : Relation}
    (hrelation : relations.get? name = some relation) : name ∉ schema.columnNames entity := by
  cases hdescribes with
  | intro _ separate _ => exact separate name relation hrelation

theorem Describes.get?_eq_none_of_column {schema : Schema} {entity : String}
    {relations : RelationMap} (hdescribes : schema.Describes entity relations) {name : String}
    (hname : name ∈ schema.columnNames entity) : relations.get? name = none := by
  cases hrelation : relations.get? name with
  | none => rfl
  | some relation => exact absurd hname (hdescribes.separate hrelation)

theorem Describes.nested {schema : Schema} {entity : String} {relations : RelationMap}
    (hdescribes : schema.Describes entity relations) {name : String} {relation : Relation}
    (hrelation : relations.get? name = some relation) :
    schema.Describes relation.target relation.nested := by
  cases hdescribes with
  | intro _ _ nested => exact nested name relation hrelation

/-- A relation of a model comes from a relation field whose target is a model. -/
theorem exists_field_of_get?_relationsWithin {schema : Schema} {depth : Nat} {entity name : String}
    {relation : Relation}
    (hrelation : (schema.relationsWithin (depth + 1) entity).get? name = some relation) :
    ∃ model field target, schema.model? entity = some model ∧ (name, field) ∈ model.relations ∧
      schema.relationTarget? field = some target ∧
      relation = (relationOf field target).withNested (schema.relationsWithin depth target) := by
  have hmem := Keyed.mem_of_get?_eq_some hrelation
  unfold relationsWithin at hmem
  split at hmem
  · simp at hmem
  · next model hmodel =>
      obtain ⟨field, hfield, hmade⟩ := Keyed.mem_restrict.mp hmem
      obtain ⟨target, htarget, rfl⟩ := Option.map_eq_some_iff.mp hmade
      exact ⟨model, field, target, hmodel, hfield, htarget, rfl⟩

theorem isSome_of_relationTarget? {schema : Schema} {field : Field} {target : String}
    (htarget : schema.relationTarget? field = some target) : (schema.model? target).isSome := by
  unfold relationTarget? at htarget
  exact (Option.filter_eq_some_iff.mp htarget).2

/-- No relation field of a model has the name of a column. -/
theorem not_mem_columnNames {schema : Schema} {entity name : String} {model : Model}
    {field : Field}
    (hmodel : schema.model? entity = some model) (hfield : (name, field) ∈ model.relations) :
    name ∉ schema.columnNames entity := by
  simp only [columnNames, hmodel]
  intro hname
  obtain ⟨⟨column, other⟩, hcolumn, rfl⟩ := List.mem_map.mp hname
  obtain ⟨hfield, hrelation⟩ := List.mem_filter.mp hfield
  obtain ⟨hother, hnot⟩ := List.mem_filter.mp hcolumn
  have heq : some field = some other :=
    (Keyed.get?_eq_some_of_mem model.distinct hfield).symm.trans
      (Keyed.get?_eq_some_of_mem model.distinct hother)
  cases heq
  simp_all

theorem describes_relationsWithin (schema : Schema) (depth : Nat) {entity : String}
    (hentity : (schema.model? entity).isSome) :
    schema.Describes entity (schema.relationsWithin depth entity) := by
  induction depth generalizing entity with
  | zero => exact .intro hentity (by simp [relationsWithin]) (by simp [relationsWithin])
  | succ depth ih =>
      refine .intro hentity ?_ ?_
      · intro name relation hrelation
        obtain ⟨model, field, target, hmodel, hfield, -, -⟩ :=
          exists_field_of_get?_relationsWithin hrelation
        exact not_mem_columnNames hmodel hfield
      · intro name relation hrelation
        obtain ⟨model, field, target, -, -, htarget, rfl⟩ :=
          exists_field_of_get?_relationsWithin hrelation
        rw [Relation.target_withNested, Relation.nested_withNested]
        exact ih (isSome_of_relationTarget? htarget)

/-- Users with their posts, and posts with the user who wrote them, who may be gone. -/
def blog : Schema :=
  let user : Model := {
    fields := [("id", .ofType .string), ("posts", { Field.relationTo "post" with list := true })] }
  let post : Model := {
    fields := [("title", .ofType .string),
      ("author", { Field.relationTo "user" with optional := true })] }
  (empty.withModel "user" user).withModel "post" post

end Schema

end QueryShape

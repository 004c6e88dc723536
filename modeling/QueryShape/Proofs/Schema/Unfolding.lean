import QueryShape.Proofs.Schema.Levels

/-!
# The relation graph as an unfolding

From each model, the relation graph is the schema unfolded along its relation fields and cut at a
number of levels.  A sequence of names leads through the nested relations of the graph exactly if it
leads from model to model in the schema and is not longer than the number of levels.  This holds
whether or not the models refer to each other in a circle, and a field whose target the schema does
not have leads nowhere.
-/

namespace QueryShape

namespace RelationMap

/-- The relation at the end of a sequence of names, each of the others leading into the relations
that are nested. -/
def along? : RelationMap → List String → Option Relation
  | _, [] => none
  | relations, [name] => relations.get? name
  | relations, name :: next :: rest =>
      (relations.get? name).bind fun relation => along? relation.nested (next :: rest)

theorem along?_empty (names : List String) : along? [] names = none := by
  match names with
  | [] => rfl
  | [name] => rfl
  | name :: next :: rest => rfl

end RelationMap

/-- The relation that a sequence of names leads to from an entity. -/
def RelationGraph.along? (graph : RelationGraph) (entity : String) (names : List String) :
    Option Relation :=
  (graph.get? entity).bind fun relations => RelationMap.along? relations.val names

namespace Schema

/-- A model declares a relation field by a name, and the field leads to a model. -/
structure FieldLeads (schema : Schema) (entity name : String) (field : Field)
    (target : String) : Prop where
  declared : ∃ model, schema.model? entity = some model ∧ (name, field) ∈ model.fields
  relation : field.isRelation = true
  aimed : field.target = some target
  known : (schema.model? target).isSome

/-- A sequence of names leads from model to model; the last of them names a field and leads to its
target. -/
inductive LeadsAlong (schema : Schema) : String → List String → Field → String → Prop
  | last {entity name target : String} {field : Field}
      (leads : schema.FieldLeads entity name field target) :
      schema.LeadsAlong entity [name] field target
  | step {entity name middle target : String} {first field : Field} {rest : List String}
      (leads : schema.FieldLeads entity name first middle)
      (onward : schema.LeadsAlong middle rest field target) :
      schema.LeadsAlong entity (name :: rest) field target

/-- The relation fields of a model that lead to a model, in the order of declaration. -/
def relationNames (schema : Schema) (entity : String) : List String :=
  match schema.model? entity with
  | some model =>
      Keyed.keys (model.fields.filter fun (_, field) =>
        field.isRelation && (schema.relationTarget? field).isSome)
  | none => []

variable {schema : Schema}

theorem relationTarget?_eq_some_iff {field : Field} {target : String} :
    schema.relationTarget? field = some target ↔
      field.target = some target ∧ (schema.model? target).isSome := by
  rw [relationTarget?, Option.filter_eq_some_iff]

theorem not_leadsAlong_nil {entity target : String} {field : Field} :
    ¬ schema.LeadsAlong entity [] field target := by
  intro hleads
  cases hleads

theorem leadsAlong_singleton {entity name target : String} {field : Field} :
    schema.LeadsAlong entity [name] field target ↔ schema.FieldLeads entity name field target := by
  constructor
  · intro hleads
    cases hleads with
    | last leads => exact leads
    | step _ onward => exact absurd onward not_leadsAlong_nil
  · exact .last

theorem leadsAlong_cons {entity name next target : String} {rest : List String} {field : Field} :
    schema.LeadsAlong entity (name :: next :: rest) field target ↔
      ∃ first middle, schema.FieldLeads entity name first middle ∧
        schema.LeadsAlong middle (next :: rest) field target := by
  constructor
  · intro hleads
    cases hleads with
    | step leads onward => exact ⟨_, _, leads, onward⟩
  · rintro ⟨first, middle, hfirst, hrest⟩
    exact .step hfirst hrest

theorem LeadsAlong.known {entity target : String} {names : List String} {field : Field}
    (hleads : schema.LeadsAlong entity names field target) : (schema.model? target).isSome := by
  induction hleads with
  | last leads => exact leads.known
  | step _ _ ih => exact ih

/-! ## One level -/

theorem keys_relationsWithin (schema : Schema) (levels : Nat) (entity : String) :
    (schema.relationsWithin (levels + 1) entity).keys = schema.relationNames entity := by
  cases hmodel : schema.model? entity with
  | none =>
      rw [relationsWithin, relationNames, hmodel]
      rfl
  | some model =>
      rw [relationsWithin_of_model? hmodel, relationNames, hmodel, Keyed.keys_restrict,
        Model.relations, List.filter_filter]
      simp only [Option.isSome_map, Bool.and_comm]

/-- The relations of a model are its relation fields that lead to a model. -/
theorem get?_relationsWithin_eq_some_iff {levels : Nat} {entity name : String}
    {relation : Relation} :
    (schema.relationsWithin (levels + 1) entity).get? name = some relation ↔
      ∃ field target, schema.FieldLeads entity name field target ∧
        relation = (relationOf field target).withNested (schema.relationsWithin levels target) := by
  constructor
  · intro hrelation
    obtain ⟨model, field, target, hmodel, hfield, htarget, hmade⟩ :=
      exists_field_of_get?_relationsWithin hrelation
    have hdeclared := List.mem_filter.mp hfield
    have hknown := relationTarget?_eq_some_iff.mp htarget
    exact ⟨field, target,
      ⟨⟨model, hmodel, hdeclared.1⟩, hdeclared.2, hknown.1, hknown.2⟩, hmade⟩
  · rintro ⟨field, target, hleads, hmade⟩
    obtain ⟨model, hmodel, hfield⟩ := hleads.declared
    have hfields : Keyed.Distinct model.relations :=
      model.distinct.filter fun entry => entry.2.isRelation
    have hdeclared : Keyed.get? model.relations name = some field :=
      Keyed.get?_eq_some_of_mem hfields (List.mem_filter.mpr ⟨hfield, hleads.relation⟩)
    have htarget := relationTarget?_eq_some_iff.mpr ⟨hleads.aimed, hleads.known⟩
    rw [relationsWithin_of_model? hmodel, Keyed.get?_restrict hfields, hdeclared,
      Option.bind_some, htarget, Option.map_some, hmade]

/-! ## All levels -/

/-- Through the relations of a model, a sequence of names leads as far as there are levels, and to
the relation of the field that it leads to in the schema. -/
theorem along?_relationsWithin_eq_some_iff {levels : Nat} {entity : String}
    {names : List String} {relation : Relation} :
    RelationMap.along? (schema.relationsWithin levels entity) names = some relation ↔
      names.length ≤ levels ∧ ∃ field target, schema.LeadsAlong entity names field target ∧
        relation = (relationOf field target).withNested
          (schema.relationsWithin (levels - names.length) target) := by
  induction names generalizing levels entity with
  | nil => simp [RelationMap.along?, not_leadsAlong_nil]
  | cons name rest ih =>
      cases levels with
      | zero => simp [relationsWithin, RelationMap.along?_empty]
      | succ levels =>
          cases rest with
          | nil =>
              rw [RelationMap.along?, get?_relationsWithin_eq_some_iff]
              simp [leadsAlong_singleton]
          | cons next rest =>
              rw [RelationMap.along?, Option.bind_eq_some_iff]
              simp only [get?_relationsWithin_eq_some_iff, leadsAlong_cons]
              rw [List.length_cons, Nat.add_le_add_iff_right, Nat.add_sub_add_right]
              constructor
              · rintro ⟨_, ⟨first, middle, hfirst, hmade⟩, hfound⟩
                rw [hmade, Relation.nested_withNested] at hfound
                obtain ⟨hlength, field, target, hrest, hrelation⟩ := ih.mp hfound
                exact ⟨hlength, field, target, ⟨first, middle, hfirst, hrest⟩, hrelation⟩
              · rintro ⟨hlength, field, target, ⟨first, middle, hfirst, hrest⟩, hrelation⟩
                refine ⟨_, ⟨first, middle, hfirst, rfl⟩, ?_⟩
                rw [Relation.nested_withNested]
                exact ih.mpr ⟨hlength, field, target, hrest, hrelation⟩

end Schema

namespace Relation

/-- The relation that a field becomes, with a number of levels left below it. -/
structure MadeFrom (schema : Schema) (field : Field) (target : String) (levels : Nat)
    (relation : Relation) : Prop where
  leads : relation.target = target
  many : relation.isMany = field.list
  optional : relation.optional = (field.optional && !field.list)
  nests : (∃ nested, relation.nested? = some nested) ↔
    0 < levels ∧ schema.relationNames target ≠ []
  names : ∀ nested, relation.nested? = some nested → nested.keys = schema.relationNames target

theorem isMany_withNested (relation : Relation) (nested : RelationMap) :
    (relation.withNested nested).isMany = relation.isMany := by
  cases relation
  cases nested <;> rfl

theorem optional_withNested (relation : Relation) (nested : RelationMap) :
    (relation.withNested nested).optional = relation.optional := by
  cases relation
  cases nested <;> rfl

theorem nested?_withNested_eq_some_iff {relation : Relation} {nested kept : RelationMap} :
    (relation.withNested nested).nested? = some kept ↔ nested ≠ [] ∧ nested = kept := by
  cases relation
  cases nested <;> simp [withNested, nested?]

/-- A field is made into the relation to its target, with the relations of the target nested in it
as far as there are levels. -/
theorem madeFrom_relationOf (schema : Schema) (field : Field) (target : String) (levels : Nat) :
    ((Schema.relationOf field target).withNested
      (schema.relationsWithin levels target)).MadeFrom schema field target levels := by
  have hnames : ∀ nested, schema.relationsWithin levels target = nested → nested ≠ [] →
      0 < levels ∧ nested.keys = schema.relationNames target := by
    intro nested hnested hsome
    cases levels with
    | zero => exact absurd hnested.symm hsome
    | succ levels =>
        rw [← hnested]
        exact ⟨Nat.succ_pos levels, schema.keys_relationsWithin levels target⟩
  refine ⟨target_withNested _ _, ?many, ?optional, ?nests, ?names⟩
  case many =>
    rw [isMany_withNested, Schema.relationOf, isMany, cardinality]
    cases field.list <;> rfl
  case optional =>
    rw [optional_withNested]
    rfl
  case nests =>
    simp only [nested?_withNested_eq_some_iff]
    constructor
    · rintro ⟨nested, hsome, hnested⟩
      obtain ⟨hlevels, hkeys⟩ := hnames nested hnested (hnested ▸ hsome)
      refine ⟨hlevels, ?_⟩
      rw [← hkeys]
      exact mt List.map_eq_nil_iff.mp (hnested ▸ hsome)
    · rintro ⟨hlevels, hsome⟩
      obtain ⟨below, rfl⟩ := Nat.exists_eq_succ_of_ne_zero (Nat.ne_of_gt hlevels)
      refine ⟨_, ?_, rfl⟩
      intro hnone
      rw [← schema.keys_relationsWithin below target, hnone] at hsome
      exact hsome rfl
  case names =>
    intro nested hnested
    obtain ⟨hsome, rfl⟩ := nested?_withNested_eq_some_iff.mp hnested
    exact (hnames _ rfl hsome).2

end Relation

/-- The graph is the schema, unfolded from each model and cut at a number of levels. -/
structure RelationGraph.Unfolds (graph : RelationGraph) (schema : Schema) (depth : Nat) :
    Prop where
  entities : graph.keys = schema.models.keys
  names : ∀ entity relations, graph.get? entity = some relations →
    relations.val.keys = schema.relationNames entity
  leads : ∀ entity names, (∃ relation, graph.along? entity names = some relation) ↔
    names.length ≤ depth ∧ ∃ field target, schema.LeadsAlong entity names field target
  made : ∀ entity names relation, graph.along? entity names = some relation →
    ∃ field target, schema.LeadsAlong entity names field target ∧
      relation.MadeFrom schema field target (depth - names.length)

namespace Schema

/-- From a model, a sequence of names leads through the graph as far as through its relations. -/
theorem along?_relationGraph_eq_some_iff {schema : Schema} {maxDepth : Nat} {entity : String}
    {names : List String} {relation : Relation} :
    (schema.relationGraph maxDepth).along? entity names = some relation ↔
      names.length ≤ max 1 maxDepth ∧
        ∃ field target, schema.LeadsAlong entity names field target ∧
          relation = (relationOf field target).withNested
            (schema.relationsWithin (max 1 maxDepth - names.length) target) := by
  rw [← along?_relationsWithin_eq_some_iff, RelationGraph.along?, get?_relationGraph]
  cases hmodel : schema.model? entity with
  | none =>
      have hempty : schema.relationsWithin (max 1 maxDepth) entity = [] := by
        cases max 1 maxDepth with
        | zero => rfl
        | succ levels => rw [relationsWithin, hmodel]
      rw [hempty, RelationMap.along?_empty]
      rfl
  | some model => rfl

/-- The relation graph of a schema is its unfolding down to the given number of levels, and to one
level at least. -/
theorem relationGraph_unfolds (schema : Schema) (maxDepth : Nat) :
    (schema.relationGraph maxDepth).Unfolds schema (max 1 maxDepth) := by
  refine ⟨?entities, ?names, ?leads, ?made⟩
  case entities => exact schema.keys_relationGraph maxDepth
  case names =>
    intro entity relations hrelations
    obtain ⟨below, hdepth⟩ : ∃ below, max 1 maxDepth = below + 1 :=
      Nat.exists_eq_succ_of_ne_zero (by omega)
    rw [get?_relationGraph, hdepth] at hrelations
    obtain ⟨model, -, rfl⟩ := Option.map_eq_some_iff.mp hrelations
    exact schema.keys_relationsWithin below entity
  case leads =>
    intro entity names
    simp only [along?_relationGraph_eq_some_iff]
    constructor
    · rintro ⟨relation, hlength, field, target, hleads, _⟩
      exact ⟨hlength, field, target, hleads⟩
    · rintro ⟨hlength, field, target, hleads⟩
      exact ⟨_, hlength, field, target, hleads, rfl⟩
  case made =>
    intro entity names relation hrelation
    obtain ⟨-, field, target, hleads, rfl⟩ :=
      along?_relationGraph_eq_some_iff.mp hrelation
    exact ⟨field, target, hleads, Relation.madeFrom_relationOf schema field target _⟩

/-- Users and posts refer to each other.  Down to two levels, the posts of a user lead to their
author, and the posts of that author are out of reach. -/
theorem relationGraph_unfolds_blog :
    let graph := blog.relationGraph 2
    graph.keys = ["user", "post"] ∧
      (∃ author, graph.along? "user" ["posts", "author"] = some author ∧ author.nested? = none) ∧
      (∃ field target, blog.LeadsAlong "user" ["posts", "author", "posts"] field target) ∧
      graph.along? "user" ["posts", "author", "posts"] = none := by
  intro graph
  have hunfolds := relationGraph_unfolds blog 2
  have hposts : blog.FieldLeads "user" "posts" { Field.relationTo "post" with list := true }
      "post" := ⟨⟨_, rfl, by decide⟩, rfl, rfl, rfl⟩
  have hauthor : blog.FieldLeads "post" "author" { Field.relationTo "user" with optional := true }
      "user" := ⟨⟨_, rfl, by decide⟩, rfl, rfl, rfl⟩
  obtain ⟨author, hfound⟩ := (hunfolds.leads "user" ["posts", "author"]).mpr
    ⟨by decide, _, _, .step hposts (.last hauthor)⟩
  obtain ⟨field, target, -, hmade⟩ := hunfolds.made _ _ _ hfound
  refine ⟨hunfolds.entities, ⟨author, hfound, ?_⟩,
    ⟨_, _, .step hposts (.step hauthor (.last hposts))⟩, ?_⟩
  · apply Option.eq_none_iff_forall_ne_some.mpr
    intro nested hnested
    exact absurd (hmade.nests.mp ⟨nested, hnested⟩).1 (by decide)
  · apply Option.eq_none_iff_forall_ne_some.mpr
    intro relation hrelation
    exact absurd ((hunfolds.leads _ _).mp ⟨relation, hrelation⟩).1 (by decide)

end Schema

end QueryShape

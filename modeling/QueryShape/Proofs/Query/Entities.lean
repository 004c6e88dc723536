import QueryShape.Proofs.Query.Errors
import QueryShape.Proofs.Schema.Unfolding

/-!
# Known entities

A catalog that is made from a schema has a relation map and a validator for every model, and every
relation in it leads to a model again, at any depth.  So no query of the catalog ever meets an
entity that is not known, also where the schema has relation fields whose target is missing.  Its
validators give back objects only, so what has the wrong shape is always the raw data.
-/

namespace QueryShape

open Json (Value)

namespace Schema

variable {engine : PatternEngine} {schema : Schema} {validators : Validators}

/-- The models of a schema have their validators in the same order. -/
theorem keys_validators (hvalidators : schema.validators engine = .ok validators) :
    validators.keys = schema.models.keys := by
  symm
  rw [Keyed.keys, Keyed.keys, ← List.forall₂_eq_eq_eq, List.forall₂_map_left_iff,
    List.forall₂_map_right_iff]
  apply (forall₂_of_mapM_eq_ok hvalidators).imp
  intro entry made hmade
  obtain ⟨validator, -, heq⟩ := except_bind_eq_ok.mp hmade
  cases heq
  rfl

/-- Among the validators of a schema there are only those of its models. -/
theorem exists_of_get?_validators (hvalidators : schema.validators engine = .ok validators)
    {entity : String} {validator : Validator}
    (hvalidator : validators.get? entity = some validator) :
    ∃ made, ModelValidator.ofModel engine schema entity = .ok made ∧ validator = made.validate := by
  obtain ⟨⟨name, model⟩, -, hmade⟩ :=
    exists_of_mapM_eq_ok hvalidators (Keyed.mem_of_get?_eq_some hvalidator)
  obtain ⟨made, hmodel, heq⟩ := except_bind_eq_ok.mp hmade
  cases heq
  exact ⟨made, hmodel, rfl⟩

end Schema

theorem ModelValidator.exists_object_of_validate {validator : ModelValidator} {raw value : Value}
    (hvalidate : validator.validate raw = .ok value) : ∃ entries, value = .object entries := by
  cases raw with
  | object entries => exact ⟨_, (validate_eq_ok_iff.mp hvalidate).2⟩
  | _ => cases hvalidate

/-- The error is about the raw data: it misses no entity, and where it is about a shape, the raw
data has another one at its path. -/
structure QueryError.BlamesData (raw : Value) (error : QueryError) : Prop where
  known : ∀ entity source, error ≠ .unknownEntity entity source
  shape : ∀ entity path expected found, error = .invalidShape entity path expected found →
    ∃ value, raw.at? path = some value ∧ expected.fits value = false ∧ found = value.typeName

theorem QueryError.PointsInto.blamesData {engine : PatternEngine} {schema : Schema}
    {relations : RelationMap} {entity : String} {raw : Value} {Visited : Path → Visit → Prop}
    {error : QueryError} (hpoints : error.PointsInto engine schema relations entity raw Visited) :
    error.BlamesData raw := by
  cases hpoints with
  | shape resolves mismatch _ =>
      refine ⟨nofun, ?_⟩
      intro target path expected found heq
      cases heq
      exact ⟨_, resolves, mismatch, rfl⟩
  | rejected => exact ⟨nofun, nofun⟩

namespace Catalog

theorem contains_eq_true_iff {catalog : Catalog} {entity : String} :
    catalog.contains entity = true ↔
      entity ∈ catalog.graph.keys ∧ entity ∈ catalog.validators.keys := by
  rw [contains, Bool.and_eq_true, Dictionary.contains, Keyed.contains, Keyed.contains,
    Keyed.get?_isSome_iff, Keyed.get?_isSome_iff, Dictionary.keys]

/-- There can be queries for exactly the entities that a catalog contains. -/
theorem exists_query_iff {catalog : Catalog} {entity : String} {spec : Spec} :
    (∃ query, catalog.query entity spec = .ok query) ↔ catalog.contains entity = true := by
  simp only [query, contains, Dictionary.get?, Dictionary.contains, Keyed.contains]
  cases catalog.graph.entries.get? entity with
  | none => simp
  | some relations =>
      by_cases hvalidator : (catalog.validators.get? entity).isSome = true <;> simp [hvalidator]

/-- The catalog of a schema has the graph of the schema and the validators of its models. -/
theorem of_ofSchema {engine : PatternEngine} {schema : Schema} {maxDepth : Nat} {catalog : Catalog}
    (hcatalog : ofSchema engine schema maxDepth = .ok catalog) :
    catalog.graph = schema.relationGraph maxDepth ∧
      schema.validators engine = .ok catalog.validators := by
  obtain ⟨validators, hvalidators, hmade⟩ := except_bind_eq_ok.mp hcatalog
  cases hmade
  exact ⟨rfl, hvalidators⟩

/-- The catalog of a schema has relations and a validator for every model, in their order. -/
theorem keys_ofSchema {engine : PatternEngine} {schema : Schema} {maxDepth : Nat}
    {catalog : Catalog} (hcatalog : ofSchema engine schema maxDepth = .ok catalog) :
    catalog.graph.keys = schema.models.keys ∧ catalog.validators.keys = schema.models.keys := by
  obtain ⟨hgraph, hvalidators⟩ := of_ofSchema hcatalog
  refine ⟨?_, Schema.keys_validators hvalidators⟩
  rw [hgraph]
  exact schema.keys_relationGraph maxDepth

/-- The catalog of a schema contains the models of the schema. -/
theorem contains_ofSchema_iff {engine : PatternEngine} {schema : Schema} {maxDepth : Nat}
    {catalog : Catalog} (hcatalog : ofSchema engine schema maxDepth = .ok catalog)
    {entity : String} :
    catalog.contains entity = true ↔ entity ∈ schema.models.keys := by
  obtain ⟨hgraph, hvalidators⟩ := keys_ofSchema hcatalog
  rw [contains_eq_true_iff, hgraph, hvalidators, and_self]

theorem entities_eq_keys {engine : PatternEngine} {schema : Schema} {maxDepth : Nat}
    {catalog : Catalog} (hcatalog : ofSchema engine schema maxDepth = .ok catalog) :
    catalog.entities = schema.models.keys := by
  obtain ⟨hgraph, hvalidators⟩ := keys_ofSchema hcatalog
  rw [entities, hgraph]
  apply List.filter_eq_self.mpr
  intro entity hentity
  rw [← hvalidators] at hentity
  exact Keyed.get?_isSome_iff.mpr hentity

/-- The entities of the catalog of a schema are the models of the schema, and it can be queried for
each of them.  Every relation in it leads to one of them and every validator gives back objects, so
the errors of its queries are about the raw data. -/
theorem entities_ofSchema {engine : PatternEngine} {schema : Schema} {maxDepth : Nat}
    {catalog : Catalog} (hcatalog : ofSchema engine schema maxDepth = .ok catalog) :
    catalog.entities = schema.models.keys ∧
      (∀ entity, (catalog.contains entity = true ↔ entity ∈ catalog.entities) ∧
        ∀ spec, (∃ query, catalog.query entity spec = .ok query) ↔
          catalog.contains entity = true) ∧
      (∀ entity names relation, catalog.graph.along? entity names = some relation →
        catalog.contains relation.target = true) ∧
      (∀ entity validator, catalog.validators.get? entity = some validator →
        ∀ raw value, validator raw = .ok value → ∃ entries, value = .object entries) ∧
      ∀ entity spec query, catalog.query entity spec = .ok query → ∀ raw error,
        (query.parse raw).outcome = .error error ∨ (query.parseList raw).outcome = .error error →
          error.BlamesData raw := by
  obtain ⟨hgraph, hvalidators⟩ := of_ofSchema hcatalog
  refine ⟨entities_eq_keys hcatalog, ?entities, ?targets, ?objects, ?errors⟩
  case entities =>
    intro entity
    rw [entities_eq_keys hcatalog]
    exact ⟨contains_ofSchema_iff hcatalog, fun spec => exists_query_iff⟩
  case targets =>
    intro entity names relation hrelation
    rw [hgraph, Schema.along?_relationGraph_eq_some_iff] at hrelation
    obtain ⟨-, field, target, hleads, rfl⟩ := hrelation
    rw [contains_ofSchema_iff hcatalog, Relation.target_withNested]
    exact Keyed.get?_isSome_iff.mp hleads.known
  case objects =>
    intro entity validator hvalidator raw value hvalidate
    obtain ⟨made, -, rfl⟩ := Schema.exists_of_get?_validators hvalidators hvalidator
    exact ModelValidator.exists_object_of_validate hvalidate
  case errors =>
    intro entity spec query hquery raw error herror
    obtain ⟨rfl, -, hdescribes, hmodels⟩ := query_ofSchema hcatalog hquery
    cases herror with
    | inl herror => exact (Query.pointsInto_of_parse hmodels hdescribes herror).blamesData
    | inr herror => exact (Query.pointsInto_of_parseList hmodels hdescribes herror).blamesData

/-- A draft leads to its author and to a team, but there are no teams.  Asking for both is no
failure of the catalog: a draft whose author has an id that is no text is refused for that. -/
theorem entities_ofSchema_missingTarget :
    let draft : Model := {
      fields := [("author", .relationTo "user"), ("team", .relationTo "team")] }
    let schema := Schema.blog.withModel "draft" draft
    let spec := (Spec.empty.withRelation "team" none).withRelation "author" none
    let raw : Value := .object [("author", .object [("id", .bool true)]), ("team", .null)]
    ∃ catalog query error, ofSchema Pattern.engine schema 3 = .ok catalog ∧
      catalog.entities = ["user", "post", "draft"] ∧ catalog.contains "team" = false ∧
      catalog.query "draft" spec = .ok query ∧ (query.parse raw).outcome = .error error ∧
      error.path? = some [.field "author", .field "id"] ∧ error.BlamesData raw := by
  intro draft schema spec raw
  obtain ⟨hentities, -, -, -, herrors⟩ :=
    @entities_ofSchema Pattern.engine schema 3 _ rfl
  exact ⟨_, _, _, rfl, hentities, rfl, rfl, rfl, rfl, herrors "draft" spec _ rfl raw _ (.inl rfl)⟩

end Catalog

end QueryShape

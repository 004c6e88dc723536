import QueryShape.Proofs.Query.Execution
import QueryShape.Proofs.Schema.Issues

/-!
# Where errors point

The error of a query says what is wrong at which place of the raw data, and it is right.  An error
about a shape leads to a value of another shape, reached for the entity that the relations on the
path lead to.  An error of a validator leads first to an object that was visited for the entity and
validated, and from there to what the first issue is about.
-/

namespace QueryShape

open Json (Value)

/-- Whether a value has a shape. -/
def Shape.fits : Shape → Value → Bool
  | .object, .object _ => true
  | .array, .array _ => true
  | _, _ => false

theorem Issue.PointsInto.lastField_path {raw : Value} {name : String} {issue : Issue}
    (hpoints : issue.PointsInto raw name) : issue.path.lastField = some name := by
  have hpath : issue.path = [.field name] ∨ ∃ position,
      issue.path = [.field name, .index position] := by
    cases hpoints with
    | found _ path _ => exact path
    | missing path _ _ => exact Or.inl path
  rcases hpath with hpath | ⟨position, hpath⟩
  · rw [hpath]
    rfl
  · rw [hpath]
    rfl

/-- An error points into raw data that was fetched for an entity.  It is about the shape of the
value at its path, and its entity is the one that the path leads to along the relations; or it is
that of a validator, about an object that was visited at a level that names no fields, and its path
leads on from there to the first issue, whose column it names. -/
inductive QueryError.PointsInto (engine : PatternEngine) (schema : Schema) (relations : RelationMap)
    (entity : String) (raw : Value) (Visited : Path → Visit → Prop) : QueryError → Prop
  | shape {target : String} {path : Path} {expected : Shape} {value : Value}
      (resolves : raw.at? path = some value) (mismatch : expected.fits value = false)
      (leads : relations.entityAt? entity path = some target) :
      PointsInto engine schema relations entity raw Visited
        (.invalidShape target path expected value.typeName)
  | rejected {visit : Visit} {place : Path} {entries : Keyed Value} {validator : ModelValidator}
      {name : String} {first : Issue} {rest : Issues} (visited : Visited place visit)
      (whole : visit.spec.isNarrowed = false) (object : visit.raw = .object entries)
      (resolves : raw.at? place = some visit.raw)
      (model : ModelValidator.ofModel engine schema visit.entity = .ok validator)
      (rejects : validator.validate visit.raw = .error (first :: rest))
      (column : name ∈ schema.columnNames visit.entity)
      (points : first.PointsInto visit.raw name) :
      PointsInto engine schema relations entity raw Visited
        (.rejected visit.entity (place ++ first.path) (some name) (first :: rest))

theorem ModelValidator.validate_object_cases (validator : ModelValidator)
    (entries : Keyed Value) :
    (∃ kept, validator.validate (.object entries) = .ok (.object kept)) ∨
      ∃ first rest, validator.validate (.object entries) = .error (first :: rest) ∧
        validator.issues entries = first :: rest := by
  rw [validate]
  cases hissues : validator.issues entries with
  | nil => exact Or.inl ⟨_, rfl⟩
  | cons first rest => exact Or.inr ⟨first, rest, rfl, rfl⟩

/-- The shape of a value that is reached is wrong only if it is not an object. -/
theorem Step.eq_of_failed_shape {validators : Validators} {entity : String} {path : Path}
    {raw : Value} {error : QueryError}
    (hfailed : (Step.shape entity path raw).failure? validators = some error) :
    Shape.object.fits raw = false ∧ error = .invalidShape entity path .object raw.typeName := by
  cases raw <;> cases hfailed <;> exact ⟨rfl, rfl⟩

/-- The value of a relation is refused only if it does not have the shape that the error asks
for. -/
theorem Step.exists_of_failed_following {validators : Validators} {relation : Relation}
    {path : Path} {raw : Value} {error : QueryError}
    (hfailed : (Step.following relation path raw).failure? validators = some error) :
    ∃ expected, Shape.fits expected raw = false ∧
      error = .invalidShape relation.target path expected raw.typeName := by
  simp only [Step.failure?] at hfailed
  cases hcardinality : relation.cardinality with
  | many =>
      refine ⟨.array, ?_⟩
      cases raw <;> simp_all [Shape.fits]
  | one =>
      refine ⟨.object, ?_⟩
      cases raw <;> simp_all [Shape.fits]

section Steps

variable {engine : PatternEngine} {schema : Schema} {validators : Validators}
  (hvalidators : schema.validators engine = .ok validators)
include hvalidators

/-- A validation in a schema fails only because the validator of the model finds issues. -/
theorem exists_issues_of_failed_validation {entity : String}
    (hentity : (schema.model? entity).isSome) {path : Path} {entries : Keyed Value}
    {error : QueryError}
    (hfailed : (Step.validation entity path entries).failure? validators = some error) :
    ∃ validator first rest, ModelValidator.ofModel engine schema entity = .ok validator ∧
      validator.validate (.object entries) = .error (first :: rest) ∧
      first ∈ validator.issues entries ∧ error = .ofIssues entity path (first :: rest) := by
  obtain ⟨validator, hvalidator, hget⟩ := Schema.get?_validators hvalidators hentity
  simp only [Step.failure?, hget] at hfailed
  rcases validator.validate_object_cases entries with
    ⟨kept, hkept⟩ | ⟨first, rest, hrefused, hissues⟩
  · simp [hkept] at hfailed
  · simp only [hrefused, Option.some.injEq] at hfailed
    refine ⟨validator, first, rest, hvalidator, hrefused, ?_, hfailed.symm⟩
    rw [hissues]
    exact List.mem_cons_self

/-- The error of a step points into the data, if the path of its visit leads to what is visited and
along the relations to what it is visited for. -/
theorem pointsInto_of_takes {relations : RelationMap} {entity : String} {raw : Value}
    {Visited : Path → Visit → Prop} {place : Path} {visit : Visit} {step : Step}
    {error : QueryError} (hvisited : Visited place visit)
    (hresolves : raw.at? place = some visit.raw)
    (hleads : ∀ rest, relations.entityAt? entity (place ++ rest) =
      visit.relations.entityAt? visit.entity rest)
    (hdescribes : schema.Describes visit.entity visit.relations)
    (htakes : visit.Takes place step) (hfailed : step.failure? validators = some error) :
    error.PointsInto engine schema relations entity raw Visited := by
  cases htakes with
  | shape =>
      have hentity : relations.entityAt? entity place = some visit.entity := by
        have hhere := hleads []
        rwa [List.append_nil, RelationMap.entityAt?] at hhere
      obtain ⟨hmismatch, rfl⟩ := Step.eq_of_failed_shape hfailed
      exact .shape hresolves hmismatch hentity
  | @validation entries hobject hwhole =>
      obtain ⟨validator, first, rest, hvalidator, hrejects, hfirst, rfl⟩ :=
        exists_issues_of_failed_validation hvalidators hdescribes.known hfailed
      obtain ⟨name, hname, hpoints⟩ := validator.exists_column_of_mem_issues hfirst
      rw [Schema.columnNames_of_ofModel hvalidator] at hname
      rw [QueryError.ofIssues, Path.prefixed, hpoints.lastField_path]
      rw [← hobject] at hrejects hpoints
      exact .rejected hvisited hwhole hobject hresolves hvalidator hrejects hname hpoints
  | @following entries name request relation value hobject hrequested hdescribed hpresent =>
      have hvalue : raw.at? (place.child (.field name)) = some value := by
        rw [Path.child, Value.at?_append, hresolves, hobject]
        simp [hpresent]
      have htarget : relations.entityAt? entity (place.child (.field name)) =
          some relation.target := by
        rw [Path.child, hleads, RelationMap.entityAt?, hdescribed]
        rfl
      obtain ⟨expected, hmismatch, rfl⟩ := Step.exists_of_failed_following hfailed
      exact .shape hvalue hmismatch htarget

end Steps

/-- What is visited when a query reshapes a record. -/
def Query.Visits (query : Query) (raw : Value) : Path → Visit → Prop :=
  Visit.Reaches ⟨query.spec, query.relations, query.entity, raw⟩

/-- What is visited when a query reshapes a list: what is visited from its items. -/
inductive Query.VisitsItems (query : Query) : Value → Path → Visit → Prop
  | item {items : List Value} {position : Nat} {item : Value} {path : Path} {visit : Visit}
      (present : items[position]? = some item) (onward : query.Visits item path visit) :
      query.VisitsItems (.array items) (.index position :: path) visit

namespace Visit

theorem Reaches.describes {schema : Schema} {visit goal : Visit} {path : Path}
    (hreaches : visit.Reaches path goal)
    (hdescribes : schema.Describes visit.entity visit.relations) :
    schema.Describes goal.entity goal.relations := by
  induction hreaches with
  | here visit => exact hdescribes
  | record _ described _ _ _ ih => exact ih (hdescribes.nested described)

end Visit

namespace Query

variable {engine : PatternEngine} {schema : Schema} {query : Query}
  (hvalidators : schema.validators engine = .ok query.validators)
  (hdescribes : schema.Describes query.entity query.relations)
include hvalidators hdescribes

theorem pointsInto_of_parse {raw : Value} {error : QueryError}
    (herror : (query.parse raw).outcome = .error error) :
    error.PointsInto engine schema query.relations query.entity raw (query.Visits raw) := by
  have hexecutes := Spec.executes_reshapeAt query.spec query.relations query.validators
    query.entity raw .root
  obtain ⟨step, hstep, hfailed⟩ := hexecutes.exists_step_of_error herror
  obtain ⟨place, visit, hreaches, htakes⟩ := Spec.exists_visit_of_mem_steps hstep
  exact pointsInto_of_takes hvalidators hreaches hreaches.at? hreaches.entityAt?_append
    (hreaches.describes hdescribes) htakes hfailed

theorem pointsInto_of_parseList {raw : Value} {error : QueryError}
    (herror : (query.parseList raw).outcome = .error error) :
    error.PointsInto engine schema query.relations query.entity raw (query.VisitsItems raw) := by
  cases raw with
  | array items =>
      have hexecutes := Spec.executes_reshapeItems query.spec query.relations query.validators
        query.entity items .root
      obtain ⟨step, hstep, hfailed⟩ := hexecutes.exists_step_of_error herror
      obtain ⟨⟨start, item⟩, hplaced, hstep⟩ := List.mem_flatMap.mp hstep
      obtain ⟨position, rfl, hitem⟩ := mem_placedItems.mp hplaced
      obtain ⟨place, visit, hreaches, htakes⟩ := Spec.exists_visit_of_mem_steps hstep
      have hresolves : (Value.array items).at? (.index position :: place) = some visit.raw := by
        rw [Value.at?_array_index, hitem, Option.bind_some, hreaches.at?]
      exact pointsInto_of_takes hvalidators (.item hitem hreaches) hresolves
        hreaches.entityAt?_append (hreaches.describes hdescribes) htakes hfailed
  | _ =>
      cases herror
      exact .shape (Value.at?_nil _) rfl rfl

end Query

/-- The errors of a query for a model of a schema point into the raw data, for a record and for a
list of records. -/
theorem Query.errors_pointInto {engine : PatternEngine} {schema : Schema} {maxDepth : Nat}
    {catalog : Catalog} (hcatalog : Catalog.ofSchema engine schema maxDepth = .ok catalog)
    {entity : String} {spec : Spec} {query : Query}
    (hquery : catalog.query entity spec = .ok query) (raw : Value) :
    (∀ error, (query.parse raw).outcome = .error error →
        error.PointsInto engine schema query.relations entity raw (query.Visits raw)) ∧
      ∀ error, (query.parseList raw).outcome = .error error →
        error.PointsInto engine schema query.relations entity raw (query.VisitsItems raw) := by
  obtain ⟨rfl, hasked, hdescribes, hvalidators⟩ :=
    Catalog.query_ofSchema hcatalog hquery
  constructor
  · intro error herror
    exact pointsInto_of_parse hvalidators hdescribes herror
  · intro error herror
    exact pointsInto_of_parseList hvalidators hdescribes herror

/-- A user whose second post has a title that is not a text, on its own and as the second of two
users. -/
theorem errors_pointInto_refusedTitle :
    let query := Query.ofUser (Spec.empty.withRelation "posts" none)
    let other : Value := .object [("id", .string "u0")]
    let user : Value := .object [("id", .string "u1"), ("posts", .array [
      .object [("title", .string "first")], .object [("title", .bool true)]])]
    let issue := Column.typeIssue [.field "title"] "string" (.bool true)
    let error (path : Path) : QueryError := .rejected "post" path (some "title") [issue]
    let path : Path := [.field "posts", .index 1, .field "title"]
    (query.parse user).outcome = .error (error path) ∧
      (error path).PointsInto Pattern.engine Schema.blog query.relations "user" user
        (query.Visits user) ∧
      (query.parseList (.array [other, user])).outcome = .error (error (.index 1 :: path)) ∧
      (error (.index 1 :: path)).PointsInto Pattern.engine Schema.blog query.relations "user"
        (.array [other, user]) (query.VisitsItems (.array [other, user])) := by
  intro query other user issue error path
  have hpoints := Query.errors_pointInto Catalog.ofSchema_blog
    (Catalog.query_blog (Spec.empty.withRelation "posts" none))
  exact ⟨rfl, (hpoints user).1 _ rfl, rfl, (hpoints _).2 _ rfl⟩

end QueryShape

import QueryShape.Pattern.Engine
import QueryShape.Proofs.Query.Records
import QueryShape.Proofs.Query.Spec
import QueryShape.Proofs.Schema.Levels
import QueryShape.Query.Catalog

/-!
# Steps of reshaping

The steps that reshaping takes at one object, as equations: a relation that is asked for whole is
one with an empty specification, and a relation is passed over if the object or its entity does not
have it.  For the queries of a schema the validators are those of its models and the relations are
described by it.
-/

namespace QueryShape

open Json (Value)

namespace Spec

/-- Asking for a relation whole asks for nothing in particular of its records. -/
theorem reshapeWhole_eq (validators : Validators) (relations : RelationMap) (entity : String) :
    reshapeWhole validators entity = empty.reshapeAt validators relations entity := by
  funext raw path
  rw [empty, reshapeAt, reshapeWhole]
  congr 1

theorem reshapeRecord_object (validators : Validators) (fields : Option (List String))
    (entity : String)
    (reshapeRequested : Keyed Value → Path → Keyed Value → Run (Keyed Value))
    (entries : Keyed Value) (path : Path) :
    reshapeRecord validators fields entity reshapeRequested (.object entries) path =
      ((if fields.isSome then pure entries else validatedEntries validators entity path entries) >>=
        fun kept => Value.object <$> reshapeRequested entries path kept) := by
  rw [reshapeRecord]
  split <;> rfl

theorem reshapeRequests_followed (validators : Validators) {name : String} {request : Option Spec}
    {rest : List (String × Option Spec)} {relations : RelationMap} {entries kept : Keyed Value}
    {path : Path} {raw : Value} {relation : Relation} (hraw : entries.get? name = some raw)
    (hrelation : relations.get? name = some relation) :
    reshapeRequests validators ((name, request) :: rest) relations entries path kept =
      (reshapeRelation ((request.getD .empty).reshapeAt validators relation.nested relation.target)
        relation raw (path.child (.field name)) >>= fun value =>
      reshapeRequests validators rest relations entries path (kept.insertSorted name value)) := by
  rw [reshapeRequests]
  simp only [hraw, hrelation]
  cases request with
  | none =>
      rw [reshapeWhole_eq validators relation.nested]
      rfl
  | some spec => rfl

theorem reshapeRequests_skipped (validators : Validators) {name : String} {request : Option Spec}
    {rest : List (String × Option Spec)} {relations : RelationMap} {entries kept : Keyed Value}
    {path : Path} (hskip : entries.get? name = none ∨ relations.get? name = none) :
    reshapeRequests validators ((name, request) :: rest) relations entries path kept =
      reshapeRequests validators rest relations entries path kept := by
  rw [reshapeRequests]
  rcases hskip with hraw | hrelation
  · simp only [hraw]
  · cases entries.get? name <;> simp only [hrelation]

/-- If every relation that is asked for is passed over, nothing happens. -/
theorem reshapeRequests_of_skipped (validators : Validators)
    {requests : List (String × Option Spec)} {relations : RelationMap} {entries : Keyed Value}
    (hskip : ∀ name ∈ Keyed.keys requests, entries.get? name = none ∨ relations.get? name = none)
    (path : Path) (kept : Keyed Value) :
    reshapeRequests validators requests relations entries path kept = pure kept := by
  induction requests with
  | nil => rw [reshapeRequests]
  | cons first rest ih =>
      obtain ⟨name, request⟩ := first
      obtain ⟨hfirst, hrest⟩ := List.forall_mem_cons.mp hskip
      rw [reshapeRequests_skipped validators hfirst, ih hrest]

end Spec

/-- In a schema, an object is validated exactly if it is accepted, and then reduced to its
columns. -/
theorem outcome_validatedEntries_eq_ok_iff {engine : PatternEngine} {schema : Schema}
    {validators : Validators} (hvalidators : schema.validators engine = .ok validators)
    {entity : String} (hentity : (schema.model? entity).isSome) (path : Path)
    {entries kept : Keyed Value} :
    (validatedEntries validators entity path entries).outcome = .ok kept ↔
      schema.Accepts engine entity (.object entries) ∧ kept = schema.columnsOf entity entries := by
  obtain ⟨validator, hvalidator, hget⟩ := Schema.get?_validators hvalidators hentity
  have hvalidate := Schema.validate_eq_ok_iff_accepts hvalidator entries
  simp only [validatedEntries, hget, Run.outcome_call]
  cases hresult : validator.validate (.object entries) with
  | error issues =>
      have hrefused : ¬ schema.Accepts engine entity (.object entries) := fun haccepted => by
        have hok := (hvalidate _).mpr ⟨haccepted, rfl⟩
        simp [hresult] at hok
      simp [hrefused]
  | ok value =>
      obtain ⟨haccepted, rfl⟩ := (hvalidate value).mp hresult
      simp [haccepted, eq_comm]

namespace Catalog

/-- The query for a model of a schema has the relations that the schema describes and the
validators of its models. -/
theorem query_ofSchema {engine : PatternEngine} {schema : Schema} {maxDepth : Nat}
    {catalog : Catalog} (hcatalog : ofSchema engine schema maxDepth = .ok catalog) {entity : String}
    {spec : Spec} {query : Query} (hquery : catalog.query entity spec = .ok query) :
    query.entity = entity ∧ query.spec = spec ∧ schema.Describes entity query.relations ∧
      schema.validators engine = .ok query.validators := by
  obtain ⟨validators, hvalidators, hmade⟩ := except_bind_eq_ok.mp hcatalog
  cases hmade
  unfold Catalog.query at hquery
  split at hquery
  · cases hquery
  · next relations hrelations =>
      split at hquery
      · cases hquery
        rw [Schema.get?_relationGraph] at hrelations
        obtain ⟨model, hmodel, rfl⟩ := Option.map_eq_some_iff.mp hrelations
        have hentity : (schema.model? entity).isSome := Option.isSome_of_mem hmodel
        exact ⟨rfl, rfl, schema.describes_relationsWithin _ hentity, hvalidators⟩
      · cases hquery

/-- The catalog of users and their posts. -/
def blog : Catalog where
  graph := Schema.blog.relationGraph 3
  validators := (Schema.blog.validators Pattern.engine).toOption.getD []

theorem ofSchema_blog : ofSchema Pattern.engine Schema.blog 3 = .ok blog := rfl

end Catalog

/-- What is asked for of a user. -/
def Query.ofUser (spec : Spec) : Query where
  entity := "user"
  spec := spec
  relations := Schema.blog.relationsWithin 3 "user"
  validators := Catalog.blog.validators

theorem Catalog.query_blog (spec : Spec) : blog.query "user" spec = .ok (.ofUser spec) := rfl

end QueryShape

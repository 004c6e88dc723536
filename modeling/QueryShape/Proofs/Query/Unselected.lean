import QueryShape.Proofs.Query.Execution
import QueryShape.Proofs.Query.Idempotence

/-!
# Data that nobody asked for

What pruning takes out of raw data has no influence on what becomes of the data, whether it conforms
or not.  Pruning keeps the type of every value, the columns of every object that is validated and
the relations that are followed, so a traversal of pruned data makes steps that fail where those for
the data itself do, and with the same errors.
-/

namespace QueryShape

open Json (OrderedValue Value)

namespace Step

/-- The check of what is found under the name of a relation goes by the type of it alone. -/
theorem failure?_following (validators : Validators) (relation : Relation) (path : Path)
    (raw : Value) :
    (following relation path raw).failure? validators =
      match relation.cardinality with
      | .many =>
          if raw.typeName = "array" then none
          else some (.invalidShape relation.target path .array raw.typeName)
      | .one =>
          if raw.typeName = "null" ∧ relation.isNullable = false then
            some (.invalidShape relation.target path .object raw.typeName)
          else none := by
  cases hcardinality : relation.cardinality with
  | many => cases raw <;> simp [failure?, Value.typeName, hcardinality]
  | one =>
      cases raw with
      | null =>
          cases hnullable : relation.isNullable <;>
            simp [failure?, Value.typeName, hcardinality, hnullable]
      | _ => simp [failure?, Value.typeName, hcardinality]

theorem failure?_following_congr (validators : Validators) {left right : Value}
    (htype : left.typeName = right.typeName) (relation : Relation) (path : Path) :
    (following relation path left).failure? validators =
      (following relation path right).failure? validators := by
  rw [failure?_following, failure?_following, htype]

/-- In a schema, the validation of an object looks at its columns only. -/
theorem failure?_validation_congr {engine : PatternEngine} {schema : Schema}
    {validators : Validators} (hvalidators : schema.validators engine = .ok validators)
    {entity : String} (hentity : (schema.model? entity).isSome) {left right : Keyed Value}
    (hcolumns : ∀ name ∈ schema.columnNames entity, left.get? name = right.get? name)
    (path : Path) :
    (validation entity path left).failure? validators =
      (validation entity path right).failure? validators := by
  obtain ⟨validator, hvalidator, hget⟩ := Schema.get?_validators hvalidators hentity
  rw [← Schema.columnNames_of_ofModel hvalidator] at hcolumns
  have hissues := ModelValidator.issues_congr hcolumns
  simp only [failure?, hget, ModelValidator.validate, hissues]
  cases validator.issues right <;> rfl

end Step

namespace Run.Executes

variable {α : Type} {validators : Validators} {steps others : List Step} {run other : Run α}

/-- Runs whose steps fail alike end with the same error, if they end with one. -/
theorem outcome_eq_error_congr (hrun : run.Executes validators steps)
    (hother : other.Executes validators others)
    (hsame : steps.map (Step.failure? validators) = others.map (Step.failure? validators))
    (error : QueryError) : run.outcome = .error error ↔ other.outcome = .error error := by
  have hfirst : steps.findSome? (Step.failure? validators) =
      others.findSome? (Step.failure? validators) := by
    have hid := congrArg (List.findSome? id) hsame
    rwa [List.findSome?_map, List.findSome?_map] at hid
  rw [hrun.failed, hother.failed, hfirst]

end Run.Executes

namespace Relation

theorem typeName_mapRecords {relation : Relation} {convert : Value → Value}
    (htype : ∀ record, (convert record).typeName = record.typeName) (raw : Value) :
    (relation.mapRecords convert raw).typeName = raw.typeName := by
  unfold mapRecords
  split
  · rfl
  · rfl
  · rfl
  · exact htype _

/-- Records that are replaced stay in their places, if none becomes `null`. -/
theorem placedRecords_mapRecords {relation : Relation} {convert : Value → Value}
    (hconvert : ∀ record, convert record = .null → record = .null) (raw : Value) :
    relation.placedRecords (relation.mapRecords convert raw) =
      (relation.placedRecords raw).map fun entry => (entry.1, convert entry.2) := by
  unfold placedRecords mapRecords
  cases relation.cardinality with
  | many =>
      cases raw with
      | array items => simp [placedItems, List.zipIdx_map]
      | _ => rfl
  | one =>
      by_cases hraw : raw = .null
      · subst hraw
        rfl
      · have hkept : convert raw ≠ .null := fun hnull => hraw (hconvert raw hnull)
        cases raw <;> simp_all

theorem ordered_of_mem_placedRecords {relation : Relation} {raw record : Value} {place : Path}
    (hraw : raw.Ordered) (hrecord : (place, record) ∈ relation.placedRecords raw) :
    record.Ordered := by
  apply ordered_of_mem_records hraw
  rw [← map_snd_placedRecords]
  exact List.mem_map_of_mem hrecord

end Relation

namespace Schema

theorem typeName_prune (schema : Schema) (spec : Spec) (relations : RelationMap) (entity : String)
    (raw : Value) : (schema.prune spec relations entity raw).typeName = raw.typeName := by
  rcases schema.object_or_prune_eq_self raw with ⟨entries, rfl⟩ | hsame
  · rw [prune_object]
    rfl
  · rw [hsame]

section Pruned

variable {engine : PatternEngine} {schema : Schema} {validators : Validators}

/-- The steps for the value of a relation fail alike after its records were pruned, if that is so
of the steps for its records. -/
theorem failures_stepsWith_prune {nested : Spec} {relation : Relation} {raw : Value}
    (hrecords : ∀ place record path, (place, record) ∈ relation.placedRecords raw →
      (nested.steps relation.nested relation.target
          (schema.prune nested relation.nested relation.target record) path).map
          (Step.failure? validators) =
        (nested.steps relation.nested relation.target record path).map
          (Step.failure? validators)) (path : Path) :
    (relation.stepsWith (nested.steps relation.nested relation.target)
        (relation.mapRecords (schema.prune nested relation.nested relation.target) raw) path).map
        (Step.failure? validators) =
      (relation.stepsWith (nested.steps relation.nested relation.target) raw path).map
        (Step.failure? validators) := by
  have htype := relation.typeName_mapRecords
    (schema.typeName_prune nested relation.nested relation.target) raw
  rw [Relation.stepsWith, Relation.stepsWith, List.map_cons, List.map_cons,
    Step.failure?_following_congr validators htype,
    Relation.placedRecords_mapRecords fun _ => eq_null_of_prune]
  simp only [List.map_flatMap, List.flatMap_map]
  congr 1
  apply List.flatMap_congr
  rintro ⟨place, record⟩ hrecord
  exact hrecords place record (path ++ place) hrecord

theorem failures_stepsOfRequest_prune {spec : Spec} {relations : RelationMap} {entity : String}
    {entries : Keyed Value} (hentries : entries.Distinct) {name : String} {request : Option Spec}
    (hrequested : spec.requested? name = some (request.getD .empty))
    (hrecords : ∀ relation raw place record path, relations.get? name = some relation →
      entries.get? name = some raw → (place, record) ∈ relation.placedRecords raw →
        ((request.getD .empty).steps relation.nested relation.target
            (schema.prune (request.getD .empty) relation.nested relation.target record) path).map
            (Step.failure? validators) =
          ((request.getD .empty).steps relation.nested relation.target record path).map
            (Step.failure? validators)) (path : Path) :
    (Spec.stepsOfRequest relations (entries.restrict (schema.kept spec relations entity)) path name
        request).map (Step.failure? validators) =
      (Spec.stepsOfRequest relations entries path name request).map
        (Step.failure? validators) := by
  have hkept := Keyed.get?_restrict hentries (schema.kept spec relations entity) name
  rcases Spec.present_or_skipped relations entries name with
    ⟨raw, relation, hraw, hrelation⟩ | hskip
  · rw [hraw, Option.bind_some, kept_of_requested hrequested hrelation] at hkept
    rw [Spec.stepsOfRequest_followed hraw hrelation, Spec.stepsOfRequest_followed hkept hrelation]
    apply failures_stepsWith_prune
    intro place record path hrecord
    exact hrecords relation raw place record path hrelation hraw hrecord
  · have hagain : (entries.restrict (schema.kept spec relations entity)).get? name = none ∨
        relations.get? name = none := by
      apply hskip.imp_left
      intro hraw
      rw [hkept, hraw, Option.bind_none]
    rw [Spec.stepsOfRequest_skipped hskip, Spec.stepsOfRequest_skipped hagain]

/-- The steps for all relations that are asked for fail alike, if those for each of them do. -/
theorem failures_stepsOfRequests_congr {requests : List (String × Option Spec)}
    {relations : RelationMap} {left right : Keyed Value} {path : Path}
    (hrequests : ∀ name request, (name, request) ∈ requests →
      (Spec.stepsOfRequest relations left path name request).map (Step.failure? validators) =
        (Spec.stepsOfRequest relations right path name request).map (Step.failure? validators)) :
    (Spec.stepsOfRequests requests relations left path).map (Step.failure? validators) =
      (Spec.stepsOfRequests requests relations right path).map (Step.failure? validators) := by
  induction requests with
  | nil => rfl
  | cons first rest ih =>
      obtain ⟨name, request⟩ := first
      have hfirst := hrequests name request List.mem_cons_self
      have hrest := ih fun other again hmem =>
        hrequests other again (List.mem_cons_of_mem _ hmem)
      rw [Spec.stepsOfRequests_cons, Spec.stepsOfRequests_cons, List.map_append, List.map_append,
        hfirst, hrest]

/-- The steps for pruned data fail alike. -/
theorem failures_steps_prune (hvalidators : schema.validators engine = .ok validators) {spec : Spec}
    (hspec : spec.WellFormed) {relations : RelationMap} {entity : String}
    (hdescribes : schema.Describes entity relations) {raw : Value} (hraw : raw.Ordered)
    (path : Path) :
    (spec.steps relations entity (schema.prune spec relations entity raw) path).map
        (Step.failure? validators) =
      (spec.steps relations entity raw path).map (Step.failure? validators) := by
  induction spec using Spec.induction generalizing relations entity raw path with
  | mk fields requests ih =>
      rcases schema.object_or_prune_eq_self raw with ⟨entries, rfl⟩ | hsame
      · have hrequests : ∀ name request, (name, request) ∈ requests →
            (Spec.stepsOfRequest relations
                (Keyed.restrict (schema.kept (.mk fields requests) relations entity) entries) path
                name request).map (Step.failure? validators) =
              (Spec.stepsOfRequest relations entries path name request).map
                (Step.failure? validators) := by
          intro name request hmem
          have hrequested : (Spec.mk fields requests).requested? name =
              some (request.getD .empty) :=
            Option.map_eq_some_iff.mpr
              ⟨request, Keyed.get?_eq_some_of_mem hspec.distinct hmem, rfl⟩
          apply failures_stepsOfRequest_prune hraw.distinct hrequested
          intro relation value place record path hrelation hvalue hrecord
          exact ih name request hmem (hspec.getD hmem) (hdescribes.nested hrelation)
            (Relation.ordered_of_mem_placedRecords (hraw.get? hvalue) hrecord) path
        have hcolumns : ∀ name ∈ schema.columnNames entity,
            (Keyed.restrict (schema.kept (.mk fields requests) relations entity) entries).get?
              name = Keyed.get? entries name :=
          fun _ hname => get?_column_of_pruned hraw.distinct hdescribes hname
        have hvalidation :=
          Step.failure?_validation_congr hvalidators hdescribes.known hcolumns path
        rw [prune_object, Spec.steps, Spec.steps, Spec.stepsOfRecord, Spec.stepsOfRecord]
        simp only [List.map_cons, List.map_append]
        rw [failures_stepsOfRequests_congr hrequests]
        cases fields with
        | none => simp [hvalidation]
        | some names => simp
      · rw [hsame]

/-- Data that is pruned first is reshaped to the same result, or refused with the same error. -/
theorem outcome_reshapeAt_prune (hvalidators : schema.validators engine = .ok validators)
    {spec : Spec} (hspec : spec.WellFormed) {relations : RelationMap} {entity : String}
    (hdescribes : schema.Describes entity relations) {raw : Value} (hraw : raw.Ordered)
    (path : Path) :
    (spec.reshapeAt validators relations entity (schema.prune spec relations entity raw)
        path).outcome =
      (spec.reshapeAt validators relations entity raw path).outcome := by
  have hexecutes := spec.executes_reshapeAt relations validators entity
  have hreshapes := reshapes_reshapeAt hvalidators hspec hdescribes
  cases hresult : (spec.reshapeAt validators relations entity raw path).outcome with
  | error error =>
      have hfailures := failures_steps_prune hvalidators hspec hdescribes hraw path
      exact ((hexecutes _ path).outcome_eq_error_congr (hexecutes raw path) hfailures error).mpr
        hresult
  | ok value =>
      obtain ⟨hconforms, rfl⟩ := (hreshapes raw path value hraw).mp hresult
      apply (hreshapes _ path _ (ordered_prune spec relations entity hraw)).mpr
      exact ⟨hconforms.prune hdescribes hraw, (prune_prune spec relations entity raw).symm⟩

end Pruned

end Schema

/-- Raw data that becomes the same when what nobody asked for is left out, conforming or not, gives
the same result or the same error. -/
theorem Query.parse_eq_of_prune_eq {engine : PatternEngine} {schema : Schema} {maxDepth : Nat}
    {catalog : Catalog} (hcatalog : Catalog.ofSchema engine schema maxDepth = .ok catalog)
    {entity : String} {spec : WellFormedSpec} {query : Query}
    (hquery : catalog.query entity spec = .ok query) {left right : OrderedValue}
    (hsame : schema.prune spec query.relations entity left =
      schema.prune spec query.relations entity right) :
    (query.parse left).outcome = (query.parse right).outcome := by
  obtain ⟨hentity, hasked, hdescribes, hvalidators⟩ := Catalog.query_ofSchema hcatalog hquery
  have hpruned : ∀ raw : OrderedValue,
      (query.parse raw).outcome =
        (query.parse (schema.prune spec query.relations entity raw)).outcome := by
    intro raw
    rw [Query.parse, Query.parse, hentity, hasked]
    exact (Schema.outcome_reshapeAt_prune hvalidators spec.property hdescribes raw.property
      .root).symm
  calc
    (query.parse left).outcome =
        (query.parse (schema.prune spec query.relations entity left)).outcome :=
      hpruned left
    _ = (query.parse (schema.prune spec query.relations entity right)).outcome := by rw [hsame]
    _ = (query.parse right).outcome := (hpruned right).symm

/-- Neither what else was seen of the user nor an author that nobody asked for makes a difference
for the post that is refused. -/
theorem parse_eq_of_refusedTitle :
    let query := Query.ofUser (WellFormedSpec.empty.withRelation "posts" none)
    let refused : Value := .object [("title", .bool true)]
    let written : Value := .object [("author", .number (.integer 1)), ("title", .bool true)]
    let left : Value := .object [("id", .string "u1"), ("posts", .array [refused])]
    let right : Value :=
      .object [("id", .string "u1"), ("posts", .array [written]), ("seen", .bool true)]
    (query.parse left).outcome = (query.parse right).outcome ∧
      ∃ error, (query.parse right).outcome = .error error ∧
        error.path? = some [.field "posts", .index 0, .field "title"] := by
  intro query refused written left right
  have hleft : left.Ordered := by decide
  have hright : right.Ordered := by decide
  refine ⟨?_, _, rfl, rfl⟩
  exact @Query.parse_eq_of_prune_eq _ _ _ _ Catalog.ofSchema_blog _
    (WellFormedSpec.empty.withRelation "posts" none) _ (Catalog.query_blog _) ⟨left, hleft⟩
    ⟨right, hright⟩ rfl

end QueryShape

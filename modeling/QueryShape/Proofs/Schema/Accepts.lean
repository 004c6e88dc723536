import QueryShape.Proofs.Attempt
import QueryShape.Proofs.Keyed
import QueryShape.Schema.Validator

/-!
# What the validator of a model accepts

The validator of a model looks at the columns of an object and at nothing else, and what it gives
back is the object without everything that is not a column.  So a raw object may carry any other
names: they change neither whether it is accepted nor what becomes of its columns.
-/

namespace QueryShape

open Json (Value)

namespace Column

theorem name_of_ofField {engine : PatternEngine} {schema : Schema} {model name : String}
    {field : Field} {column : Column}
    (hcolumn : ofField engine schema model name field = .ok column) :
    column.name = name := by
  unfold ofField at hcolumn
  split at hcolumn
  · cases hcolumn
    rfl
  · split at hcolumn
    · cases hcolumn
      rfl
    · cases hcolumn

end Column

namespace ModelValidator

/-- The validator of a model checks its columns, each in its place. -/
theorem forall₂_of_ofModel {engine : PatternEngine} {schema : Schema} {name : String}
    {validator : ModelValidator} (hvalidator : ofModel engine schema name = .ok validator) :
    ∃ model, schema.model? name = some model ∧
      List.Forall₂
        (fun entry column => Column.ofField engine schema name entry.1 entry.2 = .ok column)
        model.columns validator.columns := by
  unfold ofModel at hvalidator
  split at hvalidator
  · cases hvalidator
  · next model hmodel =>
      obtain ⟨columns, hcolumns, hvalidator⟩ := except_bind_eq_ok.mp hvalidator
      cases hvalidator
      exact ⟨model, hmodel, forall₂_of_mapM_eq_ok hcolumns⟩

theorem validate_eq_ok_iff {validator : ModelValidator} {entries : Keyed Value} {value : Value} :
    validator.validate (.object entries) = .ok value ↔
      validator.issues entries = [] ∧
        value = .object (entries.filter fun entry => validator.columnNames.contains entry.1) := by
  simp only [validate]
  cases validator.issues entries with
  | nil =>
      simp only [Except.ok.injEq, true_and]
      exact eq_comm
  | cons issue issues => simp

/-- Only the columns of an object have issues. -/
theorem issues_congr {validator : ModelValidator} {left right : Keyed Value}
    (hcolumns : ∀ name ∈ validator.columnNames, left.get? name = right.get? name) :
    validator.issues left = validator.issues right := by
  unfold issues
  rw [List.flatMap_congr]
  intro column hcolumn
  rw [hcolumns column.name (List.mem_map_of_mem hcolumn)]

end ModelValidator

namespace Schema

/-- The columns of an entity; there are none if the schema does not have it. -/
def columnNames (schema : Schema) (entity : String) : List String :=
  match schema.model? entity with
  | some model => model.columns.keys
  | none => []

/-- The entity is a model of the schema and its validator accepts the value. -/
def Accepts (engine : PatternEngine) (schema : Schema) (entity : String) (raw : Value) : Prop :=
  ∃ validator value, ModelValidator.ofModel engine schema entity = .ok validator ∧
    validator.validate raw = .ok value

/-- The entries of an object that are columns of an entity. -/
def columnsOf (schema : Schema) (entity : String) (entries : Keyed Value) : Keyed Value :=
  entries.restrict fun name raw =>
    if (schema.columnNames entity).contains name then some raw else none

theorem columnNames_of_ofModel {engine : PatternEngine} {schema : Schema} {entity : String}
    {validator : ModelValidator}
    (hvalidator : ModelValidator.ofModel engine schema entity = .ok validator) :
    validator.columnNames = schema.columnNames entity := by
  obtain ⟨model, hmodel, hcolumns⟩ := ModelValidator.forall₂_of_ofModel hvalidator
  simp only [columnNames, hmodel, ModelValidator.columnNames, Keyed.keys]
  symm
  rw [← List.forall₂_eq_eq_eq, List.forall₂_map_left_iff, List.forall₂_map_right_iff]
  exact hcolumns.imp fun entry column hcolumn => (Column.name_of_ofField hcolumn).symm

/-- An accepted object is reduced to its columns. -/
theorem validate_eq_ok_iff_accepts {engine : PatternEngine} {schema : Schema} {entity : String}
    {validator : ModelValidator}
    (hvalidator : ModelValidator.ofModel engine schema entity = .ok validator)
    (entries : Keyed Value) (value : Value) :
    validator.validate (.object entries) = .ok value ↔
      schema.Accepts engine entity (.object entries) ∧
        value = .object (schema.columnsOf entity entries) := by
  have hfilter : entries.filter (fun entry => validator.columnNames.contains entry.1) =
      schema.columnsOf entity entries := by
    rw [columnNames_of_ofModel hvalidator]
    exact Keyed.filter_eq_restrict (schema.columnNames entity).contains entries
  constructor
  · intro hvalidate
    refine ⟨⟨validator, value, hvalidator, hvalidate⟩, ?_⟩
    rw [(ModelValidator.validate_eq_ok_iff.mp hvalidate).2, hfilter]
  · rintro ⟨⟨other, accepted, hother, hvalidate⟩, rfl⟩
    obtain rfl : validator = other := Except.ok.inj (hvalidator.symm.trans hother)
    rw [← hfilter]
    exact ModelValidator.validate_eq_ok_iff.mpr
      ⟨(ModelValidator.validate_eq_ok_iff.mp hvalidate).1, rfl⟩

/-- Objects that agree on the columns of an entity are accepted alike. -/
theorem accepts_congr {engine : PatternEngine} {schema : Schema} {entity : String}
    {left right : Keyed Value}
    (hcolumns : ∀ name ∈ schema.columnNames entity, left.get? name = right.get? name)
    (hleft : schema.Accepts engine entity (.object left)) :
    schema.Accepts engine entity (.object right) := by
  obtain ⟨validator, value, hvalidator, hvalidate⟩ := hleft
  rw [← columnNames_of_ofModel hvalidator] at hcolumns
  refine ⟨validator, _, hvalidator, ModelValidator.validate_eq_ok_iff.mpr ⟨?_, rfl⟩⟩
  rw [← ModelValidator.issues_congr hcolumns]
  exact (ModelValidator.validate_eq_ok_iff.mp hvalidate).1

/-- Every model of a schema has its validator among those of the schema. -/
theorem get?_validators {engine : PatternEngine} {schema : Schema} {validators : Validators}
    (hvalidators : schema.validators engine = .ok validators) {entity : String}
    (hentity : (schema.model? entity).isSome) :
    ∃ validator, ModelValidator.ofModel engine schema entity = .ok validator ∧
      validators.get? entity = some validator.validate := by
  have hall := forall₂_of_mapM_eq_ok hvalidators
  clear hvalidators
  unfold model? at hentity
  generalize schema.models = models at hall hentity
  induction hall with
  | nil => simp at hentity
  | @cons entry made models rest hmade _ ih =>
      obtain ⟨name, model⟩ := entry
      obtain ⟨validator, hvalidator, hmade⟩ := except_bind_eq_ok.mp hmade
      cases hmade
      by_cases hname : name = entity
      · subst hname
        exact ⟨validator, hvalidator, by simp⟩
      · rw [Keyed.get?_cons, if_neg hname] at hentity
        rw [Keyed.get?_cons, if_neg hname]
        exact ih hentity

end Schema

end QueryShape

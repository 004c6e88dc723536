import QueryShape.Proofs.Pattern.Groups
import QueryShape.Proofs.Query.Entities
import QueryShape.Proofs.Schema.Checked
import QueryShape.Proofs.Schema.Conforming

/-!
# Construction from a checked schema

All that can keep a catalog from being made from a schema is the pattern of a column.  The check of
a schema has its engine compile every pattern as it is written, but a validator has it compile the
pattern in a group between the two ends of the text.  A pattern on its own may fail there: one that
ends in an open comment takes in the end of the group.
-/

namespace QueryShape

/-- A column of a model of the schema has a pattern. -/
def Schema.HasPattern (schema : Schema) (name column text : String) : Prop :=
  ∃ model field, schema.model? name = some model ∧ (column, field) ∈ model.columns ∧
    field.pattern = some text

variable {engine : PatternEngine} {schema : Schema}

/-- A column fails on nothing but its pattern. -/
theorem Column.of_ofField_eq_error {model name : String} {field : Field} {error : SchemaError}
    (hfailed : ofField engine schema model name field = .error error) :
    ∃ text explanation, error = .invalidPattern model name explanation ∧
      field.pattern = some text ∧ engine.compile (wholeText text) = .error explanation := by
  simp only [ofField] at hfailed
  cases htext : field.pattern with
  | none =>
      rw [htext] at hfailed
      cases hfailed
  | some text =>
      simp only [htext] at hfailed
      cases hcompiled : engine.compile (wholeText text) with
      | ok test =>
          rw [hcompiled] at hfailed
          cases hfailed
      | error explanation =>
          rw [hcompiled] at hfailed
          cases hfailed
          exact ⟨text, explanation, rfl, rfl, hcompiled⟩

namespace ModelValidator

/-- A validator is made with all the patterns of its columns. -/
theorem accepts_wholeText_of_ofModel {name : String} {validator : ModelValidator}
    (hvalidator : ofModel engine schema name = .ok validator) {column text : String}
    (htext : schema.HasPattern name column text) : engine.Accepts (Column.wholeText text) := by
  obtain ⟨model, field, hmodel, hfield, htext⟩ := htext
  obtain ⟨same, hsame, hcolumns⟩ := forall₂_of_ofModel hvalidator
  obtain rfl : model = same := Option.some.inj (hmodel.symm.trans hsame)
  obtain ⟨made, -, hmade⟩ := exists_of_forall₂_of_mem hcolumns hfield
  exact (Column.madeFrom_of_ofField hmade).usable text htext

/-- The failure to make the validator of a model is that of a pattern of a column. -/
theorem exists_pattern_of_ofModel_eq_error {name : String} (hknown : name ∈ schema.models.keys)
    {error : SchemaError} (hfailed : ofModel engine schema name = .error error) :
    ∃ column text explanation, error = .invalidPattern name column explanation ∧
      schema.HasPattern name column text ∧
        engine.compile (Column.wholeText text) = .error explanation := by
  obtain ⟨model, hmodel⟩ := Option.isSome_iff_exists.mp (Keyed.get?_isSome_iff.mpr hknown)
  have hmodel : schema.model? name = some model := hmodel
  simp only [ofModel, hmodel] at hfailed
  obtain ⟨⟨column, field⟩, hfield, hcolumn⟩ :=
    exists_of_mapM_eq_error (except_bind_pure_eq_error.mp hfailed)
  obtain ⟨text, explanation, herror, htext, hcompiled⟩ := Column.of_ofField_eq_error hcolumn
  exact ⟨column, text, explanation, herror, ⟨model, field, hmodel, hfield, htext⟩, hcompiled⟩

/-- A model has a validator exactly if all its patterns compile in their groups. -/
theorem exists_ofModel_iff {name : String} (hknown : name ∈ schema.models.keys) :
    (∃ validator, ofModel engine schema name = .ok validator) ↔
      ∀ column text, schema.HasPattern name column text →
        engine.Accepts (Column.wholeText text) := by
  constructor
  · rintro ⟨validator, hvalidator⟩ column text htext
    exact accepts_wholeText_of_ofModel hvalidator htext
  · intro hall
    cases hmade : ofModel engine schema name with
    | ok validator => exact ⟨validator, rfl⟩
    | error error =>
        obtain ⟨column, text, explanation, -, htext, hcompiled⟩ :=
          exists_pattern_of_ofModel_eq_error hknown hmade
        exact absurd (hall column text htext)
          (PatternEngine.not_accepts_iff.mpr ⟨explanation, hcompiled⟩)

end ModelValidator

namespace Catalog

/-- The failure to make a catalog is that of a pattern of a column. -/
theorem exists_pattern_of_ofSchema_eq_error {maxDepth : Nat} {error : SchemaError}
    (hfailed : ofSchema engine schema maxDepth = .error error) :
    ∃ name column text explanation, error = .invalidPattern name column explanation ∧
      schema.HasPattern name column text ∧
        engine.compile (Column.wholeText text) = .error explanation := by
  have hvalidators : schema.validators engine = .error error :=
    except_bind_pure_eq_error.mp hfailed
  obtain ⟨⟨name, declared⟩, hdeclared, hstep⟩ := exists_of_mapM_eq_error hvalidators
  obtain ⟨column, text, explanation, hfailure⟩ :=
    ModelValidator.exists_pattern_of_ofModel_eq_error (Keyed.mem_keys_of_mem hdeclared)
      (except_bind_pure_eq_error.mp hstep)
  exact ⟨name, column, text, explanation, hfailure⟩

/-- A schema has a catalog exactly if all patterns of its columns compile in their groups. -/
theorem exists_ofSchema_iff {maxDepth : Nat} :
    (∃ catalog, ofSchema engine schema maxDepth = .ok catalog) ↔
      ∀ name column text, schema.HasPattern name column text →
        engine.Accepts (Column.wholeText text) := by
  constructor
  · rintro ⟨catalog, hcatalog⟩ name column text htext
    obtain ⟨model, field, hmodel, hfield, hpattern⟩ := htext
    obtain ⟨validator, hvalidator, -⟩ :=
      Schema.get?_validators (of_ofSchema hcatalog).2 (Option.isSome_of_eq_some hmodel)
    exact ModelValidator.accepts_wholeText_of_ofModel hvalidator
      ⟨model, field, hmodel, hfield, hpattern⟩
  · intro hall
    cases hmade : ofSchema engine schema maxDepth with
    | ok catalog => exact ⟨catalog, rfl⟩
    | error error =>
        obtain ⟨name, column, text, explanation, -, htext, hcompiled⟩ :=
          exists_pattern_of_ofSchema_eq_error hmade
        exact absurd (hall name column text htext)
          (PatternEngine.not_accepts_iff.mpr ⟨explanation, hcompiled⟩)

/-- Whatever the engine, a checked schema has a catalog, at any depth, exactly if all patterns of
its columns compile in their groups, and a model of it has a validator exactly if those of its
columns do.  A failure is that of a column whose pattern compiles as it is written, and it carries
the explanation of the engine for the group.  If the engine has groups closed, there is no catalog
as soon as a pattern can take in what ends its group. -/
theorem exists_ofSchema_iff_accepts_wholeText (hchecked : schema.validated engine = .ok schema)
    (maxDepth : Nat) :
    ((∃ catalog, ofSchema engine schema maxDepth = .ok catalog) ↔
      ∀ name column text, schema.HasPattern name column text →
        engine.Accepts (Column.wholeText text)) ∧
      (∀ name ∈ schema.models.keys,
        (∃ validator, ModelValidator.ofModel engine schema name = .ok validator) ↔
          ∀ column text, schema.HasPattern name column text →
            engine.Accepts (Column.wholeText text)) ∧
      (∀ error, ofSchema engine schema maxDepth = .error error →
        ∃ name column text explanation, error = .invalidPattern name column explanation ∧
          schema.HasPattern name column text ∧ engine.Accepts text ∧
            engine.compile (Column.wholeText text) = .error explanation) ∧
      (engine.GroupsEnd → ∀ name column text, schema.HasPattern name column text →
        engine.Accepts (text ++ ")$") →
          ¬∃ catalog, ofSchema engine schema maxDepth = .ok catalog) := by
  refine ⟨exists_ofSchema_iff, fun name hknown => ModelValidator.exists_ofModel_iff hknown,
    ?failure, ?opened⟩
  case failure =>
    intro error hfailed
    obtain ⟨name, column, text, explanation, herror, hpattern, hcompiled⟩ :=
      exists_pattern_of_ofSchema_eq_error hfailed
    refine ⟨name, column, text, explanation, herror, hpattern, ?_, hcompiled⟩
    obtain ⟨model, field, hmodel, hfield, htext⟩ := hpattern
    exact Schema.accepts_of_validated hchecked (Keyed.mem_of_get?_eq_some hmodel)
      (List.mem_filter.mp hfield).1 htext
  case opened =>
    intro hgroups name column text hpattern hopen hmade
    have hwhole := exists_ofSchema_iff.mp hmade name column text hpattern
    have heq : Column.wholeText text = "^(?:" ++ (text ++ ")$") := String.append_assoc
    rw [heq] at hwhole
    exact hgroups _ hopen hwhole

/-- A word may be held against a pattern with a comment at its end, if the comment has an end. -/
theorem exists_ofSchema_iff_accepts_wholeText_words :
    let engine := Pattern.engine
    let words (pattern : String) : Schema :=
      Schema.empty.withModel "word" (Model.withField {} "text" { type := .string, pattern })
    (words "(?x)a # first\n").validated engine = .ok (words "(?x)a # first\n") ∧
      (∃ catalog, ofSchema engine (words "(?x)a # first\n") 3 = .ok catalog) ∧
      engine.Accepts (Column.wholeText "(?x)a # first\n") ∧
      (words "(?x)a # first").validated engine = .ok (words "(?x)a # first") ∧
      engine.GroupsEnd ∧ engine.Accepts ("(?x)a # first" ++ ")$") ∧
      ¬∃ catalog, ofSchema engine (words "(?x)a # first") 3 = .ok catalog := by
  intro engine words
  have hended : (words "(?x)a # first\n").validated engine = .ok (words "(?x)a # first\n") := by
    decide +kernel
  have hopen : (words "(?x)a # first").validated engine = .ok (words "(?x)a # first") := by
    decide +kernel
  have hcatalog : ∃ catalog, ofSchema engine (words "(?x)a # first\n") 3 = .ok catalog := ⟨_, rfl⟩
  have hgroups : engine.GroupsEnd := Pattern.groupsEnd_engine
  have htaken : engine.Accepts ("(?x)a # first" ++ ")$") := Pattern.accepts_engine_iff.mpr rfl
  refine ⟨hended, hcatalog, ?_, hopen, hgroups, htaken, ?_⟩
  · apply (exists_ofSchema_iff_accepts_wholeText hended 3).1.mp hcatalog "word" "text"
    exact ⟨_, _, rfl, List.mem_singleton_self _, rfl⟩
  · apply (exists_ofSchema_iff_accepts_wholeText hopen 3).2.2.2 hgroups "word" "text" _ _ htaken
    exact ⟨_, _, rfl, List.mem_singleton_self _, rfl⟩

/-- A checked schema whose only pattern leaves a comment open has no catalog. -/
theorem not_ofSchema_of_validated :
    let schema : Schema := { models := [("m", { fields := [
      ("x", { type := .string, pattern := some "(?x)a # c" })] })] }
    schema.validated Pattern.engine = .ok schema ∧
      ∀ maxDepth, ¬∃ catalog, ofSchema Pattern.engine schema maxDepth = .ok catalog := by
  intro schema
  refine ⟨by decide +kernel, ?_⟩
  rintro maxDepth ⟨catalog, hcatalog⟩
  cases hcatalog

end Catalog

end QueryShape

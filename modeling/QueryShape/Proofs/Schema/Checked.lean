import QueryShape.Proofs.Keyed
import QueryShape.Schema.Failure

/-!
# Checked schemas

The check reports every fault of every field as an error, so a schema in which it finds no errors
has none of these faults: no field misses its target, constraints stand where they apply, and
patterns are patterns.
-/

namespace QueryShape

namespace Schema

variable {engine : PatternEngine} {schema : Schema}

/-- Every fault of a field is reported, at the model and under the name of the field. -/
theorem mem_check_of_fault {name : String} {model : Model} (hmodel : (name, model) ∈ schema.models)
    {field : String} {definition : Field} (hfield : (field, definition) ∈ model.fields)
    {fault : FieldFault} (hfault : fault ∈ schema.fieldFaults engine definition) :
    fault.toDiagnostic name field definition.type ∈ schema.check engine := by
  apply List.mem_append_right
  apply List.mem_flatMap.mpr
  refine ⟨(name, model), hmodel, List.mem_append_right _ ?_⟩
  exact List.mem_flatMap.mpr ⟨(field, definition), hfield, List.mem_map_of_mem hfault⟩

theorem validated_eq_ok_iff :
    schema.validated engine = .ok schema ↔ (schema.check engine).errors = [] := by
  rw [validated]
  cases (schema.check engine).errors <;> simp

/-- The fields of a checked schema have no faults. -/
theorem fieldFaults_eq_nil_of_validated (hchecked : schema.validated engine = .ok schema)
    {name : String} {model : Model} (hmodel : (name, model) ∈ schema.models) {field : String}
    {definition : Field} (hfield : (field, definition) ∈ model.fields) :
    schema.fieldFaults engine definition = [] := by
  have hnone := List.filter_eq_nil_iff.mp (validated_eq_ok_iff.mp hchecked)
  apply List.eq_nil_iff_forall_not_mem.mpr
  intro fault hfault
  exact hnone _ (mem_check_of_fault hmodel hfield hfault) rfl

theorem constraintFaults_eq_nil_of_fieldFaults {field : Field}
    (hfaults : schema.fieldFaults engine field = []) : constraintFaults engine field = [] := by
  rw [fieldFaults] at hfaults
  split at hfaults
  · split at hfaults
    · cases hfaults
    · exact (List.append_eq_nil_iff.mp hfaults).2
  · exact hfaults

theorem patternFaults_eq_nil_iff {field : Field} :
    patternFaults engine field = [] ↔ ∀ text, field.pattern = some text → engine.Accepts text := by
  unfold patternFaults PatternEngine.Accepts
  cases field.pattern with
  | none => simp
  | some text => cases hcompiled : engine.compile text <;> simp [hcompiled]

/-- The patterns of a checked schema are patterns as they are written. -/
theorem accepts_of_validated (hchecked : schema.validated engine = .ok schema) {name : String}
    {model : Model} (hmodel : (name, model) ∈ schema.models) {field : String} {definition : Field}
    (hfield : (field, definition) ∈ model.fields) {text : String}
    (htext : definition.pattern = some text) : engine.Accepts text := by
  have hfaults := constraintFaults_eq_nil_of_fieldFaults
    (fieldFaults_eq_nil_of_validated hchecked hmodel hfield)
  rw [constraintFaults, List.append_eq_nil_iff] at hfaults
  exact patternFaults_eq_nil_iff.mp hfaults.2 text htext

end Schema

end QueryShape

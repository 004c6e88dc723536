import QueryShape.Proofs.Schema.Checked

/-!
# The faults of fields

What makes a field sound, and which fault it has where it is not, is said condition by condition and
without the check.  The check reports the faults of each field in the order of the conditions, field
after field as the schema lists them.  So a schema passes exactly if all its fields are sound, and
the first error is the first fault of the first field that is not.
-/

namespace QueryShape

/-- The conditions on a field of a schema. -/
structure Field.Sound (engine : PatternEngine) (schema : Schema) (field : Field) : Prop where
  relation : field.type = .relation →
    ∃ target model, field.target = some target ∧ schema.model? target = some model
  enumeration : field.type = .enumeration →
    ∃ target values, field.target = some target ∧ schema.enumValues? target = some values
  textual : field.type ≠ .string → field.minLength = none ∧ field.maxLength = none ∧
    field.email = false ∧ field.url = false ∧ field.pattern = none
  numeric : field.type ∉ [FieldType.int, .float, .bigInt, .decimal] →
    field.min = none ∧ field.max = none
  lengths : ∀ least most, field.minLength = some least → field.maxLength = some most →
    least ≤ most
  pattern : ∀ text, field.pattern = some text → engine.Accepts text

namespace FieldFault

/-- The field has the fault: it violates the condition that the fault is about. -/
def IsIn (engine : PatternEngine) (schema : Schema) (field : Field) : FieldFault → Prop
  | .missingTarget =>
      (field.type = .relation ∨ field.type = .enumeration) ∧ field.target = none
  | .unknownTarget target => field.target = some target ∧
      (field.type = .relation ∧ schema.model? target = none ∨
        field.type = .enumeration ∧ schema.enumValues? target = none)
  | .misplacedStringConstraints => field.type ≠ .string ∧
      ¬(field.minLength = none ∧ field.maxLength = none ∧ field.email = false ∧
        field.url = false ∧ field.pattern = none)
  | .misplacedNumericConstraints =>
      field.type ∉ [FieldType.int, .float, .bigInt, .decimal] ∧
        ¬(field.min = none ∧ field.max = none)
  | .crossedLengths least most =>
      field.minLength = some least ∧ field.maxLength = some most ∧ most < least
  | .invalidPattern text explanation =>
      field.pattern = some text ∧ engine.compile text = .error explanation

/-- The place of the condition that a fault is about in the order of the conditions. -/
def rank : FieldFault → Nat
  | .missingTarget | .unknownTarget _ => 0
  | .misplacedStringConstraints => 1
  | .misplacedNumericConstraints => 2
  | .crossedLengths _ _ => 3
  | .invalidPattern _ _ => 4

/-- What the error for a fault of a field says: its code, its title and its explanation. -/
inductive Tells : FieldType → FieldFault → String → String → Option String → Prop
  | missingModel : Tells .relation .missingTarget "S0001" "model field without a `target`" none
  | missingEnum : Tells .enumeration .missingTarget "S0001" "enum field without a `target`" none
  | unknownModel (target : String) :
      Tells .relation (.unknownTarget target) "S0002" s!"unknown model `{target}`" none
  | unknownEnum (target : String) :
      Tells .enumeration (.unknownTarget target) "S0003" s!"unknown enum `{target}`" none
  | misplacedStringConstraints (type : FieldType) :
      Tells type .misplacedStringConstraints "S0010" "string constraints on a non-string field" none
  | misplacedNumericConstraints (type : FieldType) :
      Tells type .misplacedNumericConstraints "S0010" "numeric constraints on a non-numeric field"
        none
  | crossedLengths (type : FieldType) (least most : Nat) :
      Tells type (.crossedLengths least most) "S0010" s!"minLength {least} exceeds maxLength {most}"
        none
  | invalidPattern (type : FieldType) (text explanation : String) :
      Tells type (.invalidPattern text explanation) "S0011" s!"invalid pattern `{text}`"
        (some explanation)

end FieldFault

namespace Schema

variable {engine : PatternEngine} {schema : Schema} {field : Field} {fault : FieldFault}

/-! ## The faults of one field -/

theorem hasStringConstraints_iff :
    field.hasStringConstraints = true ↔
      ¬(field.minLength = none ∧ field.maxLength = none ∧ field.email = false ∧
        field.url = false ∧ field.pattern = none) := by
  cases hleast : field.minLength <;> cases hmost : field.maxLength <;>
    cases hemail : field.email <;> cases hpattern : field.pattern <;>
    simp [Field.hasStringConstraints, hleast, hmost, hemail, hpattern]

theorem hasNumericConstraints_iff :
    field.hasNumericConstraints = true ↔ ¬(field.min = none ∧ field.max = none) := by
  cases hmin : field.min <;> cases hmax : field.max <;>
    simp [Field.hasNumericConstraints, hmin, hmax]

theorem isNumeric_iff {type : FieldType} :
    type.isNumeric = true ↔ type ∈ [FieldType.int, .float, .bigInt, .decimal] := by
  cases type <;> decide

theorem mem_lengthFaults_iff :
    fault ∈ lengthFaults field ↔ ∃ least most, fault = .crossedLengths least most ∧
      field.minLength = some least ∧ field.maxLength = some most ∧ most < least := by
  unfold lengthFaults
  cases field.minLength <;> cases field.maxLength <;> simp [and_comm]

theorem mem_patternFaults_iff :
    fault ∈ patternFaults engine field ↔ ∃ text explanation,
      fault = .invalidPattern text explanation ∧ field.pattern = some text ∧
        engine.compile text = .error explanation := by
  unfold patternFaults
  cases field.pattern with
  | none => simp
  | some text => cases hcompiled : engine.compile text <;> simp [hcompiled]

/-- The faults of the constraints are those that are not about the target. -/
theorem mem_constraintFaults_iff (schema : Schema) :
    fault ∈ constraintFaults engine field ↔ fault.IsIn engine schema field ∧ 0 < fault.rank := by
  have htextual : (field.hasStringConstraints && !field.type.isTextual) = true ↔
      FieldFault.misplacedStringConstraints.IsIn engine schema field := by
    simp [FieldFault.IsIn, hasStringConstraints_iff, FieldType.isTextual, and_comm]
  have hnumeric : (field.hasNumericConstraints && !field.type.isNumeric) = true ↔
      FieldFault.misplacedNumericConstraints.IsIn engine schema field := by
    rw [Bool.and_eq_true, hasNumericConstraints_iff, Bool.not_eq_true', ← Bool.not_eq_true,
      isNumeric_iff, FieldFault.IsIn, and_comm]
  rw [constraintFaults, List.mem_append, List.mem_append, List.mem_append,
    List.mem_ite_nil_right, List.mem_ite_nil_right, List.mem_singleton, List.mem_singleton,
    htextual, hnumeric, mem_lengthFaults_iff, mem_patternFaults_iff]
  cases fault <;> simp [FieldFault.IsIn, FieldFault.rank]

theorem knowsTarget_eq_false_iff {target : String}
    (hneeded : field.type = .relation ∨ field.type = .enumeration)
    (htarget : field.target = some target) :
    schema.knowsTarget field.type target = false ↔
      (FieldFault.unknownTarget target).IsIn engine schema field := by
  rcases hneeded with htype | htype <;> simp [knowsTarget, FieldFault.IsIn, htype, htarget]

/-- The check finds the faults that a field has; a missing target hides the others. -/
theorem mem_fieldFaults_iff :
    fault ∈ schema.fieldFaults engine field ↔
      fault.IsIn engine schema field ∧
        (fault = .missingTarget ∨ ¬FieldFault.missingTarget.IsIn engine schema field) := by
  unfold fieldFaults
  split
  · next hneeded =>
      cases htarget : field.target with
      | none =>
          have hmissing : FieldFault.missingTarget.IsIn engine schema field := ⟨hneeded, htarget⟩
          simp only [List.mem_singleton, hmissing, not_true_eq_false, or_false]
          exact ⟨fun heq => ⟨heq ▸ hmissing, heq⟩, And.right⟩
      | some target =>
          have hfound : ¬FieldFault.missingTarget.IsIn engine schema field := by
            simp [FieldFault.IsIn, htarget]
          have hunknown : schema.knowsTarget field.type target = false ↔
              (FieldFault.unknownTarget target).IsIn engine schema field :=
            knowsTarget_eq_false_iff hneeded htarget
          simp only [List.mem_append, List.mem_ite_nil_left, List.mem_singleton, hunknown,
            Bool.not_eq_true, mem_constraintFaults_iff schema, hfound, not_false_eq_true,
            or_true, and_true]
          constructor
          · rintro (⟨hin, rfl⟩ | ⟨hin, -⟩) <;> exact hin
          · intro hin
            cases fault with
            | missingTarget => exact absurd hin hfound
            | unknownTarget other =>
                obtain rfl : target = other := Option.some.inj (htarget.symm.trans hin.1)
                exact Or.inl ⟨hin, rfl⟩
            | _ => exact Or.inr ⟨hin, Nat.succ_pos _⟩
  · next hneeded =>
      rw [mem_constraintFaults_iff schema]
      constructor
      · exact fun ⟨hin, _⟩ => ⟨hin, Or.inr fun hmissing => hneeded hmissing.1⟩
      · rintro ⟨hin, -⟩
        cases fault with
        | missingTarget => exact absurd hin.1 hneeded
        | unknownTarget target => exact absurd (hin.2.imp And.left And.left) hneeded
        | _ => exact ⟨hin, Nat.succ_pos _⟩

/-! ## The order of the faults -/

/-- The faults come in the order of the conditions and are about conditions before the given
place. -/
def RankedBelow (place : Nat) (faults : List FieldFault) : Prop :=
  (faults.Pairwise fun before after => before.rank < after.rank) ∧
    ∀ fault ∈ faults, fault.rank < place

section Ranking

variable {place : Nat} {faults : List FieldFault} (hfaults : RankedBelow place faults)
include hfaults

theorem RankedBelow.weaken : RankedBelow (place + 1) faults :=
  ⟨hfaults.1, fun fault hfault => (hfaults.2 fault hfault).trans (Nat.lt_succ_self place)⟩

theorem RankedBelow.concat (hrank : fault.rank = place) :
    RankedBelow (place + 1) (faults ++ [fault]) := by
  constructor
  · apply List.pairwise_append.mpr
    refine ⟨hfaults.1, List.pairwise_singleton _ fault, ?_⟩
    intro before hbefore after hafter
    rw [List.mem_singleton.mp hafter, hrank]
    exact hfaults.2 before hbefore
  · intro other hother
    rcases List.mem_append.mp hother with hother | hother
    · exact hfaults.weaken.2 other hother
    · rw [List.mem_singleton.mp hother, hrank]
      exact Nat.lt_succ_self place

theorem RankedBelow.append_ite (condition : Prop) [Decidable condition]
    (hrank : fault.rank = place) :
    RankedBelow (place + 1) (faults ++ if condition then [fault] else []) := by
  split
  · exact hfaults.concat hrank
  · rw [List.append_nil]
    exact hfaults.weaken

end Ranking

section Ranking

variable {faults : List FieldFault} (field : Field)

theorem RankedBelow.append_lengthFaults (hfaults : RankedBelow 3 faults) :
    RankedBelow 4 (faults ++ lengthFaults field) := by
  unfold lengthFaults
  split
  · exact hfaults.append_ite _ rfl
  · rw [List.append_nil]
    exact hfaults.weaken

theorem RankedBelow.append_patternFaults (hfaults : RankedBelow 4 faults) :
    RankedBelow 5 (faults ++ patternFaults engine field) := by
  unfold patternFaults
  split
  · rw [List.append_nil]
    exact hfaults.weaken
  · split
    · rw [List.append_nil]
      exact hfaults.weaken
    · exact hfaults.concat rfl

theorem RankedBelow.append_constraintFaults (hfaults : RankedBelow 1 faults) :
    RankedBelow 5 (faults ++ constraintFaults engine field) := by
  rw [constraintFaults]
  simp only [← List.append_assoc]
  apply RankedBelow.append_patternFaults
  apply RankedBelow.append_lengthFaults
  exact (hfaults.append_ite _ rfl).append_ite _ rfl

end Ranking

theorem pairwise_rank_fieldFaults (engine : PatternEngine) (schema : Schema) (field : Field) :
    (schema.fieldFaults engine field).Pairwise fun before after => before.rank < after.rank := by
  have hnone : RankedBelow 0 [] := ⟨.nil, by simp⟩
  unfold fieldFaults
  split
  · cases field.target with
    | none => exact List.pairwise_singleton _ _
    | some target =>
        have htarget : RankedBelow 1
            (if schema.knowsTarget field.type target then [] else [.unknownTarget target]) := by
          split
          · exact hnone.weaken
          · exact hnone.concat rfl
        exact (htarget.append_constraintFaults field).1
  · exact (hnone.weaken.append_constraintFaults field).1

/-! ## Sound fields -/

/-- A field is sound exactly if it has no fault. -/
theorem sound_iff :
    field.Sound engine schema ↔ ∀ fault : FieldFault, ¬fault.IsIn engine schema field := by
  constructor
  · intro hsound fault hin
    cases fault with
    | missingTarget =>
        obtain ⟨hrelation | henumeration, hnone⟩ := hin
        · obtain ⟨target, _, htarget, -⟩ := hsound.relation hrelation
          cases hnone.symm.trans htarget
        · obtain ⟨target, _, htarget, -⟩ := hsound.enumeration henumeration
          cases hnone.symm.trans htarget
    | unknownTarget target =>
        obtain ⟨hunknown, ⟨hrelation, hnone⟩ | ⟨henumeration, hnone⟩⟩ := hin
        · obtain ⟨known, model, htarget, hmodel⟩ := hsound.relation hrelation
          obtain rfl : target = known := Option.some.inj (hunknown.symm.trans htarget)
          cases hnone.symm.trans hmodel
        · obtain ⟨known, values, htarget, hvalues⟩ := hsound.enumeration henumeration
          obtain rfl : target = known := Option.some.inj (hunknown.symm.trans htarget)
          cases hnone.symm.trans hvalues
    | misplacedStringConstraints => exact hin.2 (hsound.textual hin.1)
    | misplacedNumericConstraints => exact hin.2 (hsound.numeric hin.1)
    | crossedLengths least most =>
        obtain ⟨hleast, hmost, hcrossed⟩ := hin
        exact absurd (hsound.lengths least most hleast hmost) (Nat.not_le.mpr hcrossed)
    | invalidPattern text explanation =>
        obtain ⟨test, htest⟩ := hsound.pattern text hin.1
        cases hin.2.symm.trans htest
  · intro hnone
    refine ⟨?relation, ?enumeration, ?textual, ?numeric, ?lengths, ?pattern⟩
    case relation =>
      intro hrelation
      cases htarget : field.target with
      | none => exact absurd ⟨Or.inl hrelation, htarget⟩ (hnone .missingTarget)
      | some target =>
          cases hmodel : schema.model? target with
          | none =>
              exact absurd ⟨htarget, Or.inl ⟨hrelation, hmodel⟩⟩ (hnone (.unknownTarget target))
          | some model => exact ⟨target, model, rfl, hmodel⟩
    case enumeration =>
      intro henumeration
      cases htarget : field.target with
      | none => exact absurd ⟨Or.inr henumeration, htarget⟩ (hnone .missingTarget)
      | some target =>
          cases hvalues : schema.enumValues? target with
          | none =>
              exact absurd ⟨htarget, Or.inr ⟨henumeration, hvalues⟩⟩
                (hnone (.unknownTarget target))
          | some values => exact ⟨target, values, rfl, hvalues⟩
    case textual =>
      exact fun htype => not_not.mp fun hset => hnone .misplacedStringConstraints ⟨htype, hset⟩
    case numeric =>
      exact fun htype => not_not.mp fun hset => hnone .misplacedNumericConstraints ⟨htype, hset⟩
    case lengths =>
      intro least most hleast hmost
      exact Nat.not_lt.mp fun hcrossed =>
        hnone (.crossedLengths least most) ⟨hleast, hmost, hcrossed⟩
    case pattern =>
      intro text htext
      by_contra hinvalid
      obtain ⟨explanation, hexplained⟩ := PatternEngine.not_accepts_iff.mp hinvalid
      exact hnone (.invalidPattern text explanation) ⟨htext, hexplained⟩

theorem fieldFaults_eq_nil_iff :
    schema.fieldFaults engine field = [] ↔ field.Sound engine schema := by
  rw [sound_iff, List.eq_nil_iff_forall_not_mem]
  constructor
  · intro hnone fault hin
    -- A missing target is found, and any other fault is found unless the target is missing.
    by_cases hmissing : FieldFault.missingTarget.IsIn engine schema field
    · exact hnone .missingTarget (mem_fieldFaults_iff.mpr ⟨hmissing, Or.inl rfl⟩)
    · exact hnone fault (mem_fieldFaults_iff.mpr ⟨hin, Or.inr hmissing⟩)
  · exact fun hnone fault hfault => hnone fault (mem_fieldFaults_iff.mp hfault).1

/-! ## The errors -/

theorem tells_of_isIn (hin : fault.IsIn engine schema field) :
    fault.Tells field.type (fault.code field.type) (fault.title field.type) fault.message? := by
  cases fault with
  | missingTarget =>
      rcases hin.1 with htype | htype <;> rw [htype]
      · exact .missingModel
      · exact .missingEnum
  | unknownTarget target =>
      rcases hin.2 with ⟨htype, -⟩ | ⟨htype, -⟩ <;> rw [htype]
      · exact .unknownModel target
      · exact .unknownEnum target
  | misplacedStringConstraints => exact .misplacedStringConstraints field.type
  | misplacedNumericConstraints => exact .misplacedNumericConstraints field.type
  | crossedLengths least most => exact .crossedLengths field.type least most
  | invalidPattern text explanation => exact .invalidPattern field.type text explanation

/-! ## The whole schema -/

/-- Every field of every model is sound. -/
def Sound (engine : PatternEngine) (schema : Schema) : Prop :=
  ∀ name model, (name, model) ∈ schema.models → ∀ fieldName field,
    (fieldName, field) ∈ model.fields → field.Sound engine schema

theorem errors_enumDiagnostics (name : String) (values : List String) :
    (enumDiagnostics name values).errors = [] := by
  unfold enumDiagnostics
  split <;> rfl

/-- Every fault of a field is reported as an error at the field, which says what the fault is. -/
theorem forall₂_fieldDiagnostics (engine : PatternEngine) (schema : Schema)
    (name fieldName : String) (field : Field) :
    List.Forall₂ (fun fault (diagnostic : Diagnostic) =>
        diagnostic.severity = .error ∧
          diagnostic.location = { item := some name, field := some fieldName } ∧
          fault.Tells field.type diagnostic.code diagnostic.title diagnostic.message)
      (schema.fieldFaults engine field)
      (schema.fieldDiagnostics engine name fieldName field) := by
  rw [fieldDiagnostics, List.forall₂_map_right_iff, List.forall₂_same]
  intro fault hfault
  exact ⟨rfl, rfl, tells_of_isIn (mem_fieldFaults_iff.mp hfault).1⟩

theorem errors_modelDiagnostics (engine : PatternEngine) (schema : Schema) (name : String)
    (model : Model) :
    (schema.modelDiagnostics engine name model).errors =
      model.fields.flatMap fun entry => schema.fieldDiagnostics engine name entry.1 entry.2 := by
  have hfields : Diagnostics.errors (model.fields.flatMap fun entry =>
      schema.fieldDiagnostics engine name entry.1 entry.2) =
        model.fields.flatMap fun entry => schema.fieldDiagnostics engine name entry.1 entry.2 := by
    apply List.filter_eq_self.mpr
    intro diagnostic hdiagnostic
    obtain ⟨entry, -, hfault⟩ := List.mem_flatMap.mp hdiagnostic
    obtain ⟨fault, -, rfl⟩ := List.mem_map.mp hfault
    rfl
  unfold modelDiagnostics
  split
  · rw [Diagnostics.errors, List.filter_append]
    exact hfields
  · exact hfields

/-- The errors of a schema are the faults of its fields, in the order of the document. -/
theorem errors_check (engine : PatternEngine) (schema : Schema) :
    (schema.check engine).errors = schema.models.flatMap fun (name, model) =>
      model.fields.flatMap fun (fieldName, field) =>
        schema.fieldDiagnostics engine name fieldName field := by
  rw [check, Diagnostics.errors, List.filter_append, List.filter_flatMap, List.filter_flatMap]
  have henums : (schema.enums.flatMap fun entry =>
      (enumDiagnostics entry.1 entry.2).filter Diagnostic.isError) = [] := by
    apply List.flatMap_eq_nil_iff.mpr
    exact fun entry _ => errors_enumDiagnostics entry.1 entry.2
  rw [henums, List.nil_append]
  congr 1
  funext entry
  exact errors_modelDiagnostics engine schema entry.1 entry.2

theorem errors_check_eq_nil_iff : (schema.check engine).errors = [] ↔ schema.Sound engine := by
  simp only [errors_check, List.flatMap_eq_nil_iff, Prod.forall, fieldDiagnostics,
    List.map_eq_nil_iff, fieldFaults_eq_nil_iff, Sound]

/-- Whatever is reported beside the errors is about an item that is empty. -/
theorem exists_empty_of_not_isError {diagnostic : Diagnostic}
    (hreported : diagnostic ∈ schema.check engine) (hwarning : diagnostic.isError = false) :
    ∃ item, diagnostic.location = { item := some item } ∧
      ((item, []) ∈ schema.enums ∨ (item, { fields := [] }) ∈ schema.models) := by
  rcases List.mem_append.mp hreported with henums | hmodels
  · obtain ⟨⟨name, values⟩, hmem, hdiagnostic⟩ := List.mem_flatMap.mp henums
    replace hdiagnostic : diagnostic ∈ enumDiagnostics name values := hdiagnostic
    rw [enumDiagnostics, List.mem_ite_nil_right, List.mem_singleton, List.isEmpty_iff]
      at hdiagnostic
    obtain ⟨rfl, rfl⟩ := hdiagnostic
    exact ⟨name, rfl, Or.inl hmem⟩
  · obtain ⟨⟨name, ⟨fields⟩⟩, hmem, hdiagnostic⟩ := List.mem_flatMap.mp hmodels
    rcases List.mem_append.mp hdiagnostic with hempty | hfields
    · rw [List.mem_ite_nil_right, List.mem_singleton, List.isEmpty_iff] at hempty
      obtain ⟨rfl, rfl⟩ := hempty
      exact ⟨name, rfl, Or.inr hmem⟩
    · obtain ⟨⟨fieldName, field⟩, -, hfault⟩ := List.mem_flatMap.mp hfields
      obtain ⟨fault, -, rfl⟩ := List.mem_map.mp hfault
      cases hwarning

/-- A schema passes the check, as it is, exactly if all its fields are sound, and otherwise the
failure counts the errors and names the first of them.  The errors are those of the fields, one
field after the other.  For each fault that the field has there is one, in the order of the
conditions, but only the one if the target is missing; it lies at the field and tells the fault.
What else is reported is about empty items. -/
theorem check_reports_faults (engine : PatternEngine) (schema : Schema) :
    (schema.validated engine = .ok schema ↔ schema.Sound engine) ∧
      (¬schema.Sound engine → ∃ first, (schema.check engine).errors.head? = some first ∧
        schema.validated engine =
          .error (.faulty (schema.check engine).errors.length first)) ∧
      ((schema.check engine).errors = schema.models.flatMap fun (name, model) =>
        model.fields.flatMap fun (fieldName, field) =>
          schema.fieldDiagnostics engine name fieldName field) ∧
      (∀ (name fieldName : String) (field : Field),
        List.Forall₂ (fun fault (diagnostic : Diagnostic) =>
            diagnostic.severity = .error ∧
              diagnostic.location = { item := some name, field := some fieldName } ∧
              fault.Tells field.type diagnostic.code diagnostic.title diagnostic.message)
          (schema.fieldFaults engine field)
          (schema.fieldDiagnostics engine name fieldName field)) ∧
      (∀ field : Field,
        (∀ fault, fault ∈ schema.fieldFaults engine field ↔ fault.IsIn engine schema field ∧
          (fault = .missingTarget ∨ ¬FieldFault.missingTarget.IsIn engine schema field)) ∧
        (schema.fieldFaults engine field).Pairwise fun before after =>
          before.rank < after.rank) ∧
      ∀ diagnostic ∈ schema.check engine, diagnostic.isError = false →
        ∃ item, diagnostic.location = { item := some item } ∧
          ((item, []) ∈ schema.enums ∨ (item, { fields := [] }) ∈ schema.models) := by
  refine ⟨?passes, ?fails, errors_check engine schema, forall₂_fieldDiagnostics engine schema,
    ?each, fun _ => exists_empty_of_not_isError⟩
  case passes => rw [validated_eq_ok_iff, errors_check_eq_nil_iff]
  case fails =>
    intro hfaulty
    rw [← errors_check_eq_nil_iff] at hfaulty
    obtain ⟨first, rest, herrors⟩ := List.exists_cons_of_ne_nil hfaulty
    refine ⟨first, ?_, ?_⟩
    · rw [herrors, List.head?_cons]
    · simp only [validated, herrors, List.length_cons]
  case each =>
    intro field
    exact ⟨fun fault => mem_fieldFaults_iff, pairwise_rank_fieldFaults engine schema field⟩

/-- An engine without patterns finds three faults in a user: the missing target of a role hides that
the role has a length, an age cannot be an address, and a name has a pattern.  That the enumeration
has no values is reported too, though not as an error. -/
theorem check_reports_faults_user :
    let engine : PatternEngine := { compile := fun _ => .error "no patterns" }
    let role : Field := { type := .enumeration, minLength := some 1 }
    let age : Field := { type := .int, email := true }
    let name : Field := { type := .string, pattern := some "[a-z]+" }
    let schema : Schema := {
      enums := [("role", [])]
      models := [("user", { fields := [("role", role), ("age", age), ("name", name)] })] }
    ¬schema.Sound engine ∧
      (∃ first, schema.validated engine = .error (.faulty 3 first) ∧ first.severity = .error ∧
        first.location = { item := some "user", field := some "role" } ∧ first.code = "S0001") ∧
      (schema.check engine).errors.map (fun diagnostic =>
          (diagnostic.location.field, diagnostic.code, diagnostic.title, diagnostic.message)) =
        [(some "role", "S0001", "enum field without a `target`", none),
          (some "age", "S0010", "string constraints on a non-string field", none),
          (some "name", "S0011", "invalid pattern `[a-z]+`", some "no patterns")] ∧
      FieldFault.misplacedStringConstraints ∉ schema.fieldFaults engine role ∧
      (schema.check engine).length = 4 := by
  intro engine role age name schema
  have hunsound : ¬schema.Sound engine := by
    intro hsound
    have hrole := hsound "user" _ List.mem_cons_self "role" role List.mem_cons_self
    obtain ⟨target, values, htarget, -⟩ := hrole.enumeration rfl
    cases htarget
  obtain ⟨-, hfails, herrors, hlocated, hfield, -⟩ := check_reports_faults engine schema
  obtain ⟨first, hfirst, hvalidated⟩ := hfails hunsound
  refine ⟨hunsound, ⟨first, hvalidated, ?located⟩, ?told, ?hidden, rfl⟩
  case located =>
    have hrole := hlocated "user" "role" role
    obtain ⟨rfl⟩ := hfirst
    cases hrole with
    | cons htold _ =>
        obtain ⟨hseverity, hlocation, htells⟩ := htold
        exact ⟨hseverity, hlocation, by cases htells; rfl⟩
  case told =>
    rw [herrors]
    rfl
  case hidden =>
    intro hreported
    obtain ⟨-, hmissing | hmissing⟩ := ((hfield role).1 _).mp hreported
    · cases hmissing
    · exact hmissing ⟨Or.inr rfl, rfl⟩

end Schema

end QueryShape

import QueryShape.Proofs.Schema.Conforming
import QueryShape.Proofs.Schema.Issues

/-!
# Reports, column by column

What a validator reports about an object is one report for each column, in the order of the columns.
The report of a column is made from its name, its field and the values of its enumeration, and from
what the object has under its name.  It is empty exactly if the column conforms, and it lies under
the name of the column, at the positions of the offending items if the column is a list.  So nothing
else in the object has a part in it.
-/

namespace QueryShape

open Json (Value)

namespace Issues

/-- The issues whose path starts with a field. -/
def under (name : String) (issues : Issues) : Issues :=
  issues.filter fun issue => issue.path.head? = some (.field name)

/-- All issues lie under a field. -/
def LieUnder (name : String) (issues : Issues) : Prop :=
  ∀ issue ∈ issues, issue.path.head? = some (.field name)

theorem under_eq_nil {name other : String} {issues : Issues} (hissues : issues.LieUnder name)
    (hother : name ≠ other) : issues.under other = [] := by
  apply List.filter_eq_nil_iff.mpr
  intro issue hissue
  rw [hissues issue hissue]
  simpa using hother

/-- The issues with the items of a list: each lies at an item that the field does not admit, each
such item has one, and they come in the order of the items. -/
structure ReportItems (engine : PatternEngine) (schema : Schema) (name : String) (field : Field)
    (items : List Value) (issues : Issues) : Prop where
  located : ∀ issue ∈ issues, ∃ position item, items[position]? = some item ∧
    ¬schema.Admits engine field item ∧ issue.path = [.field name, .index position]
  complete : ∀ position item, items[position]? = some item → ¬schema.Admits engine field item →
    ∃ issue ∈ issues, issue.path = [.field name, .index position]
  ordered : issues.Pairwise fun earlier later => ∀ first second,
    earlier.path = [.field name, .index first] → later.path = [.field name, .index second] →
      first ≤ second

end Issues

namespace Column

/-- The column of a field that draws from the given values. -/
def forField (engine : PatternEngine) (name : String) (field : Field) (values : List String) :
    Column where
  name := name
  field := field
  values := values
  pattern := field.pattern.bind fun source => (engine.compile (wholeText source)).toOption

/-- The issues with what is found under the name of a column. -/
def report (engine : PatternEngine) (name : String) (field : Field) (values : List String)
    (found : Option Value) : Issues :=
  (forField engine name field values).issues found

theorem MadeFrom.eq_forField {engine : PatternEngine} {schema : Schema} {name : String}
    {field : Field} {column : Column} (hmade : column.MadeFrom engine schema name field) :
    column = forField engine name field (valuesOf schema field) := by
  obtain ⟨rfl, rfl, hdrawn, hmatched, -⟩ := hmade
  cases column
  simp only [forField, mk.injEq, true_and]
  exact ⟨hdrawn, hmatched⟩

section

variable {column : Column}

theorem issues_items (hlist : column.field.list = true) (items : List Value) :
    column.issues (some (.array items)) = items.zipIdx.flatMap fun entry =>
      column.valueIssues [.field column.name, .index entry.2] entry.1 := by
  simp only [issues, if_pos hlist]
  rfl

theorem lieAt_issues {found : Option Value}
    (hfound : ¬(column.field.list = true ∧ ∃ items, found = some (.array items))) :
    Issues.LieAt [.field column.name] (column.issues found) := by
  unfold issues
  split
  · simp
  · simp
  · next value hpresent =>
      split
      · next hlist =>
          split
          · exact absurd ⟨hlist, _, rfl⟩ hfound
          · simp
      · exact lieAt_valueIssues column _ value

theorem lieUnder_issues (column : Column) (found : Option Value) :
    (column.issues found).LieUnder column.name := by
  by_cases hfound : column.field.list = true ∧ ∃ items, found = some (.array items)
  · obtain ⟨hlist, items, rfl⟩ := hfound
    rw [issues_items hlist]
    intro issue hissue
    obtain ⟨entry, -, hissue⟩ := List.mem_flatMap.mp hissue
    rw [lieAt_valueIssues column _ entry.1 issue hissue]
    rfl
  · intro issue hissue
    rw [lieAt_issues hfound issue hissue]
    rfl

/-- The report on a list is one of its items. -/
theorem MadeFrom.reportItems {engine : PatternEngine} {schema : Schema} {name : String}
    {field : Field} (hmade : column.MadeFrom engine schema name field)
    (hcolumn : field.isRelation = false) (hlist : field.list = true) (items : List Value) :
    Issues.ReportItems engine schema name field items (column.issues (some (.array items))) := by
  obtain ⟨rfl⟩ := hmade.named
  obtain ⟨rfl⟩ := hmade.declared
  have hitem : ∀ path item,
      column.valueIssues path item = [] ↔ schema.Admits engine column.field item :=
    fun _ _ => valueIssues_eq_nil_iff hmade hcolumn
  rw [issues_items hlist]
  refine ⟨?located, ?complete, ?ordered⟩
  case located =>
    intro issue hissue
    obtain ⟨⟨item, position⟩, hmem, hissue⟩ := List.mem_flatMap.mp hissue
    refine ⟨position, item, List.mk_mem_zipIdx_iff_getElem?.mp hmem, ?_,
      lieAt_valueIssues column _ item issue hissue⟩
    intro hadmitted
    rw [(hitem _ item).mpr hadmitted] at hissue
    cases hissue
  case complete =>
    intro position item hposition hrefused
    have hissues := (hitem [.field column.name, .index position] item).not.mpr hrefused
    obtain ⟨issue, hissue⟩ := List.exists_mem_of_ne_nil _ hissues
    refine ⟨issue, List.mem_flatMap.mpr ⟨(item, position), ?_, hissue⟩,
      lieAt_valueIssues column _ item issue hissue⟩
    exact List.mk_mem_zipIdx_iff_getElem?.mpr hposition
  case ordered =>
    -- The issues with one item lie at one position; from one item to the next, positions increase.
    have hpositions : items.zipIdx.Pairwise fun before after => before.2 < after.2 := by
      rw [← List.pairwise_map, List.zipIdx_map_snd]
      exact List.pairwise_lt_range'
    have hpath : ∀ (entry : Value × Nat) (issue : Issue) (position : Nat),
        issue ∈ column.valueIssues [.field column.name, .index entry.2] entry.1 →
        issue.path = [.field column.name, .index position] → entry.2 = position := by
      intro entry issue position hissue hposition
      rw [lieAt_valueIssues column _ entry.1 issue hissue] at hposition
      simpa using hposition
    apply List.pairwise_flatMap.mpr
    constructor
    · intro entry _
      apply List.pairwise_of_forall_mem_list
      intro earlier hearlier later hlater first second hfirst hsecond
      have hsame := (hpath entry earlier first hearlier hfirst).symm.trans
        (hpath entry later second hlater hsecond)
      exact hsame.le
    · apply hpositions.imp
      intro before after hlt earlier hearlier later hlater first second hfirst hsecond
      rw [← hpath before earlier first hearlier hfirst, ← hpath after later second hlater hsecond]
      exact hlt.le

end

end Column

namespace ModelValidator

/-- What a validator reports about a value; nothing if it accepts it. -/
def failures (validator : ModelValidator) (raw : Value) : Issues :=
  match validator.validate raw with
  | .ok _ => []
  | .error issues => issues

theorem failures_object (validator : ModelValidator) (entries : Keyed Value) :
    validator.failures (.object entries) = validator.issues entries := by
  simp only [failures, validate]
  cases validator.issues entries <;> rfl

/-- What is reported under a name depends only on what the object has under it. -/
theorem under_issues_congr (validator : ModelValidator) {name : String} {left right : Keyed Value}
    (hsame : left.get? name = right.get? name) :
    (validator.issues left).under name = (validator.issues right).under name := by
  simp only [issues, Issues.under, List.filter_flatMap]
  apply List.flatMap_congr
  intro column _
  by_cases hname : column.name = name
  · rw [hname, hsame]
  · have hleft := column.lieUnder_issues (left.get? column.name)
    have hright := column.lieUnder_issues (right.get? column.name)
    exact (Issues.under_eq_nil hleft hname).trans (Issues.under_eq_nil hright hname).symm

/-- The report about an object consists of the reports of the columns, one after the other. -/
theorem issues_eq_flatMap_report {engine : PatternEngine} {schema : Schema} {name : String}
    {fields : Keyed Field} {columns : List Column}
    (hcolumns : List.Forall₂
      (fun entry column => Column.ofField engine schema name entry.1 entry.2 = .ok column)
      fields columns)
    (entries : Keyed Value) :
    issues { columns } entries = fields.flatMap fun entry =>
      Column.report engine entry.1 entry.2 (Column.valuesOf schema entry.2)
        (entries.get? entry.1) := by
  unfold issues
  induction hcolumns with
  | nil => rfl
  | cons hcolumn _ ih =>
      have hmade := Column.madeFrom_of_ofField hcolumn
      rw [List.flatMap_cons, List.flatMap_cons, ih, hmade.named, hmade.eq_forField]
      rfl

/-- A validator reports every failure, field by field and independently.  The report is made of one
report for each column of the model, in their order, from the field of the column, the values of its
enumeration and what the object has under its name.  A column that conforms has nothing to report.
If it is a list of items, the issues lie at the items that the field does not admit, in their order,
and otherwise under the name of the column.  So objects that have the same under a name are reported
alike under this name. -/
theorem failures_by_column {engine : PatternEngine} {schema : Schema} {name : String}
    {validator : ModelValidator} (hvalidator : ofModel engine schema name = .ok validator) :
    ∃ model, schema.model? name = some model ∧
      (∀ entries : Keyed Value, validator.failures (.object entries) =
        model.columns.flatMap fun entry =>
          Column.report engine entry.1 entry.2 (Column.valuesOf schema entry.2)
            (entries.get? entry.1)) ∧
      (∀ column field, (column, field) ∈ model.columns → ∀ found,
        let report := Column.report engine column field (Column.valuesOf schema field) found
        (report = [] ↔ schema.ColumnConforms engine field found) ∧
          (∀ items, field.list = true → found = some (.array items) →
            Issues.ReportItems engine schema column field items report) ∧
          (¬(field.list = true ∧ ∃ items, found = some (.array items)) →
            Issues.LieAt [.field column] report)) ∧
      ∀ (column : String) (left right : Keyed Value), left.get? column = right.get? column →
        (validator.failures (.object left)).under column =
          (validator.failures (.object right)).under column := by
  obtain ⟨model, hmodel, hcolumns⟩ := forall₂_of_ofModel hvalidator
  refine ⟨model, hmodel, ?columnwise, ?located, ?independent⟩
  case columnwise =>
    intro entries
    rw [failures_object]
    exact issues_eq_flatMap_report hcolumns entries
  case located =>
    intro name field hmem found
    obtain ⟨column, -, hcolumn⟩ := exists_of_forall₂_of_mem hcolumns hmem
    have hmade := Column.madeFrom_of_ofField hcolumn
    have hrelation : field.isRelation = false := by simpa using (List.mem_filter.mp hmem).2
    have hreport : Column.report engine name field (Column.valuesOf schema field) found =
        column.issues found := by
      rw [Column.report, ← hmade.eq_forField]
    obtain ⟨rfl⟩ := hmade.named
    obtain ⟨rfl⟩ := hmade.declared
    rw [hreport]
    refine ⟨Column.issues_eq_nil_iff hmade hrelation, ?_, Column.lieAt_issues⟩
    rintro items hlist rfl
    exact hmade.reportItems hrelation hlist items
  case independent =>
    intro column left right hsame
    rw [failures_object, failures_object]
    exact validator.under_issues_congr hsame

/-- A user whose age, role and second tag are wrong: each has its issue, the tag at its position,
and what is reported about the tags is the same for a user without a role. -/
theorem failures_by_column_user :
    let age : Field := { type := .int, optional := true, max := some (Double.ofInt 150) }
    let user : Model := { fields := [
      ("age", age), ("role", .valueOf "role"), ("posts", .relationTo "post"),
      ("tags", { type := .string, list := true, maxLength := some 8 })] }
    let schema := (Schema.empty.withEnum "role" ["admin", "user"]).withModel "user" user
    let tags : Keyed Value := [("tags", .array [.string "ok", .string "much-too-long"])]
    let raw : Keyed Value := ("age", .number (.integer 200)) :: ("role", .string "root") :: tags
    ∃ validator, ofModel Pattern.engine schema "user" = .ok validator ∧
      (validator.failures (.object raw)).map Issue.path =
        [[.field "age"], [.field "role"], [.field "tags", .index 1]] ∧
      (validator.failures (.object tags)).under "tags" =
        (validator.failures (.object raw)).under "tags" := by
  intro age user schema tags raw
  obtain ⟨validator, hvalidator⟩ :
      ∃ validator, ofModel Pattern.engine schema "user" = .ok validator := ⟨_, rfl⟩
  obtain ⟨model, hmodel, hcolumnwise, -, hindependent⟩ := failures_by_column hvalidator
  obtain rfl : user = model := Option.some.inj hmodel
  refine ⟨validator, hvalidator, ?_, hindependent "tags" tags raw rfl⟩
  rw [hcolumnwise]
  decide +kernel

end ModelValidator

end QueryShape

import QueryShape.Proofs.Place
import QueryShape.Proofs.Schema.Accepts

/-!
# Where issues lie

Every issue that the validator of a model reports belongs to a column.  Its path is the name of the
column, and also the position of an item if the column is a list.  The path leads to a value of the
object that was validated, except for a column that is required and missing.
-/

namespace QueryShape

open Json (Value)

/-- All issues of a list have the same path. -/
def Issues.LieAt (path : Path) (issues : Issues) : Prop :=
  ∀ issue ∈ issues, issue.path = path

namespace Issues

variable {path : Path}

@[simp]
theorem lieAt_nil : LieAt path [] := by
  simp [LieAt]

@[simp]
theorem lieAt_singleton {issue : Issue} : LieAt path [issue] ↔ issue.path = path := by
  simp [LieAt]

@[simp]
theorem lieAt_append {first second : Issues} :
    LieAt path (first ++ second) ↔ LieAt path first ∧ LieAt path second := by
  simp only [LieAt, List.mem_append, or_imp, forall_and]

@[simp]
theorem lieAt_ite {condition : Prop} [Decidable condition] {first second : Issues} :
    LieAt path (if condition then first else second) ↔
      if condition then LieAt path first else LieAt path second := by
  split <;> rfl

end Issues

namespace Column

open Issues

variable (column : Column) (path : Path)

@[simp]
theorem path_typeIssue (expected : String) (found : Value) :
    (typeIssue path expected found).path = path := rfl

@[simp]
theorem path_formatIssue (code : IssueCode) (message : String) :
    (formatIssue path code message).path = path := rfl

@[simp]
theorem path_limitIssue (code : IssueCode) (message constraint : String) :
    (limitIssue path code message constraint).path = path := rfl

@[simp]
theorem lieAt_whenViolated {α : Type} (limit : Option α) (violated : α → Bool) (code : IssueCode)
    (message constraint : α → String) :
    LieAt path (whenViolated limit violated fun bound =>
      limitIssue path code (message bound) (constraint bound)) := by
  unfold whenViolated
  cases limit <;> simp

@[simp]
theorem lieAt_textIssues (text : String) : LieAt path (column.textIssues path text) := by
  simp [textIssues]

@[simp]
theorem lieAt_rangeIssues (value : Double) : LieAt path (column.rangeIssues path value) := by
  simp [rangeIssues]

@[simp]
theorem lieAt_textRangeIssues (text : String) :
    LieAt path (column.textRangeIssues path text) := by
  unfold textRangeIssues
  split <;> simp

@[simp]
theorem lieAt_enumIssues (value : Value) : LieAt path (column.enumIssues path value) := by
  simp [enumIssues]

/-- What is wrong with a value is reported at the path of the value. -/
theorem lieAt_valueIssues (value : Value) : LieAt path (column.valueIssues path value) := by
  unfold valueIssues
  split <;> simp

end Column

/-- An issue points into a value under the name of a column: its path leads to a value under that
name, or the name is missing and required. -/
inductive Issue.PointsInto (raw : Value) (name : String) (issue : Issue) : Prop
  | found (value : Value)
      (path : issue.path = [.field name] ∨ ∃ position, issue.path = [.field name, .index position])
      (resolves : raw.at? issue.path = some value) : issue.PointsInto raw name
  | missing (path : issue.path = [.field name]) (absent : raw.at? [.field name] = none)
      (required : issue.code = .required) : issue.PointsInto raw name

theorem Column.pointsInto_of_mem_issues {column : Column} {entries : Keyed Value} {issue : Issue}
    (hissue : issue ∈ column.issues (entries.get? column.name)) :
    issue.PointsInto (.object entries) column.name := by
  unfold issues at hissue
  split at hissue
  · next hmissing =>
      split at hissue
      · simp at hissue
      · obtain rfl := List.mem_singleton.mp hissue
        exact .missing rfl (by simp [hmissing]) rfl
  · next hnull =>
      split at hissue
      · simp at hissue
      · obtain rfl := List.mem_singleton.mp hissue
        exact .found .null (Or.inl rfl) (by simp [formatIssue, hnull])
  · next value _ hpresent =>
      split at hissue
      · split at hissue
        · next items =>
            obtain ⟨⟨item, position⟩, hitem, hissue⟩ := List.mem_flatMap.mp hissue
            have hpath := lieAt_valueIssues column _ item issue hissue
            have hitem := List.mk_mem_zipIdx_iff_getElem?.mp hitem
            refine .found item (Or.inr ⟨position, hpath⟩) ?_
            rw [hpath]
            simp [Path.child, hpresent, hitem]
        · obtain rfl := List.mem_singleton.mp hissue
          exact .found value (Or.inl rfl) (by simp [typeIssue, hpresent])
      · have hpath := lieAt_valueIssues column _ value issue hissue
        refine .found value (Or.inl hpath) ?_
        rw [hpath]
        simp [hpresent]

/-- Every issue of a validator points into the object under the name of a column. -/
theorem ModelValidator.exists_column_of_mem_issues {validator : ModelValidator}
    {entries : Keyed Value} {issue : Issue} (hissue : issue ∈ validator.issues entries) :
    ∃ name ∈ validator.columnNames, issue.PointsInto (.object entries) name := by
  obtain ⟨column, hcolumn, hissue⟩ := List.mem_flatMap.mp hissue
  exact ⟨column.name, List.mem_map_of_mem hcolumn, Column.pointsInto_of_mem_issues hissue⟩

end QueryShape

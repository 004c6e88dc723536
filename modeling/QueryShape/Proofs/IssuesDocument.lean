import QueryShape.Issue
import QueryShape.Proofs.Json.Numerals

/-!
# Issues and their documents

Issues are read back from the document that they are written as, wherever there is room for it.  In
the text of the document the positions are numbers of at most 64 bits, so they are read back from
there as well.
-/

namespace QueryShape

open Json (Document)

/-! ## Paths -/

namespace Segment

/-- A position has at most 64 bits. -/
def InRange : Segment → Prop
  | .field _ => True
  | .index position => position < 2 ^ 64

instance : DecidablePred InRange
  | .field _ => inferInstanceAs (Decidable True)
  | .index position => inferInstanceAs (Decidable (position < 2 ^ 64))

theorem read_toDocument (segment : Segment) (room : Nat) :
    read room segment.toDocument = .ok segment := by
  cases segment <;> rfl

theorem InRange.legible_toDocument {segment : Segment} (hsegment : segment.InRange) :
    segment.toDocument.Legible := by
  cases segment with
  | field name => exact .string name
  | index position => exact .number (Json.Number.legible_integer hsegment)

end Segment

namespace Path

/-- A path is written as one array. -/
theorem read_toDocument (path : Path) (room : Nat) :
    read (room + 1) path.toDocument = .ok path :=
  Document.readList_list fun segment _ => segment.read_toDocument room

theorem nesting_toDocument (path : Path) : path.toDocument.nesting = 1 := by
  apply le_antisymm
  · refine Document.nesting_list_le_iff.mpr ⟨0, rfl, ?_⟩
    intro document hmem
    obtain ⟨segment, -, rfl⟩ := List.mem_map.mp hmem
    cases segment <;> exact le_rfl
  · exact Nat.succ_le_succ (Nat.zero_le _)

theorem legible_toDocument {path : Path} (hpath : ∀ segment ∈ path, segment.InRange) :
    path.toDocument.Legible := by
  refine .list ?_
  intro document hmem
  obtain ⟨segment, hsegment, rfl⟩ := List.mem_map.mp hmem
  exact (hpath segment hsegment).legible_toDocument

end Path

/-! ## Issues -/

theorem IssueCode.get?_named (code : IssueCode) : named.get? code.text = some code := by
  cases code <;> rfl

namespace Issue

theorem foldlM_ownMembers (issue : Issue) (room : Nat) :
    issue.ownMembers.foldlM
        (fun draft member => Draft.step (room + 1) draft member.1 member.2) {} =
      .ok { path := some issue.path, message := some issue.message, code := some issue.code } := by
  have hpath := issue.path.read_toDocument room
  have hcode := Document.readVariant_string issue.code.get?_named (room + 1)
  simp only [ownMembers, List.foldlM_cons, List.foldlM_nil, Draft.step, Json.readOnce, hpath, hcode]
  rfl

theorem foldlM_constraintMember (issue : Issue) (room : Nat) {draft : Draft}
    (hdraft : draft.constraint = none) :
    issue.constraintMember.foldlM
        (fun draft member => Draft.step room draft member.1 member.2) draft =
      .ok { draft with constraint := issue.constraint.map some } := by
  obtain ⟨path, message, code, _⟩ := draft
  subst hdraft
  rw [constraintMember]
  cases issue.constraint <;> rfl

/-- An issue is written as an object that holds an array. -/
theorem read_toDocument (issue : Issue) (room : Nat) :
    read (room + 2) issue.toDocument = .ok issue := by
  have hnames : ∀ name ∈ Keyed.keys (issue.ownMembers ++ issue.constraintMember),
      name ∈ form.names := by
    rw [constraintMember]
    cases issue.constraint <;>
      simp [Keyed.keys, ownMembers, form, Json.RecordForm.names]
  rw [read, toDocument, Json.RecordForm.read_record hnames, List.foldlM_append,
    foldlM_ownMembers]
  refine (congrArg (· >>= Draft.finish) (foldlM_constraintMember issue _ rfl)).trans ?_
  obtain ⟨path, message, code, constraint⟩ := issue
  cases constraint <;> rfl

theorem nesting_toDocument (issue : Issue) : issue.toDocument.nesting = 2 := by
  have hpath := issue.path.nesting_toDocument
  obtain ⟨path, message, code, constraint⟩ := issue
  cases constraint <;>
    simp_all [toDocument, ownMembers, constraintMember, Document.record, Document.nesting,
      Document.membersNesting]

theorem legible_toDocument {issue : Issue} (hpath : ∀ segment ∈ issue.path, segment.InRange) :
    issue.toDocument.Legible := by
  rw [toDocument]
  refine .record ?_
  intro name document hmem
  rcases List.mem_append.mp hmem with hown | hconstraint
  · simp only [ownMembers, List.mem_cons, List.not_mem_nil, or_false, Prod.mk.injEq] at hown
    rcases hown with ⟨-, rfl⟩ | ⟨-, rfl⟩ | ⟨-, rfl⟩
    · exact Path.legible_toDocument hpath
    · exact .string _
    · exact .string _
  · obtain ⟨-, constraint, -, rfl⟩ := Document.mem_memberIfSet.mp hconstraint
    exact .string constraint

end Issue

namespace Issues

theorem nesting_toDocument_le (issues : Issues) : issues.toDocument.nesting ≤ 4 := by
  rw [toDocument]
  refine Document.nesting_record_le_iff.mpr ⟨3, rfl, ?_⟩
  intro name document hmem
  cases List.mem_singleton.mp hmem
  refine Document.nesting_list_le_iff.mpr ⟨2, rfl, ?_⟩
  intro document hmem
  obtain ⟨issue, -, rfl⟩ := List.mem_map.mp hmem
  exact issue.nesting_toDocument.le

/-- Wherever there is room for their document, issues are read back from it. -/
theorem read_toDocument {issues : Issues} {room : Nat}
    (hroom : issues.toDocument.nesting ≤ room) : read room issues.toDocument = .ok issues := by
  rw [toDocument] at hroom ⊢
  obtain ⟨inner, rfl, hlist⟩ := Document.nesting_record_le_iff.mp hroom
  obtain ⟨deeper, rfl, hitems⟩ :=
    Document.nesting_list_le_iff.mp (hlist "errors" _ List.mem_cons_self)
  have hread : (Document.list (issues.map Issue.toDocument)).readList Issue.read (deeper + 1) =
      .ok issues := by
    apply Document.readList_list
    intro issue hmem
    have hnesting := hitems _ (List.mem_map_of_mem hmem)
    rw [Issue.nesting_toDocument] at hnesting
    obtain ⟨rest, rfl⟩ := Nat.exists_eq_add_of_le' hnesting
    exact issue.read_toDocument rest
  rw [read, Json.RecordForm.read_record (by simp [Keyed.keys, form, Json.RecordForm.names])]
  simp only [List.foldlM_cons, List.foldlM_nil, Json.readOnce, hread]
  rfl

theorem legible_toDocument {issues : Issues}
    (hissues : ∀ issue ∈ issues, ∀ segment ∈ issue.path, segment.InRange) :
    issues.toDocument.Legible := by
  rw [toDocument]
  refine .record ?_
  intro name document hmem
  cases List.mem_singleton.mp hmem
  refine .list ?_
  intro document hmem
  obtain ⟨issue, hissue, rfl⟩ := List.mem_map.mp hmem
  exact Issue.legible_toDocument (hissues issue hissue)

/-- Issues are read back from the document that they are written as, and from both of its texts if
no position on their paths has more than 64 bits. -/
theorem read_back {issues : Issues}
    (hissues : ∀ issue ∈ issues, ∀ segment ∈ issue.path, segment.InRange) :
    (∀ room, issues.toDocument.nesting ≤ room → read room issues.toDocument = .ok issues) ∧
      Json.readText read issues.toDocument.compactText = .ok issues ∧
      Json.readText read issues.toDocument.indentedText = .ok issues := by
  have hlegible := legible_toDocument hissues
  have hread : read Json.nestingLimit issues.toDocument = .ok issues :=
    read_toDocument (issues.nesting_toDocument_le.trans (by decide))
  refine ⟨fun room => read_toDocument, ?compact, ?indented⟩
  case compact => rw [Json.readText_compactText read hlegible, hread]
  case indented => rw [Json.readText_indentedText read hlegible, hread]

/-- A field whose name is made of digits stays a field, the last of all positions stays a position,
and an empty constraint is not an absent one. -/
theorem read_back_digits :
    let issues : Issues := [
      { path := [.field "0", .index 0, .field "", .index 18446744073709551615],
        message := "does \"not\" fit", code := .max, constraint := some "" },
      { path := [], message := "", code := .custom, constraint := none }]
    (∀ issue ∈ issues, ∀ segment ∈ issue.path, segment.InRange) ∧
      Json.readText read issues.toDocument.compactText = .ok issues ∧
      Json.readText read issues.toDocument.indentedText = .ok issues ∧
      read 4 issues.toDocument = .ok issues := by
  intro issues
  have hissues : ∀ issue ∈ issues, ∀ segment ∈ issue.path, segment.InRange := by decide
  obtain ⟨hroom, hcompact, hindented⟩ := read_back hissues
  exact ⟨hissues, hcompact, hindented, hroom 4 issues.nesting_toDocument_le⟩

end Issues

end QueryShape

import QueryShape.Proofs.Json.Texts
import QueryShape.Proofs.Query.MergeOrder

/-!
# Selections as documents and as values

A selection is written as a document, which keeps the order of its names, and as a value, which does
not.  The data of the document is the value, so nothing else is lost, and two selections have the
same value exactly if they differ in this order only.
-/

namespace QueryShape.Selection

open Json (Document Value)

/-! ## The document -/

mutual

theorem toValue_toDocument (selection : Selection) :
    selection.toDocument.toValue = selection.toValue := by
  obtain ⟨kind, entries⟩ := selection
  rw [toDocument, toValue, Document.toValue_record, List.map_singleton, Document.toValue_record,
    toValue_entryDocuments entries]
  rfl

theorem toValue_entryDocument (entry : Option Selection) :
    (entryDocument entry).toValue = entryValue entry := by
  match entry with
  | none => rw [entryDocument, entryValue, Document.toValue]
  | some nested => rw [entryDocument, entryValue, toValue_toDocument nested]

theorem toValue_entryDocuments (entries : List (String × Option Selection)) :
    (entryDocuments entries).map (fun entry => (entry.1, entry.2.toValue)) =
      entryValues entries := by
  match entries with
  | [] => rw [entryDocuments, entryValues]; rfl
  | (name, entry) :: rest =>
      rw [entryDocuments, entryValues, List.map_cons, toValue_entryDocument entry,
        toValue_entryDocuments rest]

end

mutual

theorem legible_toDocument (selection : Selection) : selection.toDocument.Legible := by
  obtain ⟨kind, entries⟩ := selection
  rw [toDocument]
  refine .record ?_
  intro name value hmem
  cases List.mem_singleton.mp hmem
  exact .record (legible_entryDocuments entries)

theorem legible_entryDocument (entry : Option Selection) : (entryDocument entry).Legible := by
  match entry with
  | none =>
      rw [entryDocument]
      exact .bool true
  | some nested =>
      rw [entryDocument]
      exact legible_toDocument nested

theorem legible_entryDocuments (entries : List (String × Option Selection)) :
    ∀ name value, (name, value) ∈ entryDocuments entries → value.Legible := by
  match entries with
  | [] =>
      rw [entryDocuments]
      exact nofun
  | (name, entry) :: rest =>
      rw [entryDocuments]
      intro other value hmem
      rcases List.mem_cons.mp hmem with heq | hmem
      · cases heq
        exact legible_entryDocument entry
      · exact legible_entryDocuments rest other value hmem

end

/-! ## The value -/

theorem kind_eq_of_text_eq {kind other : SelectionKind} (hsame : kind.text = other.text) :
    kind = other := by
  cases kind <;> cases other
  · rfl
  · exact absurd hsame (by decide)
  · exact absurd hsame (by decide)
  · rfl

theorem toValue_eq (selection : Selection) :
    selection.toValue =
      .object [(selection.kind.text, .ofEntries (entryValues selection.entries))] := by
  obtain ⟨kind, entries⟩ := selection
  rw [toValue]
  rfl

theorem get?_entryValues (entries : Keyed (Option Selection)) (key : String) :
    Keyed.get? (entryValues entries) key = (entries.get? key).map entryValue := by
  rw [entryValues_eq]
  exact Keyed.get?_map (fun _ => entryValue) entries key

/-- A name that is fetched whole has another value than one with a selection of its own. -/
theorem toValue_ne_bool (selection : Selection) (flag : Bool) :
    selection.toValue ≠ .bool flag := by
  rw [toValue_eq]
  exact nofun

/-- Selections with the same value differ in the order of their names only. -/
theorem reordered_of_toValue_eq {left right : Selection} (hleft : left.WellFormed)
    (hright : right.WellFormed) (hsame : left.toValue = right.toValue) :
    left.Reordered right := by
  induction hleft using WellFormed.levelwise generalizing right with
  | level left hleft ih =>
      rw [toValue_eq, toValue_eq] at hsame
      obtain ⟨hmember, -⟩ := List.cons.inj (Value.object.inj hsame)
      obtain ⟨hkind, hentries⟩ := Prod.mk.inj hmember
      apply reordered_of_entries hleft hright (kind_eq_of_text_eq hkind)
      intro name
      have hget := Value.get?_eq_of_ofEntries_eq (distinct_entryValues hleft.distinct)
        (distinct_entryValues hright.distinct) hentries name
      rw [get?_entryValues, get?_entryValues] at hget
      match hone : left.entries.get? name, htwo : right.entries.get? name with
      | none, none => exact .none
      | none, some two => rw [hone, htwo] at hget; cases hget
      | some one, none => rw [hone, htwo] at hget; cases hget
      | some none, some none => exact EntriesReordered.refl _
      | some none, some (some two) =>
          rw [hone, htwo] at hget
          exact absurd (Option.some.inj hget).symm (two.toValue_ne_bool true)
      | some (some one), some none =>
          rw [hone, htwo] at hget
          exact absurd (Option.some.inj hget) (one.toValue_ne_bool true)
      | some (some one), some (some two) =>
          rw [hone, htwo] at hget
          exact .some (.some (ih name one hone (hright.of_get? htwo) (Option.some.inj hget)))

theorem toValue_eq_iff {left right : Selection} (hleft : left.WellFormed)
    (hright : right.WellFormed) : left.toValue = right.toValue ↔ left.Reordered right :=
  ⟨reordered_of_toValue_eq hleft hright, fun hreordered => hreordered.toValue_eq hleft⟩

theorem readValue_toDocument (selection : Selection) (room : Nat) :
    selection.toDocument.readValue room = .ok selection.toValue ↔
      selection.toDocument.nesting ≤ room := by
  refine ⟨Document.nesting_le_of_readValue, fun hroom => ?_⟩
  rw [← toValue_toDocument]
  exact (legible_toDocument selection).readValue_eq hroom

/-- The data of the document of a selection is its value, and so is what is read of the document,
and of its text, where there is room for what is nested in it.  The values of two selections are the
same exactly if the selections have the same kinds and the same entries at every level, in whatever
order. -/
theorem document_and_value_agree :
    (∀ selection : Selection, selection.toDocument.toValue = selection.toValue ∧
      (∀ room, selection.toDocument.readValue room = .ok selection.toValue ↔
        selection.toDocument.nesting ≤ room) ∧
      (Value.ofText selection.toDocument.compactText = .ok selection.toValue ↔
        selection.toDocument.nesting ≤ Json.nestingLimit)) ∧
      ∀ left right : WellFormedSelection,
        left.val.toValue = right.val.toValue ↔ left.val.Reordered right.val := by
  refine ⟨fun selection => ⟨selection.toValue_toDocument, selection.readValue_toDocument, ?text⟩,
    fun left right => toValue_eq_iff left.property right.property⟩
  case text =>
    rw [Value.ofText, Json.readText_compactText _ (legible_toDocument selection)]
    exact selection.readValue_toDocument Json.nestingLimit

/-- Names that are those of kinds, in two orders; and an entry that is fetched whole in one of two
selections and with an empty selection in the other one. -/
theorem document_and_value_agree_kindNames :
    let left : Selection := .mk .selecting [("include", none),
      ("select", some (.mk .including [("select", none), ("title", none)]))]
    let right : Selection := .mk .selecting [
      ("select", some (.mk .including [("title", none), ("select", none)])), ("include", none)]
    let other : Selection := .mk .selecting [("include", some .empty),
      ("select", some (.mk .including [("select", none), ("title", none)]))]
    left.toDocument.readValue 4 = .ok left.toValue ∧ left.Reordered right ∧
      ¬left.Reordered other := by
  intro left right other
  have hleft : left.WellFormed := by decide
  have hright : right.WellFormed := by decide
  have hother : other.WellFormed := by decide
  obtain ⟨hagree, hsame⟩ := document_and_value_agree
  refine ⟨((hagree left).2.1 4).mpr (by decide), (hsame ⟨left, hleft⟩ ⟨right, hright⟩).mp rfl, ?_⟩
  intro hreordered
  have hvalues := (hsame ⟨left, hleft⟩ ⟨other, hother⟩).mpr hreordered
  cases hvalues

end QueryShape.Selection

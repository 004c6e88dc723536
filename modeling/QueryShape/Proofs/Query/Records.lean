import QueryShape.Proofs.Json.Ordered
import QueryShape.Proofs.Query.Run
import QueryShape.Query.Reshape

/-!
# The records of a relation

The value of a relation is a list of records, or one record, or `null`.  Apart from this shape, a
relation is reshaped record by record: it succeeds exactly if the shape is right and every record
succeeds, and then each record stands reshaped in its own place.
-/

namespace QueryShape

open Json (Value)

namespace Relation

/-- The value has the shape that the relation asks for: a list where it leads to many records, and
`null` in place of one record only where the relation is optional. -/
def Admits (relation : Relation) (raw : Value) : Prop :=
  match relation.cardinality with
  | .many => ∃ items, raw = .array items
  | .one => raw = .null → relation.optional = true

/-- The records in the value of a relation. -/
def records (relation : Relation) (raw : Value) : List Value :=
  match relation.cardinality, raw with
  | .many, .array items => items
  | .many, _ => []
  | .one, .null => []
  | .one, raw => [raw]

/-- The value of a relation with each of its records replaced. -/
def mapRecords (relation : Relation) (convert : Value → Value) (raw : Value) : Value :=
  match relation.cardinality, raw with
  | .many, .array items => .array (items.map convert)
  | .many, raw => raw
  | .one, .null => .null
  | .one, raw => convert raw

theorem ordered_of_mem_records {relation : Relation} {raw record : Value} (hraw : raw.Ordered)
    (hrecord : record ∈ relation.records raw) : record.Ordered := by
  unfold records at hrecord
  split at hrecord
  · exact Value.ordered_array_iff.mp hraw record hrecord
  · simp at hrecord
  · simp at hrecord
  · rw [List.mem_singleton.mp hrecord]
    exact hraw

theorem mapRecords_eq_self {relation : Relation} {convert : Value → Value} {raw : Value}
    (hconvert : ∀ record ∈ relation.records raw, convert record = record) :
    relation.mapRecords convert raw = raw := by
  unfold mapRecords
  unfold records at hconvert
  split
  · next items hmany =>
      rw [hmany] at hconvert
      rw [List.map_congr_left hconvert, List.map_id']
  · rfl
  · rfl
  · next hone hnull =>
      rw [hone] at hconvert
      apply hconvert
      simp

theorem ordered_mapRecords {relation : Relation} {convert : Value → Value} {raw : Value}
    (hraw : raw.Ordered)
    (hconvert : ∀ record ∈ relation.records raw, (convert record).Ordered) :
    (relation.mapRecords convert raw).Ordered := by
  unfold mapRecords
  unfold records at hconvert
  split
  · next items hmany =>
      rw [hmany] at hconvert
      simpa using hconvert
  · exact hraw
  · exact hraw
  · next hone hnull =>
      rw [hone] at hconvert
      apply hconvert
      simp

section NullPreserving

/- A record that is not `null` stays one that is not, so the shape of the value can still be read
off after its records were replaced. -/
variable {relation : Relation} {convert : Value → Value}
  (hconvert : ∀ record, convert record = .null → record = .null)
include hconvert

theorem admits_mapRecords {raw : Value} (hraw : relation.Admits raw) :
    relation.Admits (relation.mapRecords convert raw) := by
  unfold Admits mapRecords at *
  cases hcardinality : relation.cardinality with
  | many =>
      rw [hcardinality] at hraw
      obtain ⟨items, rfl⟩ := hraw
      exact ⟨items.map convert, rfl⟩
  | one =>
      rw [hcardinality] at hraw
      intro hnull
      apply hraw
      cases raw with
      | null => rfl
      | _ => exact hconvert _ hnull

theorem records_mapRecords (raw : Value) :
    relation.records (relation.mapRecords convert raw) = (relation.records raw).map convert := by
  unfold records mapRecords
  cases relation.cardinality with
  | many => cases raw <;> rfl
  | one =>
      by_cases hraw : raw = .null
      · subst hraw
        rfl
      · have hkept : convert raw ≠ .null := fun hnull => hraw (hconvert raw hnull)
        cases raw <;> simp_all

theorem mapRecords_mapRecords (again : Value → Value) (raw : Value) :
    relation.mapRecords again (relation.mapRecords convert raw) =
      relation.mapRecords (fun record => again (convert record)) raw := by
  unfold mapRecords
  cases relation.cardinality with
  | many => cases raw <;> simp
  | one =>
      by_cases hraw : raw = .null
      · subst hraw
        rfl
      · have hkept : convert raw ≠ .null := fun hnull => hraw (hconvert raw hnull)
        cases raw <;> simp_all

end NullPreserving

end Relation

/-! ## Reshaping record by record -/

/-- A record is reshaped exactly if it is good, and then into the given result. -/
def Reshapes (reshapeItem : Value → Path → Run Value) (Good : Value → Prop)
    (result : Value → Value) : Prop :=
  ∀ raw path value, raw.Ordered →
    ((reshapeItem raw path).outcome = .ok value ↔ Good raw ∧ value = result raw)

variable {reshapeItem : Value → Path → Run Value} {Good : Value → Prop} {result : Value → Value}

theorem Reshapes.each (hreshapes : Reshapes reshapeItem Good result) {items values : List Value}
    (hitems : ∀ item ∈ items, item.Ordered) (path : Path) (position : Nat) :
    (reshapeEach reshapeItem path position items).outcome = .ok values ↔
      (∀ item ∈ items, Good item) ∧ values = items.map result := by
  induction items generalizing position values with
  | nil =>
      rw [reshapeEach, Run.outcome_pure]
      simp [eq_comm]
  | cons item items ih =>
      obtain ⟨hitem, hrest⟩ := List.forall_mem_cons.mp hitems
      rw [reshapeEach, Run.outcome_bind_eq_ok, List.forall_mem_cons]
      simp only [Run.outcome_map_eq_ok, hreshapes _ _ _ hitem, ih hrest]
      constructor
      · rintro ⟨value, ⟨hgood, rfl⟩, rest, ⟨hall, rfl⟩, rfl⟩
        exact ⟨⟨hgood, hall⟩, rfl⟩
      · rintro ⟨⟨hgood, hall⟩, rfl⟩
        exact ⟨result item, ⟨hgood, rfl⟩, items.map result, ⟨hall, rfl⟩, rfl⟩

theorem Reshapes.relation (hreshapes : Reshapes reshapeItem Good result) (relation : Relation)
    {raw : Value} (hraw : raw.Ordered) (path : Path) (value : Value) :
    (reshapeRelation reshapeItem relation raw path).outcome = .ok value ↔
      (relation.Admits raw ∧ ∀ record ∈ relation.records raw, Good record) ∧
        value = relation.mapRecords result raw := by
  unfold reshapeRelation Relation.Admits Relation.records Relation.mapRecords
  cases hcardinality : relation.cardinality with
  | many =>
      cases raw with
      | array items =>
          simp only [Run.outcome_map_eq_ok, hreshapes.each (Value.ordered_array_iff.mp hraw)]
          constructor
          · rintro ⟨values, ⟨hall, rfl⟩, rfl⟩
            exact ⟨⟨⟨items, rfl⟩, hall⟩, rfl⟩
          · rintro ⟨⟨-, hall⟩, rfl⟩
            exact ⟨items.map result, ⟨hall, rfl⟩, rfl⟩
      | _ => simp
  | one =>
      cases raw with
      | null =>
          rw [Relation.isNullable_of_one hcardinality]
          cases relation.optional <;> simp [eq_comm]
      | _ => simp [hreshapes _ _ _ hraw]

end QueryShape

import QueryShape.Proofs.Json.Ordered
import QueryShape.Proofs.Query.Demands
import QueryShape.Query.Selection.Wire

/-!
# The order of selections

What a selection fetches does not depend on the order in which it lists names.  Selections that
differ only in this order, at whatever level, are the same JSON value, as the names of an object are
sorted there.
-/

namespace QueryShape

open Json (Value)

namespace Selection

/-- The same entries, listed in another order at any number of levels. -/
inductive Reordered : Selection → Selection → Prop
  | entries (kind : SelectionKind) {entries others : List (String × Option Selection)}
      (perm : entries.Perm others) : Reordered (.mk kind entries) (.mk kind others)
  | nested (kind : SelectionKind) (before after : List (String × Option Selection))
      (name : String) {left right : Selection} (inside : Reordered left right) :
      Reordered (.mk kind (before ++ (name, some left) :: after))
        (.mk kind (before ++ (name, some right) :: after))
  | trans {left between right : Selection} (first : Reordered left between)
      (second : Reordered between right) : Reordered left right

theorem Reordered.refl (selection : Selection) : selection.Reordered selection := by
  obtain ⟨kind, entries⟩ := selection
  exact .entries kind (.refl entries)

theorem Reordered.isEmptyInclude_eq {left right : Selection} (hreordered : left.Reordered right) :
    left.isEmptyInclude = right.isEmptyInclude := by
  induction hreordered with
  | entries kind perm => exact congrArg (kind = .including && ·) perm.isEmpty_eq
  | nested kind before after name inside ih =>
      cases before <;> rfl
  | trans _ _ ihFirst ihSecond => exact ihFirst.trans ihSecond

/-- A selection can be reordered as the entry of another one. -/
theorem Reordered.asEntry {left right : Selection} (hreordered : left.Reordered right)
    (kind : SelectionKind) (before after : List (String × Option Selection)) (name : String) :
    (mk kind (before ++ (name, left.asEntry) :: after)).Reordered
      (mk kind (before ++ (name, right.asEntry) :: after)) := by
  rw [Selection.asEntry, Selection.asEntry, hreordered.isEmptyInclude_eq]
  split
  · exact Reordered.refl _
  · exact .nested kind before after name hreordered

theorem Reordered.wellFormed {left right : Selection} (hreordered : left.Reordered right)
    (hleft : left.WellFormed) : right.WellFormed := by
  induction hreordered with
  | entries kind perm =>
      cases hleft with
      | mk distinct nested =>
          refine .mk (distinct.perm perm) ?_
          intro name selection hmem
          exact nested name selection (perm.mem_iff.mpr hmem)
  | @nested kind before after name left right inside ih =>
      cases hleft with
      | mk distinct nested =>
          refine .mk (distinct.replace _) ?_
          exact Keyed.forall_mem_replace_some nested ih
  | trans _ _ ihFirst ihSecond => exact ihSecond (ihFirst hleft)

/-! ## As JSON -/

theorem entryValues_eq (entries : List (String × Option Selection)) :
    entryValues entries = entries.map fun entry => (entry.1, entryValue entry.2) := by
  induction entries with
  | nil => rw [entryValues]; rfl
  | cons first rest ih =>
      obtain ⟨name, entry⟩ := first
      rw [entryValues, ih]
      rfl

theorem distinct_entryValues {entries : Keyed (Option Selection)} (hentries : entries.Distinct) :
    Keyed.Distinct (entryValues entries) := by
  rw [entryValues_eq]
  exact hentries.map fun _ => entryValue

/-- The order of its entries does not show in the value of a selection. -/
theorem Reordered.toValue_eq {left right : Selection} (hreordered : left.Reordered right)
    (hleft : left.WellFormed) : left.toValue = right.toValue := by
  induction hreordered with
  | @entries kind entries others perm =>
      cases hleft with
      | mk distinct nested =>
          have hperm := perm.map fun entry => (entry.1, entryValue entry.2)
          rw [← entryValues_eq, ← entryValues_eq] at hperm
          rw [toValue, toValue, Value.ofEntries_eq_of_perm hperm (distinct_entryValues distinct)]
  | @nested kind before after name left right inside ih =>
      cases hleft with
      | mk distinct nested =>
          have hentry : entryValue (some left) = entryValue (some right) :=
            ih (nested name left (List.mem_append_right _ List.mem_cons_self))
          rw [toValue, toValue, entryValues_eq, entryValues_eq, List.map_append, List.map_append,
            List.map_cons, List.map_cons, hentry]
  | trans first _ ihFirst ihSecond =>
      exact (ihFirst hleft).trans (ihSecond (first.wellFormed hleft))

end Selection

namespace Spec

theorem wellFormed_compile {spec : Spec} (hspec : spec.WellFormed) (relations : RelationMap) :
    (spec.compile relations).WellFormed := by
  induction spec, relations using demandInduction with
  | mk fields requests relations ih =>
      rw [compile_mk]
      refine .mk (Keyed.Distinct.append ?listed ?asked ?apart) ?inside
      case listed =>
        rw [Keyed.Distinct, keys_scalars]
        cases fields with
        | none => exact List.nodup_nil
        | some names => exact hspec.nodup_fields rfl
      case asked =>
        apply Keyed.Distinct.filter
        rw [compileRequests_eq_restrict]
        exact hspec.distinct.restrict _
      case apart =>
        intro name hname hkey
        rw [keys_scalars] at hname
        obtain ⟨entry, hentry, rfl⟩ := List.mem_map.mp hkey
        have hother := (List.mem_filter.mp hentry).2
        exact of_decide_eq_true hother hname
      case inside =>
        intro name selection hmem
        rcases List.mem_append.mp hmem with hfield | hmem
        · cases eq_none_of_mem_scalars hfield
        · rw [compileRequests_eq] at hmem
          obtain ⟨demand, hdemand, heq⟩ := List.mem_map.mp (List.mem_filter.mp hmem).1
          obtain ⟨⟨request, hrequest, hnested⟩, -⟩ := mem_demands.mp hdemand
          rw [← Selection.eq_of_asEntry_eq_some (Prod.mk.inj heq).2]
          apply ih demand hdemand
          rw [← hnested]
          exact hspec.getD hrequest

end Spec

end QueryShape

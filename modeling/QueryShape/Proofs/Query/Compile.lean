import QueryShape.Proofs.Query.Spec
import QueryShape.Query.Compile

/-!
# What a specification compiles to

The selection of a specification is described name by name.  A declared field is fetched whole, and
this is so even where a relation of the same name was asked for with a specification of its own.
Any other name is fetched if it is asked for and is a relation, with the selection of what is asked
for of that relation.
-/

namespace QueryShape

namespace Selection

/-- The entry for a selection that is nested in another one. -/
def asEntry (selection : Selection) : Option Selection :=
  if selection.isEmptyInclude then none else some selection

theorem eq_empty_of_isEmptyInclude {selection : Selection}
    (hempty : selection.isEmptyInclude = true) : selection = .empty := by
  rw [isEmptyInclude, Bool.and_eq_true, decide_eq_true_iff, List.isEmpty_iff] at hempty
  obtain ⟨kind, entries⟩ := selection
  obtain ⟨rfl, rfl⟩ : kind = .including ∧ entries = [] := hempty
  rfl

theorem getD_asEntry (selection : Selection) : selection.asEntry.getD .empty = selection := by
  unfold asEntry
  split
  · next hempty => exact (eq_empty_of_isEmptyInclude hempty).symm
  · rfl

theorem asEntry_of_selecting {selection : Selection} (hkind : selection.kind = .selecting) :
    selection.asEntry = some selection := by
  simp [asEntry, isEmptyInclude, hkind]

theorem eq_of_asEntry_eq_some {selection nested : Selection}
    (hentry : selection.asEntry = some nested) : selection = nested := by
  rw [asEntry, Option.ite_none_left_eq_some] at hentry
  exact Option.some.inj hentry.2

/-- What is fetched under a name, if anything is. -/
def requested? (selection : Selection) (name : String) : Option Selection :=
  (selection.entries.get? name).map (·.getD .empty)

@[simp]
theorem kind_merge (left right : Selection) :
    (left.merge right).kind = left.kind.merge right.kind := by
  cases left
  cases right
  rw [merge]
  rfl

@[simp]
theorem entries_merge (left right : Selection) :
    (left.merge right).entries = mergeEntries left.entries right.entries := by
  cases left
  cases right
  rw [merge]
  rfl

theorem mergeEntry_none_left (other : Option Selection) : mergeEntry none other = none := by
  rw [mergeEntry]
  exact nofun

theorem get?_mergeEntries (entries others : Keyed (Option Selection)) (name : String) :
    Keyed.get? (mergeEntries entries others) name =
      match entries.get? name, others.get? name with
      | none, other => other
      | some entry, none => some entry
      | some entry, some other => some (mergeEntry entry other) := by
  induction entries generalizing others with
  | nil =>
      rw [mergeEntries]
      rfl
  | cons first rest ih =>
      obtain ⟨fetched, entry⟩ := first
      by_cases hname : fetched = name
      · subst hname
        have hlookup : others.lookup fetched = others.get? fetched := rfl
        cases hother : others.get? fetched <;> simp [mergeEntries, hlookup, hother]
      · have hrest := ih (others.filter (·.1 ≠ fetched))
        rw [Keyed.get?_filter_ne (Ne.symm hname)] at hrest
        simpa [mergeEntries, hname] using hrest

/-- Beside names that are fetched whole, the other selection adds the names it has more. -/
theorem mergeEntries_whole (names : List String) (others : Keyed (Option Selection)) :
    mergeEntries (names.map (·, none)) others =
      names.map (·, none) ++ others.filter (·.1 ∉ names) := by
  induction names generalizing others with
  | nil => simp [mergeEntries]
  | cons name names ih =>
      rw [List.map_cons, mergeEntries, ih, List.filter_filter, List.cons_append]
      cases others.lookup name <;> simp [mergeEntry_none_left, Bool.and_comm]

end Selection

namespace Spec

open Selection

@[simp]
theorem compile_empty (relations : RelationMap) : empty.compile relations = .empty := by
  rw [empty, compile]
  rfl

theorem compileRequests_known {requests : List (String × Option Spec)} {relations : RelationMap}
    {name : String} {request : Option Spec} {relation : Relation}
    (hrelation : relations.get? name = some relation) :
    compileRequests ((name, request) :: requests) relations =
      (name, ((request.getD .empty).compile relation.nested).asEntry) ::
        compileRequests requests relations := by
  cases request with
  | none =>
      rw [compileRequests, Option.getD_none, compile_empty]
      simp [Keyed.contains, hrelation, asEntry, isEmptyInclude, Selection.empty, Selection.kind,
        Selection.entries]
  | some spec =>
      rw [compileRequests]
      simp only [hrelation]
      rfl

theorem compileRequests_unknown {requests : List (String × Option Spec)}
    {relations : RelationMap} {name : String} {request : Option Spec}
    (hrelation : relations.get? name = none) :
    compileRequests ((name, request) :: requests) relations =
      compileRequests requests relations := by
  cases request <;> simp [compileRequests, Keyed.contains, hrelation]

theorem get?_compileRequests (requests : Keyed (Option Spec)) (relations : RelationMap)
    (name : String) :
    Keyed.get? (compileRequests requests relations) name =
      (requests.get? name).bind fun request =>
        (relations.get? name).map fun relation =>
          ((request.getD .empty).compile relation.nested).asEntry := by
  induction requests with
  | nil => rfl
  | cons first rest ih =>
      obtain ⟨asked, request⟩ := first
      cases hrelation : relations.get? asked with
      | none =>
          rw [compileRequests_unknown hrelation, ih]
          by_cases hname : asked = name
          · subst hname
            simp [hrelation]
          · simp [hname]
      | some relation =>
          rw [compileRequests_known hrelation, Keyed.get?_cons, ih]
          by_cases hname : asked = name
          · subst hname
            simp [hrelation]
          · simp [hname]

theorem get?_scalars (fields : Option (List String)) (name : String) :
    (scalars fields).entries.get? name =
      if name ∈ fields.getD [] then some none else none := by
  cases fields with
  | none => rfl
  | some names =>
      simp only [scalars, Selection.entries, Option.getD_some]
      induction names with
      | nil => rfl
      | cons first names ih =>
          by_cases hname : first = name
          · simp [hname]
          · simpa [hname, Ne.symm hname] using ih

theorem keys_scalars (fields : Option (List String)) :
    (scalars fields).entries.keys = fields.getD [] := by
  cases fields with
  | none => rfl
  | some names =>
      rw [scalars, Selection.entries, Keyed.keys, List.map_map]
      exact List.map_id names

theorem eq_none_of_mem_scalars {fields : Option (List String)} {name : String}
    {entry : Option Selection} (hmem : (name, entry) ∈ (scalars fields).entries) :
    entry = none := by
  cases fields with
  | none => cases hmem
  | some names =>
      obtain ⟨field, -, heq⟩ := List.mem_map.mp hmem
      exact (Prod.mk.inj heq).2.symm

/-- The fields of a level are listed first, then the relations that are asked for beside them. -/
theorem compile_mk (fields : Option (List String)) (requests : List (String × Option Spec))
    (relations : RelationMap) :
    (mk fields requests).compile relations =
      .mk (scalars fields).kind ((scalars fields).entries ++
        (compileRequests requests relations).filter (·.1 ∉ fields.getD [])) := by
  rw [compile]
  cases fields with
  | none =>
      rw [scalars, Selection.empty, merge, mergeEntries]
      exact congrArg (Selection.mk .including) (List.filter_eq_self.mpr fun _ _ => rfl).symm
  | some names =>
      rw [scalars, merge, mergeEntries_whole]
      rfl

theorem kind_compile (spec : Spec) (relations : RelationMap) :
    (spec.compile relations).kind = if spec.isNarrowed then .selecting else .including := by
  obtain ⟨fields, requests⟩ := spec
  rw [compile, kind_merge]
  cases fields <;> rfl

theorem isNarrowed_of_kind_compile {spec : Spec} {relations : RelationMap}
    (hkind : (spec.compile relations).kind = .selecting) : spec.isNarrowed = true := by
  rw [kind_compile] at hkind
  by_contra hnarrowed
  simp [hnarrowed] at hkind

/-- A level fetches its fields whole, and beside them the relations that are asked for. -/
theorem get?_compile (spec : Spec) (relations : RelationMap) (name : String) :
    (spec.compile relations).entries.get? name =
      if name ∈ spec.fields?.getD [] then some none
      else (spec.requested? name).bind fun nested =>
        (relations.get? name).map fun relation => (nested.compile relation.nested).asEntry := by
  obtain ⟨fields, requests⟩ := spec
  have hrequests :
      (Selection.mk .including (compileRequests requests relations)).entries.get? name =
        ((Spec.mk fields requests).requested? name).bind fun nested =>
          (relations.get? name).map fun relation => (nested.compile relation.nested).asEntry := by
    rw [requested?, Option.bind_map]
    exact get?_compileRequests requests relations name
  rw [compile, entries_merge, get?_mergeEntries, get?_scalars, hrequests, fields?]
  by_cases hfield : name ∈ fields.getD []
  · rw [if_pos hfield, if_pos hfield]
    cases (Spec.requested? _ name).bind _ with
    | none => rfl
    | some other => exact congrArg some (mergeEntry_none_left other)
  · rw [if_neg hfield, if_neg hfield]

theorem mem_keys_compile {spec : Spec} {relations : RelationMap} {name : String} :
    name ∈ (spec.compile relations).entries.keys ↔
      name ∈ spec.fields?.getD [] ∨
        (spec.requested? name).isSome ∧ (relations.get? name).isSome := by
  rw [← Keyed.get?_isSome_iff, get?_compile]
  by_cases hfield : name ∈ spec.fields?.getD []
  · simp [hfield]
  · cases spec.requested? name <;> simp [hfield]

theorem isNarrowed_of_mem {spec : Spec} {name : String} (hfield : name ∈ spec.fields?.getD []) :
    spec.isNarrowed = true := by
  unfold isNarrowed
  cases hfields : spec.fields? with
  | none => simp [hfields] at hfield
  | some names => rfl

/-- The selection of a relation is that of what is asked for of it, unless the relation is also
among the fields of its level and so is fetched whole. -/
theorem requested?_compile {spec nested : Spec} {relations : RelationMap} {name : String}
    {relation : Relation} (hrequested : spec.requested? name = some nested)
    (hrelation : relations.get? name = some relation) :
    (spec.compile relations).requested? name =
      some (if name ∈ spec.fields?.getD [] then .empty else nested.compile relation.nested) := by
  rw [Selection.requested?, get?_compile, hrequested, hrelation]
  split
  · rfl
  · exact congrArg some (getD_asEntry _)

end Spec

end QueryShape

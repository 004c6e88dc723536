import QueryShape.Proofs.Query.Steps

/-!
# What a traversal reaches

A traversal visits values, each for an entity and with what is asked for of it.  It starts with a
record and goes on to the records of every relation that is followed.  The path of a visit leads to
the visited value from the value at the start, and its fields lead along the relations to the
entity.  Every step of a traversal belongs to a visit.
-/

namespace QueryShape

open Json (Value)

/-- A value that is visited for an entity, with what is asked for of it and the relations that the
entity has. -/
structure Visit where
  spec : Spec
  relations : RelationMap
  entity : String
  raw : Value

theorem mem_placedItems {items : List Value} {place : Path} {item : Value} :
    (place, item) ∈ placedItems items ↔
      ∃ position, place = [.index position] ∧ items[position]? = some item := by
  unfold placedItems
  rw [List.mem_map]
  constructor
  · rintro ⟨⟨found, position⟩, hmem, heq⟩
    cases heq
    exact ⟨position, rfl, List.mk_mem_zipIdx_iff_getElem?.mp hmem⟩
  · rintro ⟨position, rfl, hitem⟩
    exact ⟨(item, position), List.mk_mem_zipIdx_iff_getElem?.mpr hitem, rfl⟩

namespace Relation

/-- The records of a relation are the items of a list, or the value itself. -/
theorem placedRecords_cases {relation : Relation} {raw record : Value} {place : Path}
    (hrecord : (place, record) ∈ relation.placedRecords raw) :
    (∃ items position, raw = .array items ∧ place = [.index position] ∧
        items[position]? = some record) ∨
      place = [] ∧ record = raw := by
  unfold placedRecords at hrecord
  split at hrecord
  · next items _ =>
      obtain ⟨position, hplace, hitem⟩ := mem_placedItems.mp hrecord
      exact Or.inl ⟨items, position, rfl, hplace, hitem⟩
  · simp at hrecord
  · simp at hrecord
  · exact Or.inr (Prod.mk.inj (List.mem_singleton.mp hrecord))

theorem map_snd_placedRecords (relation : Relation) (raw : Value) :
    (relation.placedRecords raw).map Prod.snd = relation.records raw := by
  unfold placedRecords records
  cases relation.cardinality with
  | many =>
      cases raw with
      | array items => simp [placedItems, Function.comp_def]
      | _ => rfl
  | one => cases raw <;> rfl

theorem at?_of_mem_placedRecords {relation : Relation} {raw record : Value} {place : Path}
    (hrecord : (place, record) ∈ relation.placedRecords raw) : raw.at? place = some record := by
  rcases placedRecords_cases hrecord with ⟨items, position, rfl, rfl, hitem⟩ | ⟨rfl, rfl⟩
  · simp [hitem]
  · simp

end Relation

namespace Visit

/-- From a visit, a path leads to the visit itself, and to what it leads to from the records of each
relation that is followed. -/
inductive Reaches : Visit → Path → Visit → Prop
  | here (visit : Visit) : visit.Reaches [] visit
  | record {spec : Spec} {relations : RelationMap} {entity name : String} {entries : Keyed Value}
      {request : Option Spec} {relation : Relation} {raw record : Value} {place path : Path}
      {goal : Visit} (requested : (name, request) ∈ spec.relations)
      (described : relations.get? name = some relation) (present : entries.get? name = some raw)
      (placed : (place, record) ∈ relation.placedRecords raw)
      (onward : Reaches ⟨request.getD .empty, relation.nested, relation.target, record⟩ path goal) :
      Reaches ⟨spec, relations, entity, .object entries⟩ (.field name :: (place ++ path)) goal

/-- The steps that belong to a visit at a path. -/
inductive Takes (visit : Visit) (path : Path) : Step → Prop
  | shape : visit.Takes path (.shape visit.entity path visit.raw)
  | validation {entries : Keyed Value} (object : visit.raw = .object entries)
      (whole : visit.spec.isNarrowed = false) :
      visit.Takes path (.validation visit.entity path entries)
  | following {entries : Keyed Value} {name : String} {request : Option Spec}
      {relation : Relation} {raw : Value} (object : visit.raw = .object entries)
      (requested : (name, request) ∈ visit.spec.relations)
      (described : visit.relations.get? name = some relation)
      (present : entries.get? name = some raw) :
      visit.Takes path (.following relation (path.child (.field name)) raw)

theorem Reaches.at? {visit goal : Visit} {path : Path} (hreaches : visit.Reaches path goal) :
    visit.raw.at? path = some goal.raw := by
  induction hreaches with
  | here visit => simp
  | record _ _ present placed _ ih =>
      rw [Value.at?_object_field, present, Option.bind_some, Value.at?_append,
        Relation.at?_of_mem_placedRecords placed, Option.bind_some, ih]

/-- What lies beyond a visit, along the relations, lies beyond the end of its path. -/
theorem Reaches.entityAt?_append {visit goal : Visit} {path : Path}
    (hreaches : visit.Reaches path goal) (rest : Path) :
    visit.relations.entityAt? visit.entity (path ++ rest) =
      goal.relations.entityAt? goal.entity rest := by
  induction hreaches with
  | here visit => rfl
  | record _ described _ placed _ ih =>
      rw [← ih, List.cons_append, RelationMap.entityAt?, described, Option.bind_some]
      rcases Relation.placedRecords_cases placed with ⟨_, _, _, rfl, _⟩ | ⟨rfl, _⟩
      · rfl
      · rfl

end Visit

theorem Relation.mem_stepsWith {recordSteps : Value → Path → List Step} {relation : Relation}
    {raw : Value} {path : Path} {step : Step} :
    step ∈ relation.stepsWith recordSteps raw path ↔
      step = .following relation path raw ∨
        ∃ place record, (place, record) ∈ relation.placedRecords raw ∧
          step ∈ recordSteps record (path ++ place) := by
  simp [stepsWith]

namespace Spec

theorem mem_stepsOfRecord {fields : Option (List String)} {entity : String}
    {requestSteps : Keyed Value → Path → List Step} {raw : Value} {path : Path} {step : Step} :
    step ∈ stepsOfRecord fields entity requestSteps raw path ↔
      step = .shape entity path raw ∨ ∃ entries, raw = .object entries ∧
        (fields.isSome = false ∧ step = .validation entity path entries ∨
          step ∈ requestSteps entries path) := by
  cases raw with
  | object entries => cases fields <;> simp [stepsOfRecord]
  | _ => simp [stepsOfRecord]

/-- A step for a relation that is asked for is one for its value, which the object has. -/
theorem exists_of_mem_stepsOfRequests {requests : List (String × Option Spec)}
    {relations : RelationMap} {entries : Keyed Value} {path : Path} {step : Step}
    (hstep : step ∈ stepsOfRequests requests relations entries path) :
    ∃ name request raw relation, (name, request) ∈ requests ∧ entries.get? name = some raw ∧
      relations.get? name = some relation ∧
      step ∈ relation.stepsWith ((request.getD .empty).steps relation.nested relation.target) raw
        (path.child (.field name)) := by
  induction requests with
  | nil => simp [stepsOfRequests] at hstep
  | cons first rest ih =>
      obtain ⟨name, request⟩ := first
      rw [stepsOfRequests_cons, List.mem_append] at hstep
      rcases hstep with hstep | hstep
      · rcases present_or_skipped relations entries name with
          ⟨raw, relation, hraw, hrelation⟩ | hskip
        · rw [stepsOfRequest_followed hraw hrelation] at hstep
          exact ⟨name, request, raw, relation, List.mem_cons_self, hraw, hrelation, hstep⟩
        · simp [stepsOfRequest_skipped hskip] at hstep
      · obtain ⟨other, again, raw, relation, hmem, hfound⟩ := ih hstep
        exact ⟨other, again, raw, relation, List.mem_cons_of_mem _ hmem, hfound⟩

/-- Every step of a traversal belongs to a visit that the traversal reaches. -/
theorem exists_visit_of_mem_steps {spec : Spec} {relations : RelationMap} {entity : String}
    {raw : Value} {path : Path} {step : Step}
    (hstep : step ∈ spec.steps relations entity raw path) :
    ∃ place visit, Visit.Reaches ⟨spec, relations, entity, raw⟩ place visit ∧
      visit.Takes (path ++ place) step := by
  induction spec using Spec.induction generalizing relations entity raw path with
  | mk fields requests ih =>
      have hhere := Visit.Reaches.here ⟨.mk fields requests, relations, entity, raw⟩
      rw [steps, mem_stepsOfRecord] at hstep
      rcases hstep with rfl | ⟨entries, rfl, ⟨hfields, rfl⟩ | hstep⟩
      · exact ⟨[], _, hhere, by rw [List.append_nil]; exact .shape⟩
      · exact ⟨[], _, hhere, by rw [List.append_nil]; exact .validation rfl hfields⟩
      · obtain ⟨name, request, raw, relation, hmem, hraw, hrelation, hstep⟩ :=
          exists_of_mem_stepsOfRequests hstep
        rcases Relation.mem_stepsWith.mp hstep with rfl | ⟨place, record, hrecord, hstep⟩
        · refine ⟨[], _, hhere, ?_⟩
          rw [List.append_nil]
          exact .following rfl hmem hrelation hraw
        · obtain ⟨rest, visit, hreaches, htakes⟩ := ih name request hmem hstep
          refine ⟨.field name :: (place ++ rest), visit,
            .record hmem hrelation hraw hrecord hreaches, ?_⟩
          simpa [Path.child] using htakes

end Spec

end QueryShape

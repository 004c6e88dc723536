import QueryShape.Json.Results
import QueryShape.Relation.Graph

/-!
# Relation graphs as documents

A relation is written with its target and its cardinality; whether it is optional is written only if
it is, and the nested relations only if there are any to speak of.  Entities and relations keep
their order, and what is read lists none of them twice.
-/

namespace QueryShape

open Json (Document Reading RecordForm)

def Cardinality.text : Cardinality → String
  | .one => "one"
  | .many => "many"

def Cardinality.named : Keyed Cardinality :=
  [(Cardinality.one.text, .one), (Cardinality.many.text, .many)]

namespace Relation

/-- The members of a relation beside the relations nested in it. -/
def ownMembers (target : String) (cardinality : Cardinality) (optional : Bool) : Keyed Document :=
  [("targetEntity", .string target), ("cardinality", .string cardinality.text)] ++
    if optional then [("optional", .bool true)] else []

mutual

def toDocument : Relation → Document
  | .mk target cardinality optional nested =>
      .record (ownMembers target cardinality optional ++ nestedMember nested)

def nestedMember : Option (List (String × Relation)) → Keyed Document
  | none => []
  | some nested => [("nested", .record (mapDocuments nested))]

def mapDocuments : List (String × Relation) → Keyed Document
  | [] => []
  | (name, relation) :: rest => (name, relation.toDocument) :: mapDocuments rest

end

/-- The fields of a relation that have been read. -/
structure Draft where
  target : Option String := none
  cardinality : Option Cardinality := none
  optional : Option Bool := none
  nested : Option (Option RelationMap) := none

def form : RecordForm where
  title := "struct RelationDescriptor"
  fields := [("targetEntity", false), ("cardinality", false), ("optional", true), ("nested", true)]
  exact := false

def Draft.step (readNested : Document → Reading RelationMap) (room : Nat) (draft : Draft)
    (name : String) (value : Document) : Reading Draft :=
  match name with
  | "targetEntity" =>
      return { draft with target := ← Json.readOnce draft.target name value.readString }
  | "cardinality" =>
      return { draft with
        cardinality :=
          ← Json.readOnce draft.cardinality name (value.readVariant Cardinality.named room) }
  | "optional" =>
      return { draft with optional := ← Json.readOnce draft.optional name value.readBool }
  | _ =>
      return { draft with
        nested := ← Json.readOnce draft.nested name (value.readOptional readNested) }

def Draft.finish (draft : Draft) : Reading Relation := do
  let target ← Json.required draft.target "targetEntity"
  let cardinality ← Json.required draft.cardinality "cardinality"
  return .mk target cardinality (draft.optional.getD false) draft.nested.join

def readWith (readNested : Document → Reading RelationMap) (room : Nat) (document : Document) :
    Reading Relation := do
  (← form.read (Draft.step readNested) {} room document).finish

end Relation

namespace RelationMap

def toDocument (relations : RelationMap) : Document :=
  .record (Relation.mapDocuments relations)

/-- Reads a map, with what reads the maps nested in its relations. -/
def readWith (readNested : Document → Reading RelationMap) (room : Nat) (document : Document) :
    Reading RelationMap :=
  Dictionary.entries <$> document.readKeyed (Relation.readWith readNested) room

/-- Each level of relations takes two levels of nesting in the text, one for the map and one for the
relation.  With less room than that, no nested map is ever reached. -/
def read : Nat → Document → Reading RelationMap
  | room + 2 => readWith (read room) (room + 2)
  | room => readWith (Document.refuse · "a map") room

end RelationMap

/-! ## What is read is well-formed -/

namespace Relation

/-- The nested relations that have been read, if any, are well-formed. -/
def Draft.WellFormed (draft : Draft) : Prop :=
  ∀ relations, draft.nested = some (some relations) → relations.WellFormed

theorem Draft.wellFormed_step {readNested : Document → Reading RelationMap}
    (hnested : ∀ document relations, readNested document = .ok relations → relations.WellFormed)
    {room : Nat} {draft next : Draft} {name : String} {value : Document}
    (hdraft : draft.WellFormed) (hstep : draft.step readNested room name value = .ok next) :
    next.WellFormed := by
  unfold step at hstep
  split at hstep
  case h_4 =>
    obtain ⟨content, hcontent, hstep⟩ := except_bind_eq_ok.mp hstep
    cases hstep
    obtain ⟨nested, hread, rfl⟩ := Json.readOnce_eq_ok hcontent
    rintro relations ⟨⟩
    obtain ⟨document, hread⟩ := Document.exists_of_readOptional hread
    exact hnested document relations hread
  all_goals
    obtain ⟨content, -, hstep⟩ := except_bind_eq_ok.mp hstep
    cases hstep
    exact hdraft

theorem nested_of_finish {draft : Draft} {relation : Relation}
    (hfinish : draft.finish = .ok relation) : relation.nested? = draft.nested.join := by
  obtain ⟨target, -, hfinish⟩ := except_bind_eq_ok.mp hfinish
  obtain ⟨cardinality, -, hfinish⟩ := except_bind_eq_ok.mp hfinish
  cases hfinish
  rfl

theorem wellFormed_of_readWith {readNested : Document → Reading RelationMap}
    (hnested : ∀ document relations, readNested document = .ok relations → relations.WellFormed)
    {room : Nat} {document : Document} {relation : Relation}
    (hread : readWith readNested room document = .ok relation) : relation.nested.WellFormed := by
  obtain ⟨draft, hdraft, hfinish⟩ := except_bind_eq_ok.mp hread
  have hgood : draft.WellFormed := by
    refine Json.RecordForm.read_keeps Draft.WellFormed
      (fun _ _ _ _ _ => Draft.wellFormed_step hnested) ?_ hdraft
    rintro _ ⟨⟩
  rw [nested, nested_of_finish hfinish]
  cases hrelations : draft.nested with
  | none => exact RelationMap.wellFormed_nil
  | some nested =>
      cases nested with
      | none => exact RelationMap.wellFormed_nil
      | some relations => exact hgood relations hrelations

end Relation

namespace RelationMap

theorem wellFormed_of_readWith {readNested : Document → Reading RelationMap}
    (hnested : ∀ document relations, readNested document = .ok relations → relations.WellFormed)
    {room : Nat} {document : Document} {relations : RelationMap}
    (hread : readWith readNested room document = .ok relations) : relations.WellFormed := by
  obtain ⟨dictionary, hdictionary, rfl⟩ := except_map_eq_ok.mp hread
  refine .mk dictionary.distinct ?_
  intro name relation hmem
  obtain ⟨inner, content, hrelation⟩ := Document.readKeyed_eq_ok hdictionary name relation hmem
  exact Relation.wellFormed_of_readWith hnested hrelation

/-- To prove something of reading with any room, prove it of reading one level, with whatever reads
the relations nested in it. -/
@[elab_as_elim]
theorem readInduction {motive : Nat → (Document → Reading RelationMap) → Prop}
    (short : ∀ room < 2, motive room (readWith (Document.refuse · "a map") room))
    (level : ∀ room, motive room (read room) →
      motive (room + 2) (readWith (read room) (room + 2)))
    (room : Nat) : motive room (read room) := by
  induction room using Nat.strongRecOn with
  | ind room ih =>
      match room with
      | 0 => exact short 0 (by decide)
      | 1 => exact short 1 (by decide)
      | room + 2 => exact level room (ih room (by omega))

theorem wellFormed_of_read {room : Nat} {document : Document} {relations : RelationMap}
    (hread : read room document = .ok relations) : relations.WellFormed := by
  induction room using readInduction generalizing document relations with
  | short room _ =>
      exact wellFormed_of_readWith
        (fun _ _ hrefuse => absurd hrefuse Document.refuse_ne_ok) hread
  | level room ih => exact wellFormed_of_readWith (fun _ _ hnested => ih hnested) hread

end RelationMap

def RelationTable.read (room : Nat) (document : Document) : Reading RelationTable :=
  certify (RelationMap.read room document) fun _ => RelationMap.wellFormed_of_read

namespace RelationGraph

def toDocument (graph : RelationGraph) : Document :=
  .record (graph.entries.map fun (entity, relations) => (entity, relations.val.toDocument))

def read (room : Nat) (document : Document) : Reading RelationGraph :=
  document.readKeyed RelationTable.read room

end RelationGraph

end QueryShape

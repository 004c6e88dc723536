import QueryShape.Proofs.Json.Room
import QueryShape.Proofs.Json.Texts
import QueryShape.Proofs.Relation.Walks
import QueryShape.Relation.Wire

/-!
# Relation graphs and their documents

A relation graph is read back from the document that it is written as, with the order of its
entities and relations and with the nested maps that are empty.  This takes as much room as arrays
and objects are nested in the document; where there is less, the document is refused as malformed.
Each level of relations takes two levels of nesting, so a text has room for sixty-three of them.
-/

namespace QueryShape

open Json (Document Reading)

/-! ## Relations -/

namespace Relation

theorem mapDocuments_eq (relations : RelationMap) :
    mapDocuments relations =
      relations.map fun (name, relation) => (name, relation.toDocument) := by
  induction relations with
  | nil => rw [mapDocuments]; rfl
  | cons entry rest ih =>
      obtain ⟨name, relation⟩ := entry
      rw [mapDocuments, ih]
      rfl

theorem nestedMember_some (relations : RelationMap) :
    nestedMember (some relations) = [("nested", RelationMap.toDocument relations)] := by
  rw [nestedMember]
  rfl

/-- How many arrays and objects are nested in the document of the nested relations. -/
def nestedNesting (relation : Relation) : Nat :=
  relation.nested?.elim 0 fun nested => (RelationMap.toDocument nested).nesting

theorem nesting_toDocument (relation : Relation) :
    relation.toDocument.nesting = relation.nestedNesting + 1 := by
  obtain ⟨target, cardinality, optional, nested⟩ := relation
  cases optional <;> cases nested <;>
    simp [toDocument, ownMembers, nestedMember, nestedNesting, nested?, RelationMap.toDocument,
      Document.record_eq, Document.nesting, Document.membersNesting]

theorem nestedNesting_withNested (relation : Relation) (nested : RelationMap) :
    (relation.withNested nested).nestedNesting =
      if nested = [] then 0 else (RelationMap.toDocument nested).nesting := by
  cases relation
  cases nested <;> rfl

theorem two_mul_mapDepth_le_nestedNesting {relation : Relation}
    (hnested : 2 * mapDepth relation.nested ≤ (RelationMap.toDocument relation.nested).nesting) :
    2 * mapDepth relation.nested ≤ relation.nestedNesting := by
  obtain ⟨target, cardinality, optional, nested⟩ := relation
  cases nested with
  | none =>
      rw [nested, nested?, Option.getD_none, mapDepth]
      exact Nat.zero_le _
  | some relations => exact hnested

section

variable {readNested : Document → Reading RelationMap} {room : Nat}

theorem foldlM_ownMembers (target : String) (cardinality : Cardinality) (optional : Bool) :
    (ownMembers target cardinality optional).foldlM
        (fun draft member => Draft.step readNested room draft member.1 member.2) {} =
      .ok { target := some target, cardinality := some cardinality,
            optional := if optional then some true else none } := by
  cases cardinality <;> cases optional <;> rfl

theorem foldlM_nestedMember {draft : Draft} (hdraft : draft.nested = none)
    {nested : Option RelationMap}
    (hnested : ∀ relations, nested = some relations →
      readNested (RelationMap.toDocument relations) =
        Json.fitting (RelationMap.toDocument relations).nesting room relations) :
    (nestedMember nested).foldlM
        (fun draft member => Draft.step readNested room draft member.1 member.2) draft =
      Json.fitting (nested.elim 0 fun relations => (RelationMap.toDocument relations).nesting) room
        { draft with nested := nested.map some } := by
  obtain ⟨target, cardinality, optional, _⟩ := draft
  subst hdraft
  cases nested with
  | none => exact (Json.fitting_zero _ _).symm
  | some relations =>
      have hread : (RelationMap.toDocument relations).readOptional readNested =
          Json.fitting (RelationMap.toDocument relations).nesting room (some relations) :=
        (congrArg (some <$> ·) (hnested relations rfl)).trans (Json.map_fitting _ _ _ _)
      have hstep : Draft.step readNested room ⟨target, cardinality, optional, none⟩ "nested"
          (RelationMap.toDocument relations) =
          (some <$> (RelationMap.toDocument relations).readOptional readNested >>= fun nested =>
            return ⟨target, cardinality, optional, nested⟩) := rfl
      rw [nestedMember_some, List.foldlM_cons, hstep, hread]
      simp only [Json.map_fitting, bind_pure_comp, List.foldlM_nil, bind_pure, Option.elim_some,
        Option.map_some]

theorem legible_of_mem_ownMembers {target : String} {cardinality : Cardinality} {optional : Bool}
    {name : String} {document : Document}
    (hmem : (name, document) ∈ ownMembers target cardinality optional) : document.Legible := by
  cases optional <;>
    simp only [ownMembers, Bool.false_eq_true, if_true, if_false, List.mem_append, List.mem_cons,
      List.not_mem_nil, or_false, Prod.mk.injEq] at hmem
  · rcases hmem with ⟨-, rfl⟩ | ⟨-, rfl⟩ <;> exact .string _
  · rcases hmem with (⟨-, rfl⟩ | ⟨-, rfl⟩) | ⟨-, rfl⟩
    · exact .string _
    · exact .string _
    · exact .bool true

theorem legible_toDocument {relation : Relation}
    (hnested : (RelationMap.toDocument relation.nested).Legible) :
    relation.toDocument.Legible := by
  obtain ⟨target, cardinality, optional, nested⟩ := relation
  rw [toDocument]
  refine .record ?_
  intro name document hmem
  rcases List.mem_append.mp hmem with hown | hbelow
  · exact legible_of_mem_ownMembers hown
  · cases nested with
    | none => cases hbelow
    | some relations =>
        cases List.mem_singleton.mp hbelow
        exact hnested

/-- A relation is read back as far as there is room for it if its nested relations are. -/
theorem readWith_toDocument {relation : Relation}
    (hnested : ∀ inner, room = inner + 1 → ∀ relations, relation.nested? = some relations →
      readNested (RelationMap.toDocument relations) =
        Json.fitting (RelationMap.toDocument relations).nesting inner relations) :
    readWith readNested room relation.toDocument =
      Json.fitting relation.toDocument.nesting room relation := by
  obtain ⟨target, cardinality, optional, nested⟩ := relation
  rw [nesting_toDocument]
  cases room with
  | zero =>
      rw [Json.fitting_succ_zero]
      rfl
  | succ inner =>
      have hnames : ∀ name ∈
          Keyed.keys (ownMembers target cardinality optional ++ nestedMember nested),
          name ∈ form.names := by
        cases optional <;> cases nested <;>
          simp [Keyed.keys, ownMembers, nestedMember, form, Json.RecordForm.names]
      rw [Json.fitting_succ, readWith, toDocument, Json.RecordForm.read_record hnames,
        List.foldlM_append, foldlM_ownMembers]
      refine (congrArg (· >>= Draft.finish)
        (foldlM_nestedMember rfl (hnested inner rfl))).trans (Json.fitting_bind ?_)
      cases optional <;> cases nested <;> rfl

end

end Relation

/-! ## Maps and graphs -/

namespace RelationMap

theorem toDocument_eq (relations : RelationMap) :
    relations.toDocument =
      .record (List.map (fun (name, relation) => (name, Relation.toDocument relation))
        relations) := by
  rw [toDocument, Relation.mapDocuments_eq]

/-- Relations are read back as far as there is room for them if the relations nested in them are. -/
theorem readWith_toDocument {relations : RelationMap} (hdistinct : relations.Distinct)
    {readNested : Document → Reading RelationMap} {room : Nat}
    (hnested : ∀ inner, room = inner + 2 → ∀ name relation, (name, relation) ∈ relations →
      ∀ nested, relation.nested? = some nested → readNested nested.toDocument =
        Json.fitting nested.toDocument.nesting inner nested) :
    readWith readNested room relations.toDocument =
      Json.fitting relations.toDocument.nesting room relations := by
  rw [readWith, toDocument_eq]
  refine (congrArg (Dictionary.entries <$> ·)
    (Document.readKeyed_record_fitting ⟨relations, hdistinct⟩ ?_)).trans (Json.map_fitting _ _ _ _)
  rintro below rfl name relation hmem
  apply Relation.readWith_toDocument
  rintro inner rfl nested hsome
  exact hnested inner rfl name relation hmem nested hsome

/-- Relations are read back as far as there is room for them. -/
theorem read_toDocument {relations : RelationMap} (hrelations : relations.WellFormed)
    (room : Nat) :
    read room relations.toDocument =
      Json.fitting relations.toDocument.nesting room relations := by
  induction room using readInduction generalizing relations with
  | short room hshort =>
      apply readWith_toDocument hrelations.distinct
      -- There is no room for a nested map inside a relation here.
      rintro inner rfl
      omega
  | level room ih =>
      apply readWith_toDocument hrelations.distinct
      rintro inner hinner name relation hmem nested hsome
      obtain rfl : room = inner := by omega
      have hwellFormed := hrelations.nested hmem
      rw [Relation.nested, hsome] at hwellFormed
      exact ih hwellFormed

theorem WellFormed.legible_toDocument {relations : RelationMap}
    (hrelations : relations.WellFormed) : relations.toDocument.Legible := by
  induction hrelations with
  | @mk relations _ _ ih =>
      rw [toDocument_eq]
      refine .record ?_
      intro name document hmem
      obtain ⟨⟨_, relation⟩, hrelation, heq⟩ := List.mem_map.mp hmem
      cases heq
      exact Relation.legible_toDocument (ih _ relation hrelation)

/-- A level of relations is written as a map and the relations in it. -/
theorem WellFormed.two_mul_mapDepth_le_nesting {relations : RelationMap}
    (hrelations : relations.WellFormed) :
    2 * Relation.mapDepth relations ≤ relations.toDocument.nesting := by
  induction hrelations with
  | @mk relations _ _ ih =>
      by_cases hsome : relations = []
      · rw [hsome, Relation.mapDepth]
        exact Nat.zero_le _
      · obtain ⟨name, deepest, hmem, hdepth⟩ := Relation.exists_depth_eq_mapDepth hsome
        have hbelow := Relation.two_mul_mapDepth_le_nestedNesting (ih name deepest hmem)
        have hwithin := Document.nesting_lt_of_mem Relation.toDocument hmem
        rw [← toDocument_eq, Relation.nesting_toDocument] at hwithin
        rw [← hdepth, Relation.depth_eq]
        omega

end RelationMap

theorem RelationTable.read_toDocument (relations : RelationTable) (room : Nat) :
    read room relations.val.toDocument =
      Json.fitting relations.val.toDocument.nesting room relations := by
  apply eq_of_map_val_eq
  rw [read, map_val_certify, RelationMap.read_toDocument relations.property, Json.map_fitting]

namespace RelationGraph

/-- A graph is read back as far as there is room for it. -/
theorem read_toDocument (graph : RelationGraph) (room : Nat) :
    read room graph.toDocument = Json.fitting graph.toDocument.nesting room graph :=
  Document.readKeyed_record_fitting graph fun inner _ _ relations _ =>
    relations.read_toDocument inner

theorem legible_toDocument (graph : RelationGraph) : graph.toDocument.Legible := by
  refine .record ?_
  intro entity document hmem
  obtain ⟨⟨_, relations⟩, -, heq⟩ := List.mem_map.mp hmem
  cases heq
  exact relations.property.legible_toDocument

/-- From the text of a graph, the graph is read back if the text has room for it. -/
theorem readText_toDocument (graph : RelationGraph) :
    Json.readText read graph.toDocument.compactText =
      Json.fitting graph.toDocument.nesting Json.nestingLimit graph := by
  rw [Json.readText_compactText read graph.legible_toDocument, read_toDocument]

/-- Below the graph itself there are two levels of nesting for each level of relations. -/
theorem two_mul_depth_lt_nesting (graph : RelationGraph) :
    2 * graph.depth < graph.toDocument.nesting := by
  by_cases hdepth : graph.depth = 0
  · rw [hdepth, toDocument, Document.record_eq, Document.nesting]
    exact Nat.succ_pos _
  · obtain ⟨entity, relations, hmem, hdeepest⟩ := exists_mapDepth_eq_depth hdepth
    rw [← hdeepest]
    calc
      2 * Relation.mapDepth relations.val ≤ relations.val.toDocument.nesting :=
        relations.property.two_mul_mapDepth_le_nesting
      _ < graph.toDocument.nesting :=
        Document.nesting_lt_of_mem (fun relations => relations.val.toDocument) hmem

end RelationGraph

/-! ## The graph of a schema -/

namespace Schema

/-- The relations of a model have no empty maps nested in them, so the document of a relation has
one level of nesting less than two for each level of relations. -/
theorem nesting_relationsWithin_le (schema : Schema) (levels : Nat) (entity : String) :
    (RelationMap.toDocument (schema.relationsWithin levels entity)).nesting ≤
      max 1 (2 * Relation.mapDepth (schema.relationsWithin levels entity)) := by
  induction levels generalizing entity with
  | zero => exact Nat.le_max_left 1 _
  | succ levels ih =>
      have hdepths := Relation.mapDepth_le_iff.mp
        (le_refl (Relation.mapDepth (schema.relationsWithin (levels + 1) entity)))
      obtain ⟨bound, hbound⟩ : ∃ bound,
          max 1 (2 * Relation.mapDepth (schema.relationsWithin (levels + 1) entity)) = bound + 1 :=
        Nat.exists_eq_succ_of_ne_zero (by omega)
      rw [RelationMap.toDocument_eq, hbound, Document.nesting_map_le_iff]
      refine ⟨bound, rfl, ?_⟩
      intro name relation hmem
      have hdepth := hdepths name relation hmem
      rw [relationsWithin_succ] at hmem
      obtain ⟨⟨_, bare⟩, -, heq⟩ := List.mem_map.mp hmem
      cases heq
      rw [Relation.depth_eq, Relation.nested_withNested] at hdepth
      rw [Relation.nesting_toDocument, Relation.nestedNesting_withNested]
      dsimp only at hdepth ⊢
      split
      · omega
      · next hsome =>
          have hpos := Relation.mapDepth_pos hsome
          have hnested := ih bare.target
          omega

/-- Sixty-three levels of relations fit into the text of a graph. -/
theorem nesting_relationGraph_le_iff (schema : Schema) (maxDepth : Nat) :
    (schema.relationGraph maxDepth).toDocument.nesting ≤ Json.nestingLimit ↔
      (schema.relationGraph maxDepth).depth ≤ 63 := by
  have hlimit : Json.nestingLimit = 127 := rfl
  constructor
  · intro hnesting
    have hdepth := (schema.relationGraph maxDepth).two_mul_depth_lt_nesting
    omega
  · intro hdepth
    refine (Document.nesting_map_le_iff fun (relations : RelationTable) =>
      relations.val.toDocument).mpr ⟨126, hlimit, ?_⟩
    intro entity relations hmem
    have hbelow := RelationGraph.depth_le_iff.mp hdepth entity relations hmem
    obtain ⟨⟨name, model⟩, -, heq⟩ := List.mem_map.mp hmem
    cases heq
    have hnesting := schema.nesting_relationsWithin_le (max 1 maxDepth) name
    simp only [relationTable] at hbelow ⊢
    omega

end Schema

/-! ## What a graph answers -/

namespace RelationGraph

/-- What is found at the end of a walk: the target, whether there are many records, whether `null`
may stand for one, and the names of the relations that lead on. -/
def walk? (graph : RelationGraph) (entity : String) (names : List String) :
    Option (String × Bool × Bool × List String) :=
  (graph.along? entity names).map fun relation =>
    (relation.target, relation.isMany, relation.isNullable, relation.nested.keys)

/-- The graph lists the same entities with the same relations, is as deep, and every walk through it
finds the same. -/
structure AnswersAs (graph other : RelationGraph) : Prop where
  entities : (graph.entries.map fun (entity, relations) => (entity, relations.val.keys)) =
    other.entries.map fun (entity, relations) => (entity, relations.val.keys)
  depth : graph.depth = other.depth
  walks : ∀ entity names, graph.walk? entity names = other.walk? entity names

theorem AnswersAs.refl (graph : RelationGraph) : graph.AnswersAs graph :=
  ⟨rfl, rfl, fun _ _ => rfl⟩

/-- A graph is read back from its document, and from the text of it, exactly if the arrays and
objects that are nested in the document fit into the room that there is; else the document is
malformed.  The graph of a schema that is at most sixty-three relations deep answers all questions
as before when it is read back from its text, and a deeper one is not read back. -/
theorem read_back_within_room (graph : RelationGraph) (schema : Schema) (maxDepth : Nat) :
    (∀ room, read room graph.toDocument =
      Json.fitting graph.toDocument.nesting room graph) ∧
      Json.readText read graph.toDocument.compactText =
        Json.fitting graph.toDocument.nesting Json.nestingLimit graph ∧
      ((schema.relationGraph maxDepth).depth ≤ 63 → ∃ again,
        Json.readText read (schema.relationGraph maxDepth).toDocument.compactText = .ok again ∧
          again.AnswersAs (schema.relationGraph maxDepth)) ∧
      (63 < (schema.relationGraph maxDepth).depth →
        Json.readText read (schema.relationGraph maxDepth).toDocument.compactText =
          .error (.fault .malformed)) := by
  have hextracted := (schema.relationGraph maxDepth).readText_toDocument
  have hfits := schema.nesting_relationGraph_le_iff maxDepth
  refine ⟨graph.read_toDocument, graph.readText_toDocument, ?shallow, ?deep⟩
  case shallow =>
    intro hdepth
    rw [hextracted, Json.fitting, if_pos (hfits.mpr hdepth)]
    exact ⟨_, rfl, .refl _⟩
  case deep =>
    intro hdepth
    rw [hextracted, Json.fitting, if_neg fun hnesting => Nat.not_lt.mpr (hfits.mp hnesting) hdepth]

/-- A nested map without relations is kept, and so is the mark of a relation to many records. -/
theorem read_back_within_room_blog :
    read 4 userPosts.toDocument = .ok userPosts ∧
      read 3 userPosts.toDocument = .error (.fault .malformed) ∧
      Json.readText read userPosts.toDocument.compactText = .ok userPosts ∧
      ∃ again, Json.readText read (Schema.blog.relationGraph 3).toDocument.compactText =
          .ok again ∧
        again.walk? "user" ["posts", "author"] = some ("user", false, true, ["posts"]) := by
  obtain ⟨hread, htext, hshallow, -⟩ := read_back_within_room userPosts .blog 3
  obtain ⟨again, hagain, hanswers⟩ := hshallow (by decide)
  exact ⟨hread 4, hread 3, htext, again, hagain, hanswers.walks "user" ["posts", "author"]⟩

/-- Comments with the replies to them. -/
def comments : Schema :=
  Schema.empty.withModel "comment"
    { fields := [("replies", { Field.relationTo "comment" with list := true })] }

/-- Sixty-four levels of replies are written and not read back. -/
theorem not_read_back_comments :
    (comments.relationGraph 64).depth = 64 ∧
      Json.readText read (comments.relationGraph 64).toDocument.compactText =
        .error (.fault .malformed) := by
  have hreplies : comments.FieldLeads "comment" "replies"
      { Field.relationTo "comment" with list := true } "comment" :=
    ⟨⟨_, rfl, by decide⟩, rfl, rfl, rfl⟩
  have hdepth : (comments.relationGraph 64).depth = 64 :=
    Schema.depth_relationGraph_of_round (.last hreplies) 64
  refine ⟨hdepth, ?_⟩
  rw [readText_toDocument, Json.fitting, if_neg]
  rw [Schema.nesting_relationGraph_le_iff, hdepth]
  decide

end RelationGraph

end QueryShape

import QueryShape.Proofs.Query.Demands

/-!
# Outlines

A specification and the relations of an entity make an outline: at each level the fields, and the
relations that are asked for and known, each with where it leads and with what is asked for there.
An outline does not show what is asked for beyond the known relations, nor what relations there are
beside those that are asked for, nor whether a relation is asked for whole or with an empty
specification.  Neither compiling nor reshaping sees more than the outline.
-/

namespace QueryShape

open Json (Value)

namespace Relation

/-- The relation without those of its target. -/
def bare (relation : Relation) : Relation :=
  relation.withNested []

@[simp]
theorem target_bare (relation : Relation) : relation.bare.target = relation.target :=
  relation.target_withNested []

@[simp]
theorem bare_withNested (relation : Relation) (nested : RelationMap) :
    (relation.withNested nested).bare = relation.bare := by
  cases relation
  cases nested <;> rfl

end Relation

/-- The value of a relation is reshaped without regard to the relations of its target. -/
theorem reshapeRelation_bare (reshapeItem : Value → Path → Run Value) (relation : Relation) :
    reshapeRelation reshapeItem relation.bare = reshapeRelation reshapeItem relation := by
  cases relation
  rfl

/-- What is seen of a specification along the relations of an entity. -/
inductive Outline where
  | mk (fields : Option (List String)) (relations : List (String × Relation × Outline))

namespace Spec

mutual

def outline : Spec → RelationMap → Outline
  | .mk fields requests, relations => .mk fields (outlineRequests requests relations)

def outlineRequests :
    List (String × Option Spec) → RelationMap → List (String × Relation × Outline)
  | [], _ => []
  | (name, request) :: rest, relations =>
      match relations.get? name with
      | none => outlineRequests rest relations
      | some relation =>
          let nested := match request with
            | none => .mk none []
            | some spec => spec.outline relation.nested
          (name, relation.bare, nested) :: outlineRequests rest relations

end

/-- How a demand shows in the outline. -/
def Demand.outlined (demand : Demand) : String × Relation × Outline :=
  (demand.name, demand.relation.bare, demand.spec.outline demand.relation.nested)

theorem outline_empty (relations : RelationMap) : empty.outline relations = .mk none [] := by
  rw [empty, outline, outlineRequests]

theorem outlineRequests_eq (requests : List (String × Option Spec)) (relations : RelationMap) :
    outlineRequests requests relations = (demands requests relations).map Demand.outlined := by
  induction requests with
  | nil => rw [outlineRequests]; rfl
  | cons first rest ih =>
      obtain ⟨name, request⟩ := first
      rw [outlineRequests]
      cases hrelation : relations.get? name with
      | none => rw [demands_unknown hrelation, ih]
      | some relation =>
          rw [demands_known hrelation, List.map_cons, ih, Demand.outlined]
          cases request with
          | none => rw [Option.getD_none, outline_empty]
          | some spec => rfl

theorem outline_mk (fields : Option (List String)) (requests : List (String × Option Spec))
    (relations : RelationMap) :
    (mk fields requests).outline relations =
      .mk fields ((demands requests relations).map Demand.outlined) := by
  rw [outline, outlineRequests_eq]

/-- What can be told of each item from what the items of two lists have in common is the same for
both lists. -/
theorem map_eq_map_of_map_eq_map {α β γ : Type} {seen : α → β} {told : α → γ}
    {left right : List α} (hseen : left.map seen = right.map seen)
    (htold : ∀ item ∈ left, ∀ other, seen item = seen other → told item = told other) :
    left.map told = right.map told := by
  induction left generalizing right with
  | nil =>
      obtain rfl : right = [] := List.map_eq_nil_iff.mp hseen.symm
      rfl
  | cons item left ih =>
      cases right with
      | nil => cases hseen
      | cons other right =>
          obtain ⟨hfirst, hrest⟩ := List.cons.inj hseen
          obtain ⟨htoldFirst, htoldRest⟩ := List.forall_mem_cons.mp htold
          rw [List.map_cons, List.map_cons, htoldFirst other hfirst, ih hrest htoldRest]

/-- Two levels with the same outline have the same fields, and whatever can be told of a demand from
its outline is the same for the demands of both. -/
theorem demands_of_outline_eq {γ : Type} (told : Demand → γ) {fields : Option (List String)}
    {requests : List (String × Option Spec)} {relations others : RelationMap} {right : Spec}
    (houtline : (mk fields requests).outline relations = right.outline others)
    (htold : ∀ demand ∈ demands requests relations, ∀ other : Demand,
      demand.name = other.name → demand.relation.bare = other.relation.bare →
        demand.spec.outline demand.relation.nested = other.spec.outline other.relation.nested →
          told demand = told other) :
    right.fields? = fields ∧
      (demands requests relations).map told = (demands right.relations others).map told := by
  obtain ⟨otherFields, otherRequests⟩ := right
  rw [outline_mk, outline_mk] at houtline
  obtain ⟨hfields, hdemands⟩ := Outline.mk.inj houtline
  refine ⟨hfields.symm, map_eq_map_of_map_eq_map hdemands ?_⟩
  intro demand hdemand other houtlined
  obtain ⟨hname, hrest⟩ := Prod.mk.inj houtlined
  obtain ⟨hrelation, hnested⟩ := Prod.mk.inj hrest
  exact htold demand hdemand other hname hrelation hnested

/-- Specifications with the same outline compile to the same selection. -/
theorem compile_eq_of_outline_eq {left right : Spec} {relations others : RelationMap}
    (houtline : left.outline relations = right.outline others) :
    left.compile relations = right.compile others := by
  induction left, relations using demandInduction generalizing right others with
  | mk fields requests relations ih =>
      obtain ⟨hfields, hentries⟩ := demands_of_outline_eq Demand.entry houtline
        fun demand hdemand other hname _ hnested => by
          rw [Demand.entry, Demand.entry, hname, ih demand hdemand hnested]
      obtain ⟨otherFields, otherRequests⟩ := right
      obtain rfl : otherFields = fields := hfields
      rw [compile, compile, compileRequests_eq, compileRequests_eq, hentries]
      rfl

/-- Specifications with the same outline reshape alike, calls and errors included. -/
theorem reshapeAt_eq_of_outline_eq {left right : Spec} {relations others : RelationMap}
    (houtline : left.outline relations = right.outline others) (validators : Validators)
    (entity : String) :
    left.reshapeAt validators relations entity = right.reshapeAt validators others entity := by
  induction left, relations using demandInduction generalizing right others entity with
  | mk fields requests relations ih =>
      obtain ⟨otherFields, otherRequests⟩ := right
      have hdemands := demands_of_outline_eq
        (fun demand entries path => Demand.reshape validators entries path demand) houtline
        fun demand hdemand other hname hrelation hnested => by
          have htarget : demand.relation.target = other.relation.target := by
            rw [← demand.relation.target_bare, hrelation, other.relation.target_bare]
          have hitem := ih demand hdemand hnested demand.relation.target
          funext entries path kept
          rw [Demand.reshape, Demand.reshape, hitem, ← reshapeRelation_bare, hrelation,
            reshapeRelation_bare, htarget, hname]
      obtain rfl : otherFields = fields := hdemands.1
      funext raw path
      rw [reshapeAt, reshapeAt, reshapeRequests_eq_of_demands validators hdemands.2]
      rfl

end Spec

end QueryShape

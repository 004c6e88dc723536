import QueryShape.Keyed

/-!
# Relation graphs

A relation leads from an entity to one record of its target or to many of them.  Each relation holds
the relations of its target one level deeper, so a graph is a finite tree: where the schema has a
cycle, the nesting stops at some depth and the innermost relations have none nested.  Graphs list no
entity twice, and no relation of an entity at any level.
-/

namespace QueryShape

inductive Cardinality where
  | one
  | many
deriving DecidableEq, Repr

/-- A relation of an entity.  `nullable` data is possible only for a relation to one record. -/
inductive Relation where
  | mk (target : String) (cardinality : Cardinality) (optional : Bool)
      (nested : Option (List (String × Relation)))

/-- The relations of an entity by name. -/
abbrev RelationMap := Keyed Relation

namespace Relation

def target : Relation → String
  | .mk target _ _ _ => target

def cardinality : Relation → Cardinality
  | .mk _ cardinality _ _ => cardinality

def optional : Relation → Bool
  | .mk _ _ optional _ => optional

def nested? : Relation → Option RelationMap
  | .mk _ _ _ nested => nested

/-- The relations of the target; there are none where the nesting stops. -/
def nested (relation : Relation) : RelationMap :=
  relation.nested?.getD []

/-- The relation with the given ones nested, and with none if there are none to nest. -/
def withNested : Relation → RelationMap → Relation
  | .mk target cardinality optional _, [] => .mk target cardinality optional none
  | .mk target cardinality optional _, nested => .mk target cardinality optional (some nested)

theorem target_withNested (relation : Relation) (nested : RelationMap) :
    (relation.withNested nested).target = relation.target := by
  cases relation
  cases nested <;> rfl

theorem nested_withNested (relation : Relation) (nested : RelationMap) :
    (relation.withNested nested).nested = nested := by
  cases relation
  cases nested <;> rfl

def isMany (relation : Relation) : Bool :=
  relation.cardinality = .many

/-- Whether `null` may stand for the record. -/
def isNullable (relation : Relation) : Bool :=
  relation.optional && relation.cardinality = .one

theorem isNullable_iff {relation : Relation} :
    relation.isNullable = true ↔ relation.optional = true ∧ relation.cardinality = .one := by
  rw [isNullable, Bool.and_eq_true, decide_eq_true_iff]

/-- Of the relations to one record, the optional ones are nullable. -/
theorem isNullable_of_one {relation : Relation} (hone : relation.cardinality = .one) :
    relation.isNullable = relation.optional :=
  Bool.eq_iff_iff.mpr (isNullable_iff.trans (and_iff_left hone))

mutual

/-- How many relations can be followed one after the other, this one first. -/
def depth : Relation → Nat
  | .mk _ _ _ none => 1
  | .mk _ _ _ (some nested) => 1 + mapDepth nested

def mapDepth : List (String × Relation) → Nat
  | [] => 0
  | (_, relation) :: rest => max relation.depth (mapDepth rest)

end

end Relation

namespace RelationMap

/-- At every level, no relation is listed twice. -/
inductive WellFormed : RelationMap → Prop
  | mk {relations : RelationMap} (distinct : relations.Distinct)
      (nested : ∀ name relation, (name, relation) ∈ relations → WellFormed relation.nested) :
      WellFormed relations

theorem wellFormed_nil : WellFormed [] :=
  .mk Keyed.distinct_nil nofun

variable {relations : RelationMap}

theorem WellFormed.distinct (hrelations : relations.WellFormed) : relations.Distinct := by
  cases hrelations
  assumption

theorem WellFormed.nested (hrelations : relations.WellFormed) {name : String}
    {relation : Relation} (hmem : (name, relation) ∈ relations) : relation.nested.WellFormed := by
  cases hrelations with
  | mk _ nested => exact nested name relation hmem

theorem WellFormed.cons (hrelations : relations.WellFormed) {name : String} {relation : Relation}
    (hname : name ∉ relations.keys) (hnested : relation.nested.WellFormed) :
    WellFormed ((name, relation) :: relations) := by
  refine .mk (Keyed.distinct_cons.mpr ⟨hname, hrelations.distinct⟩) ?_
  intro other found hmem
  rcases List.mem_cons.mp hmem with heq | hmem
  · cases heq
    exact hnested
  · exact hrelations.nested hmem

end RelationMap

/-- Relations that are listed once at every level. -/
abbrev RelationTable := { relations : RelationMap // relations.WellFormed }

/-- The relations of each entity. -/
abbrev RelationGraph := Dictionary RelationTable

namespace RelationGraph

/-- The deepest nesting of relations under any entity. -/
def depth (graph : RelationGraph) : Nat :=
  (graph.entries.map fun (_, relations) => Relation.mapDepth relations.val).foldl max 0

end RelationGraph

end QueryShape

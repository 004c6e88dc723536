import QueryShape.Proofs.Query.Outline

/-!
# Specifications without unknown relations

A specification can be relieved of what has no effect: relations that the entity does not have, at
every level, and nested specifications that ask for nothing in particular once these are gone.  The
result is a normal form with the outline of the specification, so it compiles to the same selection
and reshapes in the same way, on data that is refused as well.
-/

namespace QueryShape

open Json (Value)

namespace Spec

/-- What is asked for of a relation: one that nothing in particular is asked of is asked for
whole. -/
def asRequest (spec : Spec) : Option Spec :=
  if spec.isEmpty then none else some spec

mutual

/-- The specification without unknown relations. -/
def normalized : Spec → RelationMap → Spec
  | .mk fields requests, relations => .mk fields (normalizedRequests requests relations)

def normalizedRequests :
    List (String × Option Spec) → RelationMap → List (String × Option Spec)
  | [], _ => []
  | (name, request) :: rest, relations =>
      match relations.get? name with
      | none => normalizedRequests rest relations
      | some relation =>
          let nested := match request with
            | none => none
            | some spec => (spec.normalized relation.nested).asRequest
          (name, nested) :: normalizedRequests rest relations

end

/-- Only known relations are asked for, and none of them with an empty specification. -/
inductive Normal : Spec → RelationMap → Prop
  | mk {fields : Option (List String)} {requests : List (String × Option Spec)}
      {relations : RelationMap}
      (known : ∀ name request, (name, request) ∈ requests → (relations.get? name).isSome)
      (filled : ∀ name spec, (name, some spec) ∈ requests → spec.isEmpty = false)
      (nested : ∀ name spec relation, (name, some spec) ∈ requests →
        relations.get? name = some relation → spec.Normal relation.nested) :
      Normal (.mk fields requests) relations

theorem eq_empty_of_isEmpty {spec : Spec} (hempty : spec.isEmpty = true) : spec = .empty := by
  obtain ⟨fields, requests⟩ := spec
  rw [isEmpty, Bool.and_eq_true, Option.isNone_iff_eq_none, List.isEmpty_iff] at hempty
  obtain ⟨rfl, rfl⟩ : fields = none ∧ requests = [] := hempty
  rfl

theorem getD_asRequest (spec : Spec) : spec.asRequest.getD .empty = spec := by
  unfold asRequest
  split
  · next hempty => exact (eq_empty_of_isEmpty hempty).symm
  · rfl

theorem asRequest_eq_some_iff {spec nested : Spec} :
    spec.asRequest = some nested ↔ spec.isEmpty = false ∧ spec = nested := by
  rw [asRequest, Option.ite_none_left_eq_some, Bool.not_eq_true, Option.some.injEq]

theorem normalized_empty (relations : RelationMap) : empty.normalized relations = .empty := by
  rw [empty, normalized, normalizedRequests]

/-- What is left of a demand. -/
def Demand.normalized (demand : Demand) : Demand :=
  { demand with spec := demand.spec.normalized demand.relation.nested }

theorem normalizedRequests_known {name : String} {request : Option Spec}
    {rest : List (String × Option Spec)} {relations : RelationMap} {relation : Relation}
    (hrelation : relations.get? name = some relation) :
    normalizedRequests ((name, request) :: rest) relations =
      (name, request.bind fun spec => (spec.normalized relation.nested).asRequest) ::
        normalizedRequests rest relations := by
  rw [normalizedRequests]
  simp only [hrelation]
  cases request <;> rfl

theorem normalizedRequests_unknown {name : String} {request : Option Spec}
    {rest : List (String × Option Spec)} {relations : RelationMap}
    (hrelation : relations.get? name = none) :
    normalizedRequests ((name, request) :: rest) relations = normalizedRequests rest relations := by
  rw [normalizedRequests]
  simp only [hrelation]

theorem normalizedRequests_eq (requests : List (String × Option Spec)) (relations : RelationMap) :
    normalizedRequests requests relations =
      (demands requests relations).map fun demand =>
        (demand.name, demand.normalized.spec.asRequest) := by
  induction requests with
  | nil => rw [normalizedRequests]; rfl
  | cons first rest ih =>
      obtain ⟨name, request⟩ := first
      cases hrelation : relations.get? name with
      | none => rw [normalizedRequests_unknown hrelation, demands_unknown hrelation, ih]
      | some relation =>
          rw [normalizedRequests_known hrelation, demands_known hrelation, List.map_cons, ih,
            Demand.normalized]
          cases request with
          | none => rw [Option.getD_none, normalized_empty]; rfl
          | some spec => rfl

/-- Every demand is still made, each in its own normal form. -/
theorem demands_normalizedRequests (requests : List (String × Option Spec))
    (relations : RelationMap) :
    demands (normalizedRequests requests relations) relations =
      (demands requests relations).map Demand.normalized := by
  simp only [normalizedRequests_eq, demands_map_demands, getD_asRequest]
  rfl

theorem outline_normalized (spec : Spec) (relations : RelationMap) :
    (spec.normalized relations).outline relations = spec.outline relations := by
  induction spec, relations using demandInduction with
  | mk fields requests relations ih =>
      have houtlined : ∀ demand ∈ demands requests relations,
          demand.normalized.outlined = demand.outlined := by
        intro demand hdemand
        rw [Demand.outlined, Demand.outlined, ← ih demand hdemand]
        rfl
      rw [normalized, outline_mk, outline_mk, demands_normalizedRequests, List.map_map]
      exact congrArg _ (List.map_congr_left houtlined)

theorem normal_normalized (spec : Spec) (relations : RelationMap) :
    (spec.normalized relations).Normal relations := by
  induction spec, relations using demandInduction with
  | mk fields requests relations ih =>
      rw [normalized, normalizedRequests_eq]
      refine .mk ?known ?filled ?nested
      case known =>
        intro name request hmem
        obtain ⟨demand, hdemand, heq⟩ := List.mem_map.mp hmem
        cases heq
        rw [(mem_demands.mp hdemand).2]
        rfl
      case filled =>
        intro name nested hmem
        obtain ⟨demand, hdemand, heq⟩ := List.mem_map.mp hmem
        obtain ⟨hempty, rfl⟩ := asRequest_eq_some_iff.mp (Prod.mk.inj heq).2
        exact hempty
      case nested =>
        intro name nested relation hmem hrelation
        obtain ⟨demand, hdemand, heq⟩ := List.mem_map.mp hmem
        obtain ⟨rfl, hrequest⟩ := Prod.mk.inj heq
        obtain ⟨-, rfl⟩ := asRequest_eq_some_iff.mp hrequest
        obtain rfl : demand.relation = relation :=
          Option.some.inj ((mem_demands.mp hdemand).2.symm.trans hrelation)
        exact ih demand hdemand

theorem normalizedRequests_eq_self {requests : List (String × Option Spec)}
    {relations : RelationMap}
    (hnormal : ∀ name request, (name, request) ∈ requests → ∃ relation,
      relations.get? name = some relation ∧
        (request.bind fun spec => (spec.normalized relation.nested).asRequest) = request) :
    normalizedRequests requests relations = requests := by
  induction requests with
  | nil => rw [normalizedRequests]
  | cons first rest ih =>
      obtain ⟨name, request⟩ := first
      obtain ⟨relation, hrelation, hrequest⟩ := hnormal name request List.mem_cons_self
      rw [normalizedRequests_known hrelation, hrequest, ih]
      intro other again hmem
      exact hnormal other again (List.mem_cons_of_mem _ hmem)

/-- A normal form is left as it is. -/
theorem Normal.normalized_eq {spec : Spec} {relations : RelationMap}
    (hnormal : spec.Normal relations) : spec.normalized relations = spec := by
  induction hnormal with
  | mk known filled nested ih =>
      rw [normalized, normalizedRequests_eq_self]
      intro name request hmem
      obtain ⟨relation, hrelation⟩ := Option.isSome_iff_exists.mp (known name request hmem)
      refine ⟨relation, hrelation, ?_⟩
      cases request with
      | none => rfl
      | some spec =>
          rw [Option.bind_some, ih name spec relation hmem hrelation]
          exact asRequest_eq_some_iff.mpr ⟨filled name spec hmem, rfl⟩

/-- Without its unknown relations, a specification compiles to the same selection and reshapes every
value with the same calls and to the same result or error; and there is nothing more to remove. -/
theorem normalized_alike (spec : Spec) (relations : RelationMap) :
    (spec.normalized relations).Normal relations ∧
      (spec.normalized relations).compile relations = spec.compile relations ∧
      (∀ (validators : Validators) (entity : String) (raw : Value),
        (spec.normalized relations).reshape relations validators entity raw =
          spec.reshape relations validators entity raw) ∧
      (spec.normalized relations).normalized relations = spec.normalized relations := by
  have hnormal := normal_normalized spec relations
  have houtline := outline_normalized spec relations
  refine ⟨hnormal, compile_eq_of_outline_eq houtline, ?_, hnormal.normalized_eq⟩
  intro validators entity raw
  rw [reshape, reshapeAt_eq_of_outline_eq houtline validators entity, reshape]

end Spec

end QueryShape

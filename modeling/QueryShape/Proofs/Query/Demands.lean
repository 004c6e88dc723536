import QueryShape.Proofs.Query.Compile
import QueryShape.Proofs.Query.Reshape

/-!
# Demands

Of the relations that are asked for at a level, only those matter that the entity has.  Each is a
demand: a name, a relation, and what is asked for of its records.  Compiling lists an entry for each
demand, and reshaping an object meets the demands one after the other, so both can be understood
without regard to how unknown relations are passed over.
-/

namespace QueryShape

open Json (Value)

namespace Spec

/-- A relation that is asked for and known, with what is asked for of its records. -/
structure Demand where
  name : String
  spec : Spec
  relation : Relation

/-- The relations of a level that are asked for and known, in the order of the requests. -/
def demands (requests : List (String × Option Spec)) (relations : RelationMap) : List Demand :=
  requests.filterMap fun entry =>
    (relations.get? entry.1).map fun relation => ⟨entry.1, entry.2.getD .empty, relation⟩

variable {requests : List (String × Option Spec)} {relations : RelationMap}

theorem demands_known {name : String} {request : Option Spec} {relation : Relation}
    (hrelation : relations.get? name = some relation) :
    demands ((name, request) :: requests) relations =
      ⟨name, request.getD .empty, relation⟩ :: demands requests relations := by
  simp [demands, hrelation]

theorem demands_unknown {name : String} {request : Option Spec}
    (hrelation : relations.get? name = none) :
    demands ((name, request) :: requests) relations = demands requests relations := by
  simp [demands, hrelation]

theorem demands_append (first second : List (String × Option Spec)) (relations : RelationMap) :
    demands (first ++ second) relations = demands first relations ++ demands second relations :=
  List.filterMap_append

theorem map_demands {α : Type} (convert : Demand → α) (requests : List (String × Option Spec))
    (relations : RelationMap) :
    (demands requests relations).map convert =
      requests.filterMap fun entry =>
        (relations.get? entry.1).map fun relation =>
          convert ⟨entry.1, entry.2.getD .empty, relation⟩ := by
  simp only [demands, List.map_filterMap, Option.map_map, Function.comp_def]

theorem mem_demands {demand : Demand} :
    demand ∈ demands requests relations ↔
      (∃ request, (demand.name, request) ∈ requests ∧ request.getD .empty = demand.spec) ∧
        relations.get? demand.name = some demand.relation := by
  obtain ⟨name, spec, relation⟩ := demand
  rw [demands, List.mem_filterMap]
  constructor
  · rintro ⟨⟨asked, request⟩, hmem, hdemand⟩
    obtain ⟨found, hfound, heq⟩ := Option.map_eq_some_iff.mp hdemand
    cases heq
    exact ⟨⟨request, hmem, rfl⟩, hfound⟩
  · rintro ⟨⟨request, hmem, rfl⟩, hfound⟩
    exact ⟨(name, request), hmem, Option.map_eq_some_iff.mpr ⟨relation, hfound, rfl⟩⟩

/-- Requests that are made from the demands of a level make the same demands, with other
specifications. -/
theorem demands_map_demands (convert : Demand → Option Spec)
    (requests : List (String × Option Spec)) (relations : RelationMap) :
    demands ((demands requests relations).map fun demand => (demand.name, convert demand))
        relations =
      (demands requests relations).map fun demand =>
        { demand with spec := (convert demand).getD .empty } := by
  rw [demands, List.filterMap_map, ← List.filterMap_eq_map]
  apply List.filterMap_congr
  intro demand hdemand
  obtain ⟨-, hrelation⟩ := mem_demands.mp hdemand
  simp only [Function.comp_apply, hrelation, Option.map_some]

/-- If no relation is asked for twice, a demand is known by its name. -/
theorem eq_of_mem_demands {requests : Keyed (Option Spec)} (hrequests : requests.Distinct)
    {first second : Demand} (hfirst : first ∈ demands requests relations)
    (hsecond : second ∈ demands requests relations) (hname : first.name = second.name) :
    first = second := by
  obtain ⟨name, spec, relation⟩ := first
  obtain ⟨other, again, target⟩ := second
  obtain ⟨⟨request, hmem, rfl⟩, hrelation⟩ := mem_demands.mp hfirst
  obtain ⟨⟨asked, hasked, rfl⟩, htarget⟩ := mem_demands.mp hsecond
  obtain rfl : name = other := hname
  obtain ⟨-, rfl⟩ := Prod.mk.inj (hrequests.eq_of_mem hmem hasked rfl)
  obtain rfl : relation = target := Option.some.inj (hrelation.symm.trans htarget)
  rfl

/-- To prove something of a specification and the relations of an entity, prove it from the demands
of its first level. -/
@[elab_as_elim]
theorem demandInduction {motive : Spec → RelationMap → Prop}
    (mk : ∀ fields requests relations,
      (∀ demand ∈ demands requests relations, motive demand.spec demand.relation.nested) →
        motive (.mk fields requests) relations) (spec : Spec) (relations : RelationMap) :
    motive spec relations := by
  induction spec using Spec.induction generalizing relations with
  | mk fields requests ih =>
      apply mk
      intro demand hdemand
      obtain ⟨⟨request, hmem, hspec⟩, -⟩ := mem_demands.mp hdemand
      rw [← hspec]
      exact ih demand.name request hmem demand.relation.nested

/-! ## Compiling -/

/-- What is fetched for a demand. -/
def Demand.entry (demand : Demand) : String × Option Selection :=
  (demand.name, (demand.spec.compile demand.relation.nested).asEntry)

theorem compileRequests_eq (requests : List (String × Option Spec)) (relations : RelationMap) :
    compileRequests requests relations = (demands requests relations).map Demand.entry := by
  induction requests with
  | nil => rw [compileRequests]; rfl
  | cons first rest ih =>
      obtain ⟨name, request⟩ := first
      cases hrelation : relations.get? name with
      | none => rw [compileRequests_unknown hrelation, demands_unknown hrelation, ih]
      | some relation =>
          rw [compileRequests_known hrelation, demands_known hrelation, List.map_cons, ih]
          rfl

theorem compileRequests_append (first second : List (String × Option Spec))
    (relations : RelationMap) :
    compileRequests (first ++ second) relations =
      compileRequests first relations ++ compileRequests second relations := by
  simp only [compileRequests_eq, demands_append, List.map_append]

theorem compileRequests_eq_restrict (requests : Keyed (Option Spec)) (relations : RelationMap) :
    compileRequests requests relations =
      requests.restrict fun name request => (relations.get? name).map fun relation =>
        ((request.getD .empty).compile relation.nested).asEntry := by
  simp only [compileRequests_eq, map_demands, Keyed.restrict, Option.map_map]
  rfl

/-! ## Reshaping -/

section Reshaping

variable (validators : Validators)

/-- Puts the value of a relation that the object has back in its place, once it is reshaped. -/
def Demand.reshape (entries : Keyed Value) (path : Path) (demand : Demand) (kept : Keyed Value) :
    Run (Keyed Value) :=
  match entries.get? demand.name with
  | none => return kept
  | some raw =>
      kept.insertSorted demand.name <$>
        reshapeRelation
          (demand.spec.reshapeAt validators demand.relation.nested demand.relation.target)
          demand.relation raw (path.child (.field demand.name))

theorem Demand.reshape_absent {demand : Demand} {entries : Keyed Value}
    (hraw : entries.get? demand.name = none) (path : Path) (kept : Keyed Value) :
    demand.reshape validators entries path kept = pure kept := by
  simp only [Demand.reshape, hraw]

theorem Demand.reshape_present {demand : Demand} {entries : Keyed Value} {raw : Value}
    (hraw : entries.get? demand.name = some raw) (path : Path) (kept : Keyed Value) :
    demand.reshape validators entries path kept =
      kept.insertSorted demand.name <$>
        reshapeRelation
          (demand.spec.reshapeAt validators demand.relation.nested demand.relation.target)
          demand.relation raw (path.child (.field demand.name)) := by
  simp only [Demand.reshape, hraw]

/-- The demands of a level are met one after the other. -/
theorem reshapeRequests_eq (requests : List (String × Option Spec)) (relations : RelationMap)
    (entries : Keyed Value) (path : Path) (kept : Keyed Value) :
    reshapeRequests validators requests relations entries path kept =
      (demands requests relations).foldlM
        (fun kept demand => demand.reshape validators entries path kept) kept := by
  induction requests generalizing kept with
  | nil => rw [reshapeRequests]; rfl
  | cons first rest ih =>
      obtain ⟨name, request⟩ := first
      cases hrelation : relations.get? name with
      | none =>
          rw [reshapeRequests_skipped validators (Or.inr hrelation), demands_unknown hrelation, ih]
      | some relation =>
          rw [demands_known hrelation, List.foldlM_cons]
          cases hraw : entries.get? name with
          | none =>
              rw [reshapeRequests_skipped validators (Or.inl hraw), ih,
                Demand.reshape_absent validators hraw, pure_bind]
          | some raw =>
              rw [reshapeRequests_followed validators hraw hrelation,
                Demand.reshape_present validators hraw, bind_map_left]
              congr 1
              funext value
              exact ih _

/-- Requests are followed alike if their demands are met alike. -/
theorem reshapeRequests_eq_of_demands {requests others : List (String × Option Spec)}
    {relations elsewhere : RelationMap}
    (hdemands : (demands requests relations).map
        (fun demand entries path => Demand.reshape validators entries path demand) =
      (demands others elsewhere).map
        (fun demand entries path => Demand.reshape validators entries path demand)) :
    reshapeRequests validators requests relations =
      reshapeRequests validators others elsewhere := by
  funext entries path kept
  have hfold := congrArg (List.foldlM (fun kept reshape => reshape entries path kept) kept) hdemands
  rw [List.foldlM_map, List.foldlM_map] at hfold
  rw [reshapeRequests_eq, reshapeRequests_eq]
  exact hfold

theorem reshapeRequests_append (first second : List (String × Option Spec))
    (relations : RelationMap) (entries : Keyed Value) (path : Path) (kept : Keyed Value) :
    reshapeRequests validators (first ++ second) relations entries path kept =
      (reshapeRequests validators first relations entries path kept >>= fun kept =>
        reshapeRequests validators second relations entries path kept) := by
  simp only [reshapeRequests_eq, demands_append, List.foldlM_append]

end Reshaping

end Spec

end QueryShape

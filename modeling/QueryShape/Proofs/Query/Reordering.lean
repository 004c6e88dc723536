import QueryShape.Proofs.Query.Outline
import QueryShape.Proofs.Query.SelectionOrder
import QueryShape.Relation.Graph

/-!
# The order of declarations

Relations and fields may be declared in any order.  Specifications that differ only in the order of
their fields and requests, at whatever level, give the same result of reshaping: a relation reads
only the raw object and writes only under its own name, so the relations of an object can be
reshaped in any order.  Which failure comes first may be another one, but not whether there is one.
The order of the relations of an entity is never seen at all.
-/

namespace QueryShape

open Json (Value)

/-! ## Relations -/

namespace RelationMap

/-- The same relations, listed in another order at any number of levels. -/
inductive Reordered : RelationMap → RelationMap → Prop
  | entries {relations others : RelationMap} (perm : relations.Perm others) :
      Reordered relations others
  | nested (before after : RelationMap) (name target : String) (cardinality : Cardinality)
      (optional : Bool) {relations others : RelationMap} (inside : Reordered relations others) :
      Reordered (before ++ (name, .mk target cardinality optional (some relations)) :: after)
        (before ++ (name, .mk target cardinality optional (some others)) :: after)
  | trans {relations between others : RelationMap} (first : Reordered relations between)
      (second : Reordered between others) : Reordered relations others

theorem Reordered.wellFormed {relations others : RelationMap}
    (hreordered : relations.Reordered others) (hrelations : relations.WellFormed) :
    others.WellFormed := by
  induction hreordered with
  | entries perm =>
      refine .mk (hrelations.distinct.perm perm) ?_
      intro name relation hmem
      exact hrelations.nested (perm.mem_iff.mpr hmem)
  | nested before after name target cardinality optional inside ih =>
      have hinside := hrelations.nested (List.mem_append_right _ List.mem_cons_self)
      refine .mk (hrelations.distinct.replace _) ?_
      apply Keyed.forall_mem_replace (fun _ _ hmem => hrelations.nested hmem)
      exact ih hinside
  | trans _ _ ihFirst ihSecond => exact ihSecond (ihFirst hrelations)

end RelationMap

namespace Spec

/-- The order of relations does not show in the outline of a specification. -/
theorem outline_eq_of_reordered {relations others : RelationMap}
    (hreordered : relations.Reordered others) (hrelations : relations.WellFormed) (spec : Spec) :
    spec.outline relations = spec.outline others := by
  induction hreordered generalizing spec with
  | entries perm =>
      obtain ⟨fields, requests⟩ := spec
      have hget := Keyed.get?_eq_of_perm perm hrelations.distinct
      simp only [outline_mk, demands, hget]
  | nested before after name target cardinality optional inside ih =>
      obtain ⟨fields, requests⟩ := spec
      have hinside := ih (hrelations.nested (List.mem_append_right _ List.mem_cons_self))
      rw [outline_mk, outline_mk, map_demands, map_demands]
      congr 1
      apply List.filterMap_congr
      intro entry _
      apply Keyed.map_get?_replace
      have hnested := hinside (entry.2.getD .empty)
      exact congrArg (fun outline =>
        (entry.1, Relation.mk target cardinality optional none, outline)) hnested
  | trans first _ ihFirst ihSecond =>
      rw [ihFirst hrelations, ihSecond (first.wellFormed hrelations)]

/-! ## Specifications -/

/-- The same fields and requests, in another order at any number of levels. -/
inductive Reordered : Spec → Spec → Prop
  | fields {names others : List String} (requests : List (String × Option Spec))
      (perm : names.Perm others) :
      Reordered (.mk (some names) requests) (.mk (some others) requests)
  | requests (fields : Option (List String)) {requests others : List (String × Option Spec)}
      (perm : requests.Perm others) : Reordered (.mk fields requests) (.mk fields others)
  | nested (fields : Option (List String)) (before after : List (String × Option Spec))
      (name : String) {left right : Spec} (inside : Reordered left right) :
      Reordered (.mk fields (before ++ (name, some left) :: after))
        (.mk fields (before ++ (name, some right) :: after))
  | trans {left between right : Spec} (first : Reordered left between)
      (second : Reordered between right) : Reordered left right

theorem Reordered.wellFormed {left right : Spec} (hreordered : left.Reordered right)
    (hleft : left.WellFormed) : right.WellFormed := by
  induction hreordered with
  | fields requests perm =>
      cases hleft with
      | mk names distinct nested =>
          refine .mk ?_ distinct nested
          rintro _ ⟨⟩
          exact perm.nodup_iff.mp (names _ rfl)
  | requests fields perm =>
      cases hleft with
      | mk names distinct nested =>
          refine .mk names (distinct.perm perm) ?_
          intro name spec hmem
          exact nested name spec (perm.mem_iff.mpr hmem)
  | @nested fields before after name left right inside ih =>
      cases hleft with
      | mk names distinct nested =>
          refine .mk names (distinct.replace _) ?_
          exact Keyed.forall_mem_replace_some nested ih
  | trans _ _ ihFirst ihSecond => exact ihSecond (ihFirst hleft)

end Spec

/-! ## Results of reshaping -/

/-- A loop over items that can change places gives the same result in every order. -/
theorem foldlM_eq_of_perm {α β : Type} {step : β → α → Option β} {left right : List α}
    (hperm : left.Perm right)
    (hcomm : ∀ first ∈ left, ∀ second ∈ left, ∀ value,
      ((step value first).bind fun next => step next second) =
        (step value second).bind fun next => step next first) (value : β) :
    left.foldlM step value = right.foldlM step value := by
  induction hperm generalizing value with
  | nil => rfl
  | cons item _ ih =>
      rw [List.foldlM_cons, List.foldlM_cons]
      congr 1
      funext next
      apply ih
      intro first hfirst second hsecond
      exact hcomm first (List.mem_cons_of_mem _ hfirst) second (List.mem_cons_of_mem _ hsecond)
  | swap first second rest =>
      have hswap := hcomm second List.mem_cons_self first
        (List.mem_cons_of_mem _ List.mem_cons_self) value
      simp only [List.foldlM_cons, Option.bind_eq_bind, ← Option.bind_assoc, hswap]
  | trans first _ ihFirst ihSecond =>
      rw [ihFirst hcomm, ihSecond]
      intro item hitem other hother
      exact hcomm item (first.mem_iff.mpr hitem) other (first.mem_iff.mpr hother)

section Items

variable {reshapeItem reshapeOther : Value → Path → Run Value}
  (hitem : ∀ raw path, (reshapeItem raw path).value? = (reshapeOther raw path).value?)
include hitem

theorem value?_reshapeEach_congr (path : Path) (position : Nat) (items : List Value) :
    (reshapeEach reshapeItem path position items).value? =
      (reshapeEach reshapeOther path position items).value? := by
  induction items generalizing position with
  | nil => rfl
  | cons item rest ih => simp only [reshapeEach, Run.value?_bind, Run.value?_map, hitem, ih]

theorem value?_reshapeRelation_congr (relation : Relation) (raw : Value) (path : Path) :
    (reshapeRelation reshapeItem relation raw path).value? =
      (reshapeRelation reshapeOther relation raw path).value? := by
  unfold reshapeRelation
  cases relation.cardinality with
  | many =>
      cases raw with
      | array items =>
          have heach := value?_reshapeEach_congr hitem path 0 items
          simp only [Run.value?_map, heach]
      | _ => rfl
  | one =>
      cases raw with
      | null => rfl
      | _ => exact hitem _ path

end Items

namespace Spec

section Reshaping

variable (validators : Validators)

/-- Demands for different relations can be met in either order. -/
theorem Demand.value?_reshape_comm {first second : Demand} (hname : first.name ≠ second.name)
    (entries : Keyed Value) (path : Path) (kept : Keyed Value) :
    ((first.reshape validators entries path kept).value?.bind fun next =>
        (second.reshape validators entries path next).value?) =
      (second.reshape validators entries path kept).value?.bind fun next =>
        (first.reshape validators entries path next).value? := by
  cases hfirst : entries.get? first.name with
  | none => simp only [reshape_absent validators hfirst, Run.value?_pure, Option.bind_some,
      Option.bind_fun_some]
  | some raw =>
      cases hsecond : entries.get? second.name with
      | none => simp only [reshape_absent validators hsecond, Run.value?_pure, Option.bind_some,
          Option.bind_fun_some]
      | some other =>
          simp only [reshape_present validators hfirst, reshape_present validators hsecond,
            Run.value?_map]
          generalize (reshapeRelation _ first.relation raw _).value? = value?
          generalize (reshapeRelation _ second.relation other _).value? = again?
          -- Neither value depends on what is bound already.
          cases value? <;> cases again? <;> simp [Keyed.insertSorted_comm hname]

/-- The relations of an object can be reshaped in any order. -/
theorem value?_reshapeRequests_perm {requests others : Keyed (Option Spec)}
    (hperm : requests.Perm others) (hrequests : requests.Distinct) (relations : RelationMap)
    (entries : Keyed Value) (path : Path) (kept : Keyed Value) :
    (reshapeRequests validators requests relations entries path kept).value? =
      (reshapeRequests validators others relations entries path kept).value? := by
  rw [reshapeRequests_eq, reshapeRequests_eq, Run.value?_foldlM, Run.value?_foldlM]
  apply foldlM_eq_of_perm (hperm.filterMap _)
  intro first hfirst second hsecond kept
  -- Two demands for one relation are the same demand, so there is nothing to exchange.
  by_cases hname : first.name = second.name
  · rw [eq_of_mem_demands hrequests hfirst hsecond hname]
  · exact Demand.value?_reshape_comm validators hname entries path kept

theorem value?_reshapeRecord_congr {fields others : Option (List String)}
    (hfields : fields.isSome = others.isSome)
    {reshapeRequested reshapeOther : Keyed Value → Path → Keyed Value → Run (Keyed Value)}
    (hrequested : ∀ entries path kept,
      (reshapeRequested entries path kept).value? = (reshapeOther entries path kept).value?)
    (entity : String) (raw : Value) (path : Path) :
    (reshapeRecord validators fields entity reshapeRequested raw path).value? =
      (reshapeRecord validators others entity reshapeOther raw path).value? := by
  cases raw with
  | object entries =>
      simp only [reshapeRecord_object, Run.value?_bind, Run.value?_map, hrequested, hfields]
  | _ => rfl

/-- Specifications in another order give the same result. -/
theorem Reordered.value?_reshapeAt {left right : Spec} (hreordered : left.Reordered right)
    (hleft : left.WellFormed) (relations : RelationMap) (entity : String) (raw : Value)
    (path : Path) :
    (left.reshapeAt validators relations entity raw path).value? =
      (right.reshapeAt validators relations entity raw path).value? := by
  induction hreordered generalizing relations entity raw path with
  | fields requests perm =>
      rw [reshapeAt, reshapeAt]
      apply value?_reshapeRecord_congr validators rfl
      intro entries path kept
      rfl
  | requests fields perm =>
      rw [reshapeAt, reshapeAt]
      apply value?_reshapeRecord_congr validators rfl
      exact value?_reshapeRequests_perm validators perm hleft.distinct relations
  | @nested fields before after name left right inside ih =>
      have hinside := ih (hleft.mem_relations (List.mem_append_right _ List.mem_cons_self))
      rw [reshapeAt, reshapeAt]
      apply value?_reshapeRecord_congr validators rfl
      intro entries path kept
      rw [reshapeRequests_append, reshapeRequests_append, Run.value?_bind, Run.value?_bind]
      -- What comes before the changed request is the same on both sides.
      congr 1
      funext kept
      cases hrelation : relations.get? name with
      | none =>
          rw [reshapeRequests_skipped validators (Or.inr hrelation),
            reshapeRequests_skipped validators (Or.inr hrelation)]
      | some relation =>
          cases hraw : entries.get? name with
          | none =>
              rw [reshapeRequests_skipped validators (Or.inl hraw),
                reshapeRequests_skipped validators (Or.inl hraw)]
          | some value =>
              have hvalue := value?_reshapeRelation_congr (hinside relation.nested relation.target)
                relation value (path.child (.field name))
              rw [reshapeRequests_followed validators hraw hrelation,
                reshapeRequests_followed validators hraw hrelation, Run.value?_bind,
                Run.value?_bind, Option.getD_some, Option.getD_some, hvalue]
  | trans first _ ihFirst ihSecond =>
      rw [ihFirst hleft, ihSecond (first.wellFormed hleft)]

end Reshaping

/-! ## Selections -/

/-- Specifications in another order compile to the same selection in another order. -/
theorem Reordered.compile {left right : Spec} (hreordered : left.Reordered right)
    (relations : RelationMap) :
    (left.compile relations).Reordered (right.compile relations) := by
  induction hreordered generalizing relations with
  | @fields names others requests perm =>
      have hbeside : (compileRequests requests relations).filter (·.1 ∉ names) =
          (compileRequests requests relations).filter (·.1 ∉ others) := by
        simp only [perm.mem_iff]
      rw [compile_mk, compile_mk, Option.getD_some, Option.getD_some, hbeside]
      exact .entries .selecting ((perm.map _).append_right _)
  | requests fields perm =>
      have hasked := perm.filterMap fun entry => (relations.get? entry.1).map fun relation =>
        Demand.entry ⟨entry.1, entry.2.getD .empty, relation⟩
      rw [← map_demands, ← map_demands, ← compileRequests_eq, ← compileRequests_eq] at hasked
      rw [compile_mk, compile_mk]
      exact .entries _ ((hasked.filter _).append_left _)
  | @nested fields before after name left right inside ih =>
      rw [compile_mk, compile_mk, compileRequests_append, compileRequests_append]
      cases hrelation : relations.get? name with
      | none =>
          rw [compileRequests_unknown hrelation, compileRequests_unknown hrelation]
          exact .refl _
      | some relation =>
          rw [compileRequests_known hrelation, compileRequests_known hrelation,
            List.filter_append, List.filter_append]
          -- A field of the same name hides the entry that differs.
          by_cases hfield : name ∈ fields.getD []
          · rw [List.filter_cons_of_neg (by simpa using hfield),
              List.filter_cons_of_neg (by simpa using hfield)]
            exact .refl _
          · rw [List.filter_cons_of_pos (by simpa using hfield),
              List.filter_cons_of_pos (by simpa using hfield), ← List.append_assoc,
              ← List.append_assoc]
            exact (ih relation.nested).asEntry _ _ _ _
  | trans _ _ ihFirst ihSecond => exact (ihFirst relations).trans (ihSecond relations)

/-- The order of fields, requests and relations does not show in the data: reshaping a value has a
result with either order or with none, and the same result; and the selections of both orders are
the same but for the order of their entries, so they are the same JSON value. -/
theorem reordered_alike {left : WellFormedSpec} {right : Spec} {relations : RelationTable}
    {others : RelationMap} (hspecs : left.val.Reordered right)
    (hmaps : relations.val.Reordered others) :
    (∀ (validators : Validators) (entity : String) (raw value : Value),
      (left.val.reshape relations validators entity raw).outcome = .ok value ↔
        (right.reshape others validators entity raw).outcome = .ok value) ∧
    (left.val.compile relations).Reordered (right.compile others) ∧
    (left.val.compile relations).toValue = (right.compile others).toValue := by
  have houtline := outline_eq_of_reordered hmaps relations.property right
  have hselections := hspecs.compile relations
  rw [compile_eq_of_outline_eq houtline] at hselections
  refine ⟨?_, hselections, hselections.toValue_eq (wellFormed_compile left.property relations)⟩
  intro validators entity raw value
  have hvalue : (left.val.reshape relations validators entity raw).value? =
      (right.reshape others validators entity raw).value? := by
    calc
      (left.val.reshape relations validators entity raw).value? =
          (right.reshape relations validators entity raw).value? :=
        hspecs.value?_reshapeAt validators left.property relations entity raw .root
      _ = (right.reshape others validators entity raw).value? := by
        rw [reshape, reshape, reshapeAt_eq_of_outline_eq houtline validators entity]
  rw [← Run.value?_eq_some_iff, ← Run.value?_eq_some_iff, hvalue]

/-- The posts of a user and the best one of them, asked for in either order. -/
theorem reordered_alike_postsAndBest :
    let left := (WellFormedSpec.empty.withRelation "posts" none).withRelation "best"
      (some (WellFormedSpec.empty.withFields ["title", "id"]))
    let right := (empty.withRelation "best" (some (empty.withFields ["id", "title"]))).withRelation
      "posts" none
    let relations : RelationMap :=
      [("posts", .mk "post" .many false none), ("best", .mk "post" .one true none)]
    let post : Value := .object [("title", .string "first")]
    let raw : Value :=
      .object [("best", post), ("id", .string "u1"), ("posts", .array [post])]
    (left.val.reshape relations Catalog.blog.validators "user" raw).outcome = .ok raw ∧
      (right.reshape relations.reverse Catalog.blog.validators "user" raw).outcome = .ok raw ∧
      (left.val.compile relations).entries.keys = ["posts", "best"] ∧
      (right.compile relations.reverse).entries.keys = ["best", "posts"] ∧
      (left.val.compile relations).toValue = (right.compile relations.reverse).toValue := by
  intro left right relations post raw
  have hrelations : relations.WellFormed := by
    refine .cons (.cons RelationMap.wellFormed_nil ?_ ?_) ?_ ?_
    · exact List.not_mem_nil
    · exact RelationMap.wellFormed_nil
    · decide
    · exact RelationMap.wellFormed_nil
  have hspecs : left.val.Reordered right :=
    .trans (.requests none (.swap _ _ _)) (.nested none [] _ "best" (.fields [] (.swap _ _ _)))
  obtain ⟨hreshape, -, hvalue⟩ := @reordered_alike left right ⟨relations, hrelations⟩ _ hspecs
    (.entries relations.reverse_perm.symm)
  exact ⟨rfl, (hreshape _ _ _ _).mp rfl, rfl, rfl, hvalue⟩

end Spec

end QueryShape

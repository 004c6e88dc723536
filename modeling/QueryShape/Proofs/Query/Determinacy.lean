import QueryShape.Proofs.Query.Demands

/-!
# A selection determines how its data is reshaped

Compiling forgets how a relation was asked for: whole, with an empty specification, with one whose
relations are all unknown.  Reshaping cannot tell these apart either.  A selection can be read as a
specification again, one that asks for everything that is listed, and this specification reshapes
like the one that the selection was compiled from, as long as no field has the name of a relation.
So specifications with the same selection reshape alike.
-/

namespace QueryShape

open Json (Value)

namespace Selection

mutual

/-- The selection read as a specification that asks for everything that is listed. -/
def toSpec : Selection → Spec
  | .mk kind entries =>
      .mk (if kind = .selecting then some (entries.map Prod.fst) else none) (requestsOf entries)

def requestsOf : List (String × Option Selection) → List (String × Option Spec)
  | [] => []
  | (name, none) :: rest => (name, none) :: requestsOf rest
  | (name, some nested) :: rest => (name, some nested.toSpec) :: requestsOf rest

end

theorem toSpec_eq (selection : Selection) :
    selection.toSpec =
      .mk (if selection.kind = .selecting then some selection.entries.keys else none)
        (requestsOf selection.entries) := by
  cases selection
  rw [toSpec]
  rfl

theorem requestsOf_eq (entries : List (String × Option Selection)) :
    requestsOf entries = entries.map fun entry => (entry.1, entry.2.map toSpec) := by
  induction entries with
  | nil => rw [requestsOf, List.map_nil]
  | cons entry rest ih =>
      obtain ⟨name, entry⟩ := entry
      cases entry <;> rw [requestsOf, ih] <;> rfl

theorem requestsOf_append (first second : List (String × Option Selection)) :
    requestsOf (first ++ second) = requestsOf first ++ requestsOf second := by
  simp only [requestsOf_eq, List.map_append]

theorem keys_requestsOf (entries : Keyed (Option Selection)) :
    Keyed.keys (requestsOf entries) = entries.keys := by
  rw [requestsOf_eq, Keyed.keys, List.map_map]
  rfl

theorem toSpec_empty : toSpec .empty = .empty := by
  rw [empty, toSpec, requestsOf]
  rfl

theorem toSpec_asEntry (selection : Selection) :
    (selection.asEntry.map toSpec).getD .empty = selection.toSpec := by
  unfold asEntry
  split
  · next hempty =>
      rw [eq_empty_of_isEmptyInclude hempty, toSpec_empty]
      rfl
  · rfl

end Selection

namespace Spec

open Selection

/-- At every level that known relations lead to, no field has the name of a relation. -/
inductive Separate : Spec → RelationMap → Prop
  | mk {fields : Option (List String)} {requests : List (String × Option Spec)}
      {relations : RelationMap}
      (apart : ∀ name ∈ fields.getD [], relations.get? name = none)
      (nested : ∀ name request relation, (name, request) ∈ requests →
        relations.get? name = some relation → (request.getD .empty).Separate relation.nested) :
      Separate (.mk fields requests) relations

section Reshaping

variable (validators : Validators)

/-- Of the fields of a level it matters only whether there are any. -/
theorem reshapeRecord_congr {fields others : Option (List String)}
    (hfields : fields.isSome = others.isSome) (entity : String)
    (reshapeRequested : Keyed Value → Path → Keyed Value → Run (Keyed Value)) :
    reshapeRecord validators fields entity reshapeRequested =
      reshapeRecord validators others entity reshapeRequested := by
  funext raw path
  cases raw with
  | object entries => rw [reshapeRecord_object, reshapeRecord_object, hfields]
  | _ => rfl

/-- The selection of a level asks for the same relations again. -/
theorem demands_requestsOf (requests : List (String × Option Spec)) (relations : RelationMap) :
    demands (requestsOf (compileRequests requests relations)) relations =
      (demands requests relations).map fun demand =>
        { demand with spec := (demand.spec.compile demand.relation.nested).toSpec } := by
  rw [requestsOf_eq, compileRequests_eq, List.map_map]
  simp only [Function.comp_def, Demand.entry, demands_map_demands, toSpec_asEntry]

/-- What the requests of a level compile to is followed like the requests, if that is so of what is
asked for of each relation. -/
theorem reshapeRequests_requestsOf {requests : List (String × Option Spec)}
    {relations : RelationMap}
    (hnested : ∀ demand ∈ demands requests relations,
      (demand.spec.compile demand.relation.nested).toSpec.reshapeAt validators
          demand.relation.nested demand.relation.target =
        demand.spec.reshapeAt validators demand.relation.nested demand.relation.target) :
    reshapeRequests validators (requestsOf (compileRequests requests relations)) relations =
      reshapeRequests validators requests relations := by
  apply reshapeRequests_eq_of_demands
  rw [demands_requestsOf, List.map_map]
  apply List.map_congr_left
  intro demand hdemand
  funext entries path kept
  rw [Function.comp_apply, Demand.reshape, Demand.reshape, hnested demand hdemand]

/-- Fields that are no relations are listed before the relations that are asked for. -/
theorem entries_compile_of_separate {fields : Option (List String)}
    (requests : List (String × Option Spec)) {relations : RelationMap}
    (hapart : ∀ name ∈ fields.getD [], relations.get? name = none) :
    ((Spec.mk fields requests).compile relations).entries =
      (scalars fields).entries ++ compileRequests requests relations := by
  have hbeside : (compileRequests requests relations).filter (·.1 ∉ fields.getD []) =
      compileRequests requests relations := by
    rw [compileRequests_eq, List.filter_eq_self]
    intro entry hentry
    obtain ⟨demand, hdemand, rfl⟩ := List.mem_map.mp hentry
    apply decide_eq_true
    intro hname
    have hknown := (mem_demands.mp hdemand).2
    rw [hapart demand.name hname] at hknown
    cases hknown
  rw [compile_mk, hbeside]
  rfl

/-- The selection of a specification, read as a specification, reshapes like the specification. -/
theorem reshapeAt_toSpec_compile {spec : Spec} {relations : RelationMap}
    (hseparate : spec.Separate relations) (entity : String) :
    (spec.compile relations).toSpec.reshapeAt validators relations entity =
      spec.reshapeAt validators relations entity := by
  induction spec using Spec.induction generalizing relations entity with
  | mk fields requests ih =>
      cases hseparate with
      | mk apart nested =>
          have hkind := kind_compile (.mk fields requests) relations
          have hentries := entries_compile_of_separate requests apart
          have hfields : (if ((Spec.mk fields requests).compile relations).kind = .selecting then
              some ((Spec.mk fields requests).compile relations).entries.keys
              else none).isSome = fields.isSome := by
            rw [hkind]
            cases fields <;> rfl
          have hrequests :
              reshapeRequests validators
                  (requestsOf ((Spec.mk fields requests).compile relations).entries) relations =
                reshapeRequests validators requests relations := by
            funext entries path kept
            rw [hentries, requestsOf_append, reshapeRequests_append,
              reshapeRequests_of_skipped validators ?unknown, pure_bind,
              reshapeRequests_requestsOf validators ?nested]
            case unknown =>
              intro name hname
              rw [keys_requestsOf, keys_scalars] at hname
              exact Or.inr (apart name hname)
            case nested =>
              intro demand hdemand
              obtain ⟨⟨request, hmem, hspec⟩, hrelation⟩ := mem_demands.mp hdemand
              rw [← hspec]
              exact ih demand.name request hmem (nested _ _ _ hmem hrelation) _
          funext raw path
          rw [toSpec_eq, reshapeAt, reshapeAt, hrequests, reshapeRecord_congr validators hfields]

end Reshaping

/-- Two specifications that compile to the same selection reshape alike, calls and errors included,
if at every level no field has the name of a relation. -/
theorem reshape_eq_of_compile_eq {left right : Spec} {relations : RelationMap}
    (hleft : left.Separate relations) (hright : right.Separate relations)
    (hcompile : left.compile relations = right.compile relations) (validators : Validators)
    (entity : String) (raw : Value) :
    left.reshape relations validators entity raw =
      right.reshape relations validators entity raw := by
  unfold reshape
  rw [← reshapeAt_toSpec_compile validators hleft, hcompile,
    reshapeAt_toSpec_compile validators hright]

theorem separate_empty (relations : RelationMap) : empty.Separate relations :=
  .mk (by simp) (by simp)

/-- Posts that are asked for with a relation that they do not have are reshaped like posts that are
asked for whole. -/
theorem reshape_eq_of_unknownRelation :
    let relations := Schema.blog.relationsWithin 3 "user"
    let left := (empty.withFields ["id"]).withRelation "posts"
      (some (empty.withRelation "editor" none))
    let right := (empty.withFields ["id"]).withRelation "posts" none
    let raw : Value :=
      .object [("id", .string "u1"), ("posts", .array [.object [("title", .string "first")]])]
    left.compile relations = right.compile relations ∧
      left.reshape relations Catalog.blog.validators "user" raw =
        right.reshape relations Catalog.blog.validators "user" raw := by
  intro relations left right raw
  have hfields : ∀ name ∈ ["id"], relations.get? name = none := by
    intro name hname
    rw [List.mem_singleton.mp hname]
    rfl
  have hleft : left.Separate relations := by
    refine .mk hfields ?_
    intro name request relation hrequest hrelation
    cases List.mem_singleton.mp hrequest
    cases hrelation
    refine .mk (by simp [empty, fields?]) ?_
    intro other again nested hother hnested
    cases List.mem_singleton.mp hother
    cases hnested
  have hright : right.Separate relations := by
    refine .mk hfields ?_
    intro name request relation hrequest hrelation
    cases List.mem_singleton.mp hrequest
    exact separate_empty _
  exact ⟨rfl, reshape_eq_of_compile_eq hleft hright rfl _ _ _⟩

end Spec

end QueryShape

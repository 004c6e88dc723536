import QueryShape.Proofs.Query.Outline
import QueryShape.Proofs.Schema.Levels

/-!
# Truncated specifications

The relations of a model end at some depth, also where models refer to each other in a circle.  What
a specification asks for below that depth is not known there, so the specification might as well end
at the same depth: cut off, it has the same outline along the relations of any greater depth.  In
particular the depth does not matter to a specification that does not reach below it.
-/

namespace QueryShape

open Json (Value)

namespace Spec

/-- The specification with the given number of levels of relations.  What is asked for of a relation
on the last level keeps its fields and asks for no relation. -/
def truncated : Nat → Spec → Spec
  | 0, .mk fields _ => .mk fields []
  | depth + 1, .mk fields requests =>
      .mk fields (requests.map fun entry => (entry.1, entry.2.map (truncated depth)))

mutual

/-- The number of levels of relations that the specification asks for. -/
def height : Spec → Nat
  | .mk _ requests => requestsHeight requests

def requestsHeight : List (String × Option Spec) → Nat
  | [] => 0
  | (_, none) :: rest => max 1 (requestsHeight rest)
  | (_, some spec) :: rest => max (spec.height + 1) (requestsHeight rest)

end

theorem truncated_empty (depth : Nat) : empty.truncated depth = .empty := by
  cases depth <;> rfl

theorem getD_map_truncated (depth : Nat) (request : Option Spec) :
    (request.map (truncated depth)).getD .empty = (request.getD .empty).truncated depth := by
  cases request with
  | none => exact (truncated_empty depth).symm
  | some spec => rfl

theorem requestsHeight_le {requests : List (String × Option Spec)} {depth : Nat}
    (hrequests : ∀ name nested, (name, some nested) ∈ requests → nested.height ≤ depth) :
    requestsHeight requests ≤ depth + 1 := by
  induction requests with
  | nil => exact Nat.zero_le _
  | cons first rest ih =>
      obtain ⟨asked, request⟩ := first
      have hrest := ih fun name nested hmem => hrequests name nested (List.mem_cons_of_mem _ hmem)
      cases request with
      | none =>
          rw [requestsHeight]
          omega
      | some nested =>
          have hnested := hrequests asked nested List.mem_cons_self
          rw [requestsHeight]
          omega

/-- A specification that is ended at a depth does not reach below it. -/
theorem height_truncated_le (depth : Nat) (spec : Spec) :
    (spec.truncated depth).height ≤ depth := by
  induction depth generalizing spec with
  | zero =>
      obtain ⟨fields, requests⟩ := spec
      exact Nat.le_refl 0
  | succ depth ih =>
      obtain ⟨fields, requests⟩ := spec
      rw [truncated, height]
      apply requestsHeight_le
      intro name nested hmem
      obtain ⟨entry, -, heq⟩ := List.mem_map.mp hmem
      obtain ⟨spec, -, rfl⟩ := Option.map_eq_some_iff.mp (Prod.mk.inj heq).2
      exact ih spec

theorem height_lt_of_mem {requests : List (String × Option Spec)} {name : String} {nested : Spec}
    (hmem : (name, some nested) ∈ requests) : nested.height < requestsHeight requests := by
  induction requests with
  | nil => cases hmem
  | cons first rest ih =>
      obtain ⟨asked, request⟩ := first
      cases List.mem_cons.mp hmem with
      | inl heq =>
          cases heq
          rw [requestsHeight]
          omega
      | inr hmem =>
          have hrest := ih hmem
          cases request <;> rw [requestsHeight] <;> omega

theorem eq_nil_of_requestsHeight {requests : List (String × Option Spec)}
    (hheight : requestsHeight requests = 0) : requests = [] := by
  cases requests with
  | nil => rfl
  | cons first rest =>
      obtain ⟨name, request⟩ := first
      cases request <;> rw [requestsHeight] at hheight <;> omega

/-- A specification that does not reach below a depth is not changed by ending it there. -/
theorem truncated_eq_self {spec : Spec} {depth : Nat} (hheight : spec.height ≤ depth) :
    spec.truncated depth = spec := by
  induction depth generalizing spec with
  | zero =>
      obtain ⟨fields, requests⟩ := spec
      rw [height] at hheight
      rw [truncated, eq_nil_of_requestsHeight (Nat.le_zero.mp hheight)]
  | succ depth ih =>
      obtain ⟨fields, requests⟩ := spec
      rw [height] at hheight
      have hsame : ∀ entry ∈ requests, (entry.1, entry.2.map (truncated depth)) = entry := by
        rintro ⟨name, request⟩ hmem
        cases request with
        | none => rfl
        | some nested =>
            have hnested := height_lt_of_mem hmem
            rw [Option.map_some, ih (by omega)]
      rw [truncated, List.map_congr_left hsame, List.map_id']

/-- Along the relations of some depth, a specification looks like the one that ends at this depth
looks along the relations of any greater depth. -/
theorem outline_truncated (schema : Schema) (spec : Spec) {depth deeper : Nat}
    (hdeeper : depth ≤ deeper) (entity : String) :
    (spec.truncated depth).outline (schema.relationsWithin deeper entity) =
      spec.outline (schema.relationsWithin depth entity) := by
  induction depth generalizing spec deeper entity with
  | zero =>
      obtain ⟨fields, requests⟩ := spec
      have hnone : demands requests (schema.relationsWithin 0 entity) = [] :=
        List.filterMap_eq_nil_iff.mpr fun _ _ => rfl
      rw [truncated, outline_mk, outline_mk, hnone]
      rfl
  | succ depth ih =>
      obtain ⟨fields, requests⟩ := spec
      -- The greater depth has a level for each level of the smaller one.
      obtain ⟨deeper, rfl⟩ := Nat.exists_eq_add_of_le' hdeeper
      rw [truncated, outline_mk, outline_mk, map_demands, map_demands, List.filterMap_map]
      congr 1
      apply List.filterMap_congr
      intro entry _
      rw [Function.comp_apply, ← Nat.add_assoc, schema.get?_relationsWithin_succ depth,
        schema.get?_relationsWithin_succ (deeper + depth), Option.map_map, Option.map_map]
      congr 1
      funext relation
      have hnested := ih (entry.2.getD .empty) (Nat.le_add_left depth deeper) relation.target
      simp only [Function.comp_apply, Demand.outlined, Relation.bare_withNested,
        Relation.nested_withNested, getD_map_truncated, hnested]

/-- Relations down to some depth serve a specification as well as the deeper relations of the same
model serve the specification when it is ended at this depth: both compile to the same selection and
reshape every value with the same calls and to the same result or error.  A specification that does
not reach below the depth is served alike by both. -/
theorem truncated_alike {schema : Schema} {entity : String}
    (hentity : (schema.model? entity).isSome) {depth deeper : Nat} (hdepth : 1 ≤ depth)
    (hdeeper : depth ≤ deeper) :
    ∃ shallow deep, (schema.relationGraph depth).get? entity = some shallow ∧
      (schema.relationGraph deeper).get? entity = some deep ∧
      ∀ spec : Spec,
        (spec.truncated depth).height ≤ depth ∧
        (spec.compile shallow = (spec.truncated depth).compile deep ∧
          ∀ (validators : Validators) (raw : Value),
            spec.reshape shallow validators entity raw =
              (spec.truncated depth).reshape deep validators entity raw) ∧
        (spec.height ≤ depth →
          spec.compile shallow = spec.compile deep ∧
            ∀ (validators : Validators) (raw : Value),
              spec.reshape shallow validators entity raw =
                spec.reshape deep validators entity raw) := by
  obtain ⟨model, hmodel⟩ := Option.isSome_iff_exists.mp hentity
  refine ⟨schema.relationTable depth entity, schema.relationTable deeper entity, ?_, ?_, ?_⟩
  · rw [Schema.get?_relationGraph, hmodel, Nat.max_eq_right hdepth]
    rfl
  · rw [Schema.get?_relationGraph, hmodel, Nat.max_eq_right (hdepth.trans hdeeper)]
    rfl
  · intro spec
    have houtline := (outline_truncated schema spec hdeeper entity).symm
    have hcompile := compile_eq_of_outline_eq houtline
    have hreshape : ∀ (validators : Validators) (raw : Value),
        spec.reshape (schema.relationsWithin depth entity) validators entity raw =
          (spec.truncated depth).reshape (schema.relationsWithin deeper entity) validators entity
            raw := by
      intro validators raw
      rw [reshape, reshapeAt_eq_of_outline_eq houtline validators entity, reshape]
    refine ⟨height_truncated_le depth spec, ⟨hcompile, hreshape⟩, ?_⟩
    intro hheight
    rw [truncated_eq_self hheight] at hcompile hreshape
    exact ⟨hcompile, hreshape⟩

/-- Users and posts refer to each other.  Down to one level, the authors of posts cannot be asked
for, and posts without them are served alike by one level and by three. -/
theorem truncated_alike_authorsOfPosts :
    let shallow := Schema.blog.relationTable 1 "user"
    let deep := Schema.blog.relationTable 3 "user"
    let posts := empty.withFields ["title"]
    let user := empty.withFields ["id"]
    let spec := user.withRelation "posts" (some (posts.withRelation "author" none))
    let cut := user.withRelation "posts" (some posts)
    spec.truncated 1 = cut ∧ spec.compile shallow = cut.compile deep ∧
      (∀ (validators : Validators) (raw : Value),
        spec.reshape shallow validators "user" raw = cut.reshape deep validators "user" raw) ∧
      cut.height ≤ 1 ∧ cut.compile shallow = cut.compile deep := by
  intro shallow deep posts user spec cut
  obtain ⟨first, second, hfirst, hsecond, halike⟩ :=
    @truncated_alike .blog "user" rfl 1 3 (by decide) (by decide)
  obtain rfl : shallow = first := Option.some.inj hfirst
  obtain rfl : deep = second := Option.some.inj hsecond
  obtain ⟨-, ⟨hcompile, hreshape⟩, -⟩ := halike spec
  obtain ⟨hheight, -, hunchanged⟩ := halike cut
  exact ⟨rfl, hcompile, hreshape, hheight, (hunchanged hheight).1⟩

end Spec

end QueryShape

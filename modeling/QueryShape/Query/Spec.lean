import QueryShape.Keyed

/-!
# Query specifications

A specification says which fields of an entity to keep and which of its relations to follow.  A
relation is asked for whole, or with a specification of its own.  A level that names no fields keeps
all of them.  However a specification is built, no level of it repeats a field or a relation.
-/

namespace QueryShape

/-- The fields to keep, if the level is restricted, and the relations to follow.  A relation without
a specification of its own is asked for whole. -/
inductive Spec where
  | mk (fields : Option (List String)) (relations : List (String × Option Spec))

namespace Spec

def fields? : Spec → Option (List String)
  | .mk fields _ => fields

def relations : Spec → Keyed (Option Spec)
  | .mk _ relations => relations

/-- Keeps every field and follows no relation. -/
def empty : Spec :=
  .mk none []

/-- Whether the level names the fields to keep. -/
def isNarrowed (spec : Spec) : Bool :=
  spec.fields?.isSome

def isEmpty (spec : Spec) : Bool :=
  spec.fields?.isNone && spec.relations.isEmpty

/-- The restriction to the given names, each of them once.  No names restrict nothing. -/
def restriction : List String → Option (List String)
  | [] => none
  | names => some names.eraseDups

/-- The restriction with one more name. -/
def extended (names : List String) (name : String) : List String :=
  if names.contains name then names else names ++ [name]

def withFields (spec : Spec) (names : List String) : Spec :=
  .mk (restriction names) spec.relations

def withField (spec : Spec) (name : String) : Spec :=
  .mk (some (extended (spec.fields?.getD []) name)) spec.relations

def withRelation (spec : Spec) (name : String) (request : Option Spec) : Spec :=
  .mk spec.fields? (spec.relations.insert name request)

/-! ## Names that occur once -/

/-- At every level, no field is listed twice and no relation is asked for twice. -/
inductive WellFormed : Spec → Prop
  | mk {fields : Option (List String)} {requests : Keyed (Option Spec)}
      (names : ∀ names, fields = some names → names.Nodup) (distinct : requests.Distinct)
      (nested : ∀ name spec, (name, some spec) ∈ requests → spec.WellFormed) :
      WellFormed (.mk fields requests)

theorem wellFormed_empty : empty.WellFormed :=
  .mk nofun Keyed.distinct_nil nofun

theorem WellFormed.distinct {spec : Spec} (hspec : spec.WellFormed) : spec.relations.Distinct := by
  cases hspec with
  | mk _ distinct _ => exact distinct

theorem WellFormed.nodup_fields {spec : Spec} (hspec : spec.WellFormed) {names : List String}
    (hnames : spec.fields? = some names) : names.Nodup := by
  cases hspec with
  | mk hfields _ _ => exact hfields names hnames

theorem WellFormed.mem_relations {spec : Spec} (hspec : spec.WellFormed) {name : String}
    {nested : Spec} (hmem : (name, some nested) ∈ spec.relations) : nested.WellFormed := by
  cases hspec with
  | mk _ _ hnested => exact hnested name nested hmem

theorem nodup_eraseDups (names : List String) : names.eraseDups.Nodup := by
  induction hlength : names.length using Nat.strongRecOn generalizing names with
  | ind length ih =>
      cases names with
      | nil => simp
      | cons name rest =>
          rw [List.eraseDups_cons, List.nodup_cons]
          refine ⟨by simp [List.mem_eraseDups], ih _ ?_ _ rfl⟩
          rw [← hlength, List.length_cons]
          exact Nat.lt_succ_of_le (List.length_filter_le _ rest)

theorem nodup_of_restriction {names kept : List String} (hkept : restriction names = some kept) :
    kept.Nodup := by
  cases names with
  | nil => simp [restriction] at hkept
  | cons name rest =>
      obtain rfl := Option.some.inj hkept
      exact nodup_eraseDups (name :: rest)

theorem nodup_extended {names : List String} (hnames : names.Nodup) (name : String) :
    (extended names name).Nodup := by
  unfold extended
  split
  · exact hnames
  · next hname =>
      refine List.nodup_append.mpr ⟨hnames, List.pairwise_singleton _ name, ?_⟩
      rintro other hother _ hlast rfl
      rw [List.mem_singleton.mp hlast] at hother
      exact hname (List.contains_iff_mem.mpr hother)

theorem WellFormed.withFields {spec : Spec} (hspec : spec.WellFormed) (names : List String) :
    (spec.withFields names).WellFormed :=
  .mk (fun _ => nodup_of_restriction) hspec.distinct fun _ _ => hspec.mem_relations

theorem WellFormed.withField {spec : Spec} (hspec : spec.WellFormed) (name : String) :
    (spec.withField name).WellFormed := by
  refine .mk ?_ hspec.distinct fun _ _ => hspec.mem_relations
  rintro _ ⟨⟩
  apply nodup_extended
  cases hfields : spec.fields? with
  | none => exact List.nodup_nil
  | some names => exact hspec.nodup_fields hfields

theorem WellFormed.withRelation {spec : Spec} (hspec : spec.WellFormed) (name : String)
    {request : Option Spec} (hrequest : ∀ nested, request = some nested → nested.WellFormed) :
    (spec.withRelation name request).WellFormed := by
  refine .mk (fun _ => hspec.nodup_fields) (hspec.distinct.insert name request) ?_
  intro other nested hmem
  rcases Keyed.mem_insert hmem with heq | hmem
  · exact hrequest nested (Prod.mk.inj heq).2.symm
  · exact hspec.mem_relations hmem

end Spec

/-- A specification that repeats no field and no relation at any level. -/
abbrev WellFormedSpec := { spec : Spec // spec.WellFormed }

namespace WellFormedSpec

def empty : WellFormedSpec :=
  ⟨.empty, Spec.wellFormed_empty⟩

def withFields (spec : WellFormedSpec) (names : List String) : WellFormedSpec :=
  ⟨spec.val.withFields names, spec.property.withFields names⟩

def withField (spec : WellFormedSpec) (name : String) : WellFormedSpec :=
  ⟨spec.val.withField name, spec.property.withField name⟩

def withRelation (spec : WellFormedSpec) (name : String) (request : Option WellFormedSpec) :
    WellFormedSpec where
  val := spec.val.withRelation name (request.map Subtype.val)
  property := by
    apply spec.property.withRelation
    intro nested hnested
    obtain ⟨asked, -, rfl⟩ := Option.map_eq_some_iff.mp hnested
    exact asked.property

end WellFormedSpec

end QueryShape

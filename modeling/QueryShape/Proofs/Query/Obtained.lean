import QueryShape.Proofs.Query.Spec
import QueryShape.Query.Spec.Wire

/-!
# Specifications that can be made

A specification is made by building it step by step and by reading documents.  What can be made in
this way is what is proper: a level that is restricted names at least one field, and no level names
a field twice or asks for a relation twice.
-/

namespace QueryShape.Spec

open Json (Document)

/-- At every level, the fields to keep, if there is a restriction, are one or more, each of them
listed once, and no relation is asked for twice. -/
inductive Proper : Spec → Prop
  | mk {fields : Option (List String)} {requests : Keyed (Option Spec)}
      (nonempty : fields ≠ some []) (names : ∀ names, fields = some names → names.Nodup)
      (distinct : requests.Distinct)
      (nested : ∀ name spec, (name, some spec) ∈ requests → spec.Proper) :
      Proper (.mk fields requests)

/-- Made by any number of steps of building and reading. -/
inductive Obtained : Spec → Prop
  | empty : Obtained .empty
  | withFields {spec : Spec} (names : List String) (made : spec.Obtained) :
      Obtained (spec.withFields names)
  | withField {spec : Spec} (name : String) (made : spec.Obtained) : Obtained (spec.withField name)
  | withRelation {spec : Spec} (name : String) (request : Option Spec) (made : spec.Obtained)
      (nested : ∀ spec, request = some spec → spec.Obtained) :
      Obtained (spec.withRelation name request)
  | read {room : Nat} {document : Document} {spec : Spec}
      (read : Spec.read room document = .ok spec) : Obtained spec

theorem Proper.wellFormed {spec : Spec} (hspec : spec.Proper) : spec.WellFormed := by
  induction hspec with
  | mk _ names distinct _ ih => exact .mk names distinct ih

theorem Proper.nonempty {spec : Spec} (hspec : spec.Proper) : spec.fields? ≠ some [] := by
  cases hspec with
  | mk nonempty _ _ _ => exact nonempty

theorem Proper.mem_relations {spec : Spec} (hspec : spec.Proper) {name : String} {nested : Spec}
    (hmem : (name, some nested) ∈ spec.relations) : nested.Proper := by
  cases hspec with
  | mk _ _ _ hnested => exact hnested name nested hmem

theorem proper_empty : empty.Proper :=
  .mk nofun nofun Keyed.distinct_nil nofun

/-! ## What is obtained is proper -/

theorem Proper.withFields {spec : Spec} (hspec : spec.Proper) (names : List String) :
    (spec.withFields names).Proper :=
  .mk (restriction_ne_some_nil names) (fun _ => nodup_of_restriction) hspec.wellFormed.distinct
    fun _ _ => hspec.mem_relations

theorem Proper.withField {spec : Spec} (hspec : spec.Proper) (name : String) :
    (spec.withField name).Proper := by
  refine .mk ?nonempty ?names hspec.wellFormed.distinct fun _ _ => hspec.mem_relations
  case nonempty =>
    intro hnone
    have hlist := Option.some.inj hnone
    unfold extended at hlist
    split at hlist
    · next hname => simp [hlist] at hname
    · simp at hlist
  case names =>
    intro names hnames
    exact (hspec.wellFormed.withField name).nodup_fields hnames

theorem Proper.withRelation {spec : Spec} (hspec : spec.Proper) (name : String)
    {request : Option Spec} (hrequest : ∀ nested, request = some nested → nested.Proper) :
    (spec.withRelation name request).Proper := by
  refine .mk hspec.nonempty (fun _ => hspec.wellFormed.nodup_fields)
    (hspec.wellFormed.distinct.insert name request) ?_
  intro other nested hmem
  rcases Keyed.mem_insert hmem with heq | hmem
  · exact hrequest nested (Prod.mk.inj heq).2.symm
  · exact hspec.mem_relations hmem

theorem proper_of_read {room : Nat} {document : Document} {spec : Spec}
    (hread : Spec.read room document = .ok spec) : spec.Proper :=
  good_of_read
    (fun names _ hrequests hnested =>
      .mk (restriction_ne_some_nil names) (fun _ => nodup_of_restriction) hrequests hnested)
    hread

theorem Obtained.proper {spec : Spec} (hspec : spec.Obtained) : spec.Proper := by
  induction hspec with
  | empty => exact proper_empty
  | withFields names _ ih => exact ih.withFields names
  | withField name _ ih => exact ih.withField name
  | withRelation name request _ _ ih ihNested => exact ih.withRelation name ihNested
  | read hread => exact proper_of_read hread

/-! ## What is proper is obtained -/

/-- Relations can be asked for one after the other. -/
theorem Obtained.foldl_insert {fields : Option (List String)} {bound : Keyed (Option Spec)}
    (hbound : (mk fields bound).Obtained) {requests : Keyed (Option Spec)}
    (hrequests : ∀ name spec, (name, some spec) ∈ requests → spec.Obtained) :
    (mk fields
      (requests.foldl (fun bound entry => Keyed.insert bound entry.1 entry.2) bound)).Obtained := by
  induction requests generalizing bound with
  | nil => exact hbound
  | cons first rest ih =>
      obtain ⟨name, request⟩ := first
      apply ih
      · apply hbound.withRelation name request
        rintro spec rfl
        exact hrequests name spec List.mem_cons_self
      · exact fun other spec hmem => hrequests other spec (List.mem_cons_of_mem _ hmem)

theorem Proper.obtained {spec : Spec} (hspec : spec.Proper) : spec.Obtained := by
  induction hspec with
  | @mk fields requests nonempty names distinct _ ih =>
      have hfields : (Spec.mk fields []).Obtained := by
        cases fields with
        | none => exact .empty
        | some listed =>
            have hsome : listed ≠ [] := fun hnil => nonempty (congrArg some hnil)
            rw [← restriction_of_nodup hsome (names listed rfl)]
            exact Obtained.empty.withFields listed
      rw [← Keyed.ofList_eq_self distinct]
      exact hfields.foldl_insert ih

theorem obtained_iff_proper {spec : Spec} : spec.Obtained ↔ spec.Proper :=
  ⟨Obtained.proper, Proper.obtained⟩

end QueryShape.Spec

import QueryShape.Proofs.Keyed
import QueryShape.Query.Spec

/-!
# What specifications ask for

A relation that is asked for whole is the same as one that is asked for with an empty specification,
so a specification is a tree of specifications.  A list of distinct names restricts to itself.
-/

namespace QueryShape.Spec

/-- What is asked for of a relation, if it is asked for. -/
def requested? (spec : Spec) (name : String) : Option Spec :=
  (spec.relations.get? name).map (·.getD .empty)

/-- To prove something of a specification, prove it from what is asked for of the relations. -/
@[elab_as_elim]
theorem induction {motive : Spec → Prop}
    (mk : ∀ fields requests,
      (∀ name request, (name, request) ∈ requests → motive (request.getD .empty)) →
        motive (.mk fields requests)) (spec : Spec) : motive spec := by
  have hempty : motive .empty := mk none [] (by simp)
  refine Spec.rec (motive_1 := motive)
    (motive_2 := fun requests => ∀ name request, (name, request) ∈ requests →
      motive (request.getD .empty))
    (motive_3 := fun entry => motive (entry.2.getD .empty))
    (motive_4 := fun request => motive (request.getD .empty))
    mk ?nil ?cons (fun _ _ hrequest => hrequest) hempty (fun _ hspec => hspec) spec
  case nil => simp
  case cons =>
    intro entry rest hentry hrest name request hmem
    rcases List.mem_cons.mp hmem with rfl | hmem
    · exact hentry
    · exact hrest name request hmem

/-- A relation that is asked for is among the requests. -/
theorem exists_mem_of_requested? {fields : Option (List String)}
    {requests : Keyed (Option Spec)} {name : String} {nested : Spec}
    (hrequested : (mk fields requests).requested? name = some nested) :
    ∃ request, (name, request) ∈ requests ∧ request.getD .empty = nested := by
  obtain ⟨request, hrequest, hnested⟩ := Option.map_eq_some_iff.mp hrequested
  exact ⟨request, Keyed.mem_of_get?_eq_some hrequest, hnested⟩

theorem WellFormed.getD {fields : Option (List String)} {requests : Keyed (Option Spec)}
    (hspec : (Spec.mk fields requests).WellFormed) {name : String} {request : Option Spec}
    (hmem : (name, request) ∈ requests) : (request.getD .empty).WellFormed := by
  cases hspec with
  | mk _ _ nested =>
      cases request with
      | none => exact wellFormed_empty
      | some spec => exact nested name spec hmem

theorem eraseDups_eq_self {names : List String} (hnames : names.Nodup) :
    names.eraseDups = names := by
  induction names with
  | nil => rfl
  | cons name rest ih =>
      obtain ⟨hname, hrest⟩ := List.nodup_cons.mp hnames
      have hkept : rest.filter (fun other => !other == name) = rest := by
        apply List.filter_eq_self.mpr
        intro other hother
        simpa using ne_of_mem_of_not_mem hother hname
      rw [List.eraseDups_cons, hkept, ih hrest]

theorem restriction_of_nodup {names : List String} (hsome : names ≠ []) (hnames : names.Nodup) :
    restriction names = some names := by
  cases names with
  | nil => exact absurd rfl hsome
  | cons name rest => exact congrArg some (eraseDups_eq_self hnames)

theorem restriction_ne_some_nil (names : List String) : restriction names ≠ some [] := by
  cases names with
  | nil => exact nofun
  | cons name rest => simp [restriction, List.eraseDups_cons]

end QueryShape.Spec

import QueryShape.Proofs.Query.Lockstep

/-!
# Trust and narrowing

Records whose level names fields are taken as they are, on the grounds that they were narrowed to
these fields when they were fetched.  Whether they were is seen in the selection: a path of
relations has to lead there from one nested selection into the next.  The two agree along a path
unless one of its relations is also among the fields of its level.  Such a relation is fetched
whole, with everything below it, while below it the levels that name fields are trusted all the
same.
-/

namespace QueryShape

open Json (Value)

namespace Selection

/-- The selection that a path of names leads to from one nested selection into the next. -/
def resolve? : Selection → List String → Option Selection
  | selection, [] => some selection
  | selection, name :: rest =>
      (selection.entries.get? name).bind fun entry =>
        entry.bind fun nested => nested.resolve? rest

/-- The records at a path are narrowed to the names that are listed for them. -/
def Narrows (selection : Selection) (path : List String) : Prop :=
  ∃ nested, selection.resolve? path = some nested ∧ nested.kind = .selecting

theorem asEntry_of_mem_keys {selection : Selection} {name : String}
    (hname : name ∈ selection.entries.keys) : selection.asEntry = some selection := by
  unfold asEntry
  split
  · next hempty =>
      rw [eq_empty_of_isEmptyInclude hempty] at hname
      cases hname
  · rfl

end Selection

namespace Spec

/-- A path of relations, each asked for at its level and known there, leads from one level of a
specification to another. -/
inductive Leads : Spec → RelationMap → List String → Spec → RelationMap → Prop
  | here (spec : Spec) (relations : RelationMap) : Leads spec relations [] spec relations
  | step {spec nested level : Spec} {relations below : RelationMap} {relation : Relation}
      {name : String} {rest : List String} (requested : spec.requested? name = some nested)
      (described : relations.get? name = some relation)
      (onward : Leads nested relation.nested rest level below) :
      Leads spec relations (name :: rest) level below

/-- Whether a relation on the path is also among the fields of its level. -/
def shadows : Spec → List String → Bool
  | _, [] => false
  | spec, name :: rest =>
      (spec.fields?.getD []).contains name ||
        (spec.requested? name).any fun nested => nested.shadows rest

/-- An object in which nothing is followed is taken as it is, whatever the validators. -/
def SkipsValidator (spec : Spec) : Prop :=
  ∀ (validators : Validators) (relations : RelationMap) (entity : String)
    (entries : Keyed Value) (path : Path),
    (∀ name ∈ entries.keys, relations.get? name = none) →
      spec.reshapeAt validators relations entity (.object entries) path = pure (.object entries)

/-! ## Trust -/

/-- The levels that name fields are the ones that are trusted. -/
theorem skipsValidator_iff {spec : Spec} : spec.SkipsValidator ↔ spec.isNarrowed = true := by
  obtain ⟨fields, requests⟩ := spec
  constructor
  · intro hskips
    have hrun := hskips [("", fun value => .ok value)] [] "" [] .root (by simp [Keyed.keys])
    rw [reshapeAt, reshapeRecord_object] at hrun
    cases fields with
    | some names => rfl
    | none =>
        have hcalls := congrArg Run.calls hrun
        cases hcalls
  · intro hnarrowed validators relations entity entries path hentries
    have hfields : fields.isSome = true := hnarrowed
    have hskip : ∀ name, entries.get? name = none ∨ relations.get? name = none := by
      intro name
      by_cases hname : name ∈ entries.keys
      · exact Or.inr (hentries name hname)
      · exact Or.inl (Keyed.get?_eq_none_iff.mpr hname)
    rw [reshapeAt, reshapeRecord_object, if_pos hfields, pure_bind,
      reshapeRequests_of_skipped validators fun name _ => hskip name, map_pure]

/-! ## Narrowing -/

theorem asEntry_compile {spec nested : Spec} {relations : RelationMap} {relation : Relation}
    {name : String} (hrequested : spec.requested? name = some nested)
    (hrelation : relations.get? name = some relation) :
    (spec.compile relations).asEntry = some (spec.compile relations) := by
  have hname : name ∈ (spec.compile relations).entries.keys := by
    rw [mem_keys_compile, hrequested, hrelation]
    exact Or.inr ⟨rfl, rfl⟩
  exact Selection.asEntry_of_mem_keys hname

/-- From a level that is nested in another one, the selection resolves a path exactly if no relation
on it is shadowed, and then to the selection of the level that the path leads to. -/
theorem Leads.bind_resolve? {spec level : Spec} {relations below : RelationMap}
    {path : List String} (hleads : spec.Leads relations path level below) :
    (spec.compile relations).asEntry.bind (·.resolve? path) =
      if spec.shadows path then none else (level.compile below).asEntry := by
  induction hleads with
  | here spec relations =>
      simp only [Selection.resolve?, shadows]
      cases (spec.compile relations).asEntry <;> rfl
  | @step spec nested level relations below relation name rest requested described _ ih =>
      rw [asEntry_compile requested described, Option.bind_some, Selection.resolve?, get?_compile,
        shadows, requested, described]
      by_cases hfield : name ∈ spec.fields?.getD []
      · simp [hfield]
      · simpa [hfield] using ih

theorem Leads.resolve? {spec level : Spec} {relations below : RelationMap} {path : List String}
    (hleads : spec.Leads relations path level below) (hpath : path ≠ []) :
    (spec.compile relations).resolve? path =
      if spec.shadows path then none else (level.compile below).asEntry := by
  rw [← hleads.bind_resolve?]
  cases hleads with
  | here => exact absurd rfl hpath
  | step requested described _ => rw [asEntry_compile requested described, Option.bind_some]

theorem Leads.narrows_iff {spec level : Spec} {relations below : RelationMap}
    {path : List String} (hleads : spec.Leads relations path level below) (hpath : path ≠ []) :
    (spec.compile relations).Narrows path ↔
      level.isNarrowed = true ∧ spec.shadows path = false := by
  unfold Selection.Narrows
  rw [hleads.resolve? hpath]
  cases spec.shadows path with
  | true => simp
  | false =>
      constructor
      · rintro ⟨nested, hnested, hkind⟩
        obtain rfl := Selection.eq_of_asEntry_eq_some hnested
        exact ⟨isNarrowed_of_kind_compile hkind, rfl⟩
      · rintro ⟨hnarrowed, -⟩
        have hkind : (level.compile below).kind = .selecting := by
          rw [kind_compile, if_pos hnarrowed]
        exact ⟨_, Selection.asEntry_of_selecting hkind, hkind⟩

/-- Along a path of relations, trust and narrowing agree exactly if not both the level is trusted
and a relation on the path is shadowed.  A selection that narrows lists the fields of the level and
the relations that are asked for and known. -/
theorem trust_agrees_iff {spec level : Spec} {relations below : RelationMap} {path : List String}
    (hleads : spec.Leads relations path level below) (hpath : path ≠ []) :
    ((level.SkipsValidator ↔ (spec.compile relations).Narrows path) ↔
        ¬ (level.SkipsValidator ∧ spec.shadows path = true)) ∧
      ∀ nested, (spec.compile relations).resolve? path = some nested → nested.kind = .selecting →
        level.SkipsValidator ∧ ∀ name, name ∈ nested.entries.keys ↔
          name ∈ level.fields?.getD [] ∨
            (level.requested? name).isSome ∧ (below.get? name).isSome := by
  rw [skipsValidator_iff, hleads.narrows_iff hpath]
  constructor
  · cases spec.shadows path <;> simp
  · intro nested hnested hkind
    rw [hleads.resolve? hpath, Option.ite_none_left_eq_some] at hnested
    obtain rfl := Selection.eq_of_asEntry_eq_some hnested.2
    exact ⟨isNarrowed_of_kind_compile hkind, fun name => mem_keys_compile⟩

/-- Posts that are asked for as a relation only are narrowed where their titles are trusted. -/
theorem trust_agrees_on_posts :
    let query := Query.ofUser WellFormedSpec.userWithPosts
    ∃ level below nested, query.spec.Leads query.relations ["posts"] level below ∧
      query.selection.resolve? ["posts"] = some nested ∧ level.SkipsValidator ∧
      (level.SkipsValidator ↔ query.selection.Narrows ["posts"]) ∧
      ∀ name, name ∈ nested.entries.keys ↔ name ∈ level.fields?.getD [] ∨
        (level.requested? name).isSome ∧ (below.get? name).isSome := by
  intro query
  have hleads : query.spec.Leads query.relations ["posts"] _ _ := .step rfl rfl (.here _ _)
  have hagrees := trust_agrees_iff hleads (by simp)
  have hplain : query.spec.shadows ["posts"] = false := rfl
  obtain ⟨hskips, hkeys⟩ := hagrees.2 _ rfl rfl
  refine ⟨_, _, _, hleads, rfl, hskips, hagrees.1.mpr ?_, hkeys⟩
  simp [hplain]

/-- Posts that are asked for also as a field are fetched whole and trusted all the same, so that a
title of the wrong type comes through. -/
theorem trusted_but_fetched_whole :
    let query := Query.ofUser WellFormedSpec.userWithPostsTwice
    let raw : Value :=
      .object [("id", .string "u1"), ("posts", .array [.object [("title", .bool true)]])]
    ∃ level below, query.spec.Leads query.relations ["posts"] level below ∧
      ¬ (level.SkipsValidator ↔ query.selection.Narrows ["posts"]) ∧
      query.parse raw = pure raw := by
  intro query raw
  refine ⟨_, _, .step rfl rfl (.here _ _), ?_, rfl⟩
  rw [skipsValidator_iff]
  intro hagrees
  obtain ⟨nested, hnested, -⟩ := hagrees.mp rfl
  cases hnested

end Spec

end QueryShape

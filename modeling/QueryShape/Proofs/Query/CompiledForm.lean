import QueryShape.Proofs.Query.MergedPaths
import QueryShape.Proofs.Query.Obtained
import QueryShape.Proofs.Relation.Walks

/-!
# The form of a compiled selection

What a specification compiles to is said level by level, without a merge: the kind of the level, the
names that it lists and their order, and the entry of each name.  There is exactly one selection of
this form.  A relation is nested only as long as something in particular is asked for below it, so
there are no empty selections inside and no more levels than the relations have.
-/

namespace QueryShape

namespace Spec

/-- No field is named, and no relation of the entity is asked for. -/
def AsksForNothing (spec : Spec) (relations : RelationMap) : Prop :=
  spec.fields?.getD [] = [] ∧ ∀ name ∈ spec.relations.keys, relations.get? name = none

/-- The relations that are asked for and known and are not also among the fields of the level, in
the order of the requests. -/
def addedRelations (spec : Spec) (relations : RelationMap) : List String :=
  spec.relations.keys.filter fun name =>
    (relations.get? name).isSome && name ∉ spec.fields?.getD []

/-- A relation of the level is asked for in the given way, and not also as a field. -/
structure Adds (spec : Spec) (relations : RelationMap) (name : String) (request : Option Spec)
    (relation : Relation) : Prop where
  asked : spec.relations.get? name = some request
  known : relations.get? name = some relation
  apart : name ∉ spec.fields?.getD []

/-- The form of the selection of a specification. -/
inductive CompilesTo : Spec → RelationMap → Selection → Prop
  | level {spec : Spec} {relations : RelationMap} {selection : Selection}
      (kind : selection.kind = .selecting ↔ spec.fields?.getD [] ≠ [])
      (names : selection.entries.keys =
        spec.fields?.getD [] ++ spec.addedRelations relations)
      (distinct : selection.entries.Distinct)
      (field : ∀ name ∈ spec.fields?.getD [], selection.entries.get? name = some none)
      (whole : ∀ name request relation, spec.Adds relations name request relation →
        (∀ nested, request = some nested → nested.AsksForNothing relation.nested) →
          selection.entries.get? name = some none)
      (narrowed : ∀ name nested relation, spec.Adds relations name (some nested) relation →
        ¬nested.AsksForNothing relation.nested →
          ∃ inner, selection.entries.get? name = some (some inner))
      (inside : ∀ name nested relation inner, spec.Adds relations name (some nested) relation →
        selection.entries.get? name = some (some inner) →
          nested.CompilesTo relation.nested inner) :
      CompilesTo spec relations selection

/-! ## One level -/

theorem keys_compile (spec : Spec) (relations : RelationMap) :
    (spec.compile relations).entries.keys =
      spec.fields?.getD [] ++ spec.addedRelations relations := by
  obtain ⟨fields, requests⟩ := spec
  have hasked : Keyed.keys (compileRequests requests relations) =
      (Keyed.keys requests).filter fun name => (relations.get? name).isSome := by
    rw [compileRequests_eq_restrict, Keyed.keys_restrict]
    simp only [Option.isSome_map]
    exact Keyed.keys_filter (fun name => (relations.get? name).isSome) requests
  have hadded : Keyed.keys ((compileRequests requests relations).filter (·.1 ∉ fields.getD [])) =
      (mk fields requests).addedRelations relations := by
    rw [Keyed.keys_filter (· ∉ fields.getD []), hasked, List.filter_filter]
    apply List.filter_congr
    exact fun name _ => Bool.and_comm _ _
  rw [compile_mk, Selection.entries, Keyed.keys, List.map_append]
  exact congrArg₂ (· ++ ·) (keys_scalars fields) hadded

theorem mem_addedRelations {spec : Spec} {relations : RelationMap} {name : String} :
    name ∈ spec.addedRelations relations ↔
      ∃ request relation, spec.Adds relations name request relation := by
  rw [addedRelations, List.mem_filter, ← Keyed.get?_isSome_iff, Bool.and_eq_true,
    decide_eq_true_iff]
  constructor
  · rintro ⟨hasked, hknown, hapart⟩
    obtain ⟨request, hrequest⟩ := Option.isSome_iff_exists.mp hasked
    obtain ⟨relation, hrelation⟩ := Option.isSome_iff_exists.mp hknown
    exact ⟨request, relation, hrequest, hrelation, hapart⟩
  · rintro ⟨request, relation, hrequest, hrelation, hapart⟩
    exact ⟨Option.isSome_of_eq_some hrequest, Option.isSome_of_eq_some hrelation, hapart⟩

theorem addedRelations_eq_nil_iff {spec : Spec} {relations : RelationMap}
    (hfields : spec.fields?.getD [] = []) :
    spec.addedRelations relations = [] ↔
      ∀ name ∈ spec.relations.keys, relations.get? name = none := by
  simp [addedRelations, hfields]

theorem isNarrowed_iff {spec : Spec} (hspec : spec.fields? ≠ some []) :
    spec.isNarrowed = true ↔ spec.fields?.getD [] ≠ [] := by
  unfold isNarrowed
  cases hfields : spec.fields? with
  | none => simp
  | some names =>
      rw [hfields] at hspec
      simpa using fun hnil : names = [] => hspec (congrArg some hnil)

/-- A level that names no field and adds no relation fetches every field and no relation. -/
theorem compile_eq_empty_iff {spec : Spec} (hspec : spec.fields? ≠ some [])
    (relations : RelationMap) :
    spec.compile relations = .empty ↔ spec.AsksForNothing relations := by
  have hnames : spec.compile relations = .empty ↔
      (spec.compile relations).kind = .including ∧ (spec.compile relations).entries.keys = [] := by
    constructor
    · intro hempty
      rw [hempty]
      exact ⟨rfl, rfl⟩
    · rintro ⟨hkind, hkeys⟩
      apply Selection.eq_empty_of_isEmptyInclude
      simp [Selection.isEmptyInclude, hkind, List.map_eq_nil_iff.mp hkeys]
  rw [hnames, keys_compile, List.append_eq_nil_iff, kind_compile, AsksForNothing]
  constructor
  · rintro ⟨-, hfields, hadded⟩
    exact ⟨hfields, (addedRelations_eq_nil_iff hfields).mp hadded⟩
  · rintro ⟨hfields, hunknown⟩
    refine ⟨?_, hfields, (addedRelations_eq_nil_iff hfields).mpr hunknown⟩
    exact if_neg fun hnarrowed => (isNarrowed_iff hspec).mp hnarrowed hfields

theorem asEntry_compile_eq_none_iff {spec : Spec} (hspec : spec.fields? ≠ some [])
    (relations : RelationMap) :
    (spec.compile relations).asEntry = none ↔ spec.AsksForNothing relations := by
  rw [← compile_eq_empty_iff hspec]
  constructor
  · intro hnone
    rw [← Selection.getD_asEntry (spec.compile relations), hnone, Option.getD_none]
  · intro hempty
    rw [hempty]
    rfl

theorem asksForNothing_empty (relations : RelationMap) : empty.AsksForNothing relations :=
  ⟨rfl, fun _ hname => absurd hname List.not_mem_nil⟩

/-- The entry of a relation is the selection of what is asked for of it. -/
theorem Adds.get?_compile {spec : Spec} {relations : RelationMap} {name : String}
    {request : Option Spec} {relation : Relation}
    (hadds : spec.Adds relations name request relation) :
    (spec.compile relations).entries.get? name =
      some ((request.getD .empty).compile relation.nested).asEntry := by
  have hrequested : spec.requested? name = some (request.getD .empty) := by
    rw [requested?, hadds.asked, Option.map_some]
  rw [Spec.get?_compile, if_neg hadds.apart, hrequested, hadds.known]
  rfl

section Adding

variable {spec nested : Spec} {relations : RelationMap} {name : String} {relation : Relation}

/-- A relation is fetched whole if nothing in particular is asked for of it. -/
theorem Adds.get?_compile_whole {request : Option Spec}
    (hadds : spec.Adds relations name request relation)
    (hnothing : ∀ nested, request = some nested → nested.AsksForNothing relation.nested)
    (hspec : spec.Proper) : (spec.compile relations).entries.get? name = some none := by
  have hasks : (request.getD .empty).AsksForNothing relation.nested := by
    cases request with
    | none => exact asksForNothing_empty relation.nested
    | some nested => exact hnothing nested rfl
  have hnested : (request.getD .empty).fields? ≠ some [] := by
    cases request with
    | none => exact nofun
    | some nested => exact (hspec.mem_relations (Keyed.mem_of_get?_eq_some hadds.asked)).nonempty
  rw [hadds.get?_compile, (asEntry_compile_eq_none_iff hnested relation.nested).mpr hasks]

theorem Adds.get?_compile_narrowed (hadds : spec.Adds relations name (some nested) relation)
    (hasks : ¬nested.AsksForNothing relation.nested) (hspec : spec.Proper) :
    (spec.compile relations).entries.get? name = some (some (nested.compile relation.nested)) := by
  have hnested := (hspec.mem_relations (Keyed.mem_of_get?_eq_some hadds.asked)).nonempty
  rw [hadds.get?_compile, Option.getD_some]
  cases hentry : (nested.compile relation.nested).asEntry with
  | none => exact absurd ((asEntry_compile_eq_none_iff hnested _).mp hentry) hasks
  | some inner => rw [Selection.eq_of_asEntry_eq_some hentry]

end Adding

/-! ## Every level -/

/-- The selection of a specification has the form that it should have. -/
theorem compilesTo_compile {spec : Spec} (hspec : spec.Proper) (relations : RelationMap) :
    spec.CompilesTo relations (spec.compile relations) := by
  induction hspec generalizing relations with
  | @mk fields requests nonempty names distinct nested ih =>
      have hspec : (Spec.mk fields requests).Proper := .mk nonempty names distinct nested
      refine .level ?kind (keys_compile _ _) (wellFormed_compile hspec.wellFormed _).distinct
        ?field ?whole ?narrowed ?inside
      case kind =>
        rw [kind_compile, ← isNarrowed_iff hspec.nonempty]
        cases (Spec.mk fields requests).isNarrowed <;> decide
      case field =>
        intro name hfield
        rw [get?_compile, if_pos hfield]
      case whole =>
        intro name request relation hadds hnothing
        exact hadds.get?_compile_whole hnothing hspec
      case narrowed =>
        intro name nested relation hadds hasks
        exact ⟨_, hadds.get?_compile_narrowed hasks hspec⟩
      case inside =>
        intro name nested relation inner hadds hentry
        rw [hadds.get?_compile] at hentry
        rw [← Selection.eq_of_asEntry_eq_some (Option.some.inj hentry)]
        exact ih name nested (Keyed.mem_of_get?_eq_some hadds.asked) relation.nested

/-- There is no other selection of this form. -/
theorem CompilesTo.compile_eq {spec : Spec} {relations : RelationMap} {selection : Selection}
    (hform : spec.CompilesTo relations selection) (hspec : spec.Proper) :
    spec.compile relations = selection := by
  induction hform with
  | @level spec relations selection kind names distinct field whole narrowed inside ih =>
      have hcompiled := wellFormed_compile hspec.wellFormed relations
      have hkeys : (spec.compile relations).entries.keys = selection.entries.keys :=
        (keys_compile spec relations).trans names.symm
      apply Selection.eq_of_entries hcompiled ?sameKind hkeys ?sameEntries
      case sameKind =>
        rw [kind_compile]
        cases hkind : selection.kind with
        | selecting => exact if_pos ((isNarrowed_iff hspec.nonempty).mpr (kind.mp hkind))
        | including =>
            apply if_neg
            intro hnarrowed
            have hselecting := kind.mpr ((isNarrowed_iff hspec.nonempty).mp hnarrowed)
            rw [hkind] at hselecting
            cases hselecting
      case sameEntries =>
        intro name
        by_cases hfield : name ∈ spec.fields?.getD []
        · rw [field name hfield, get?_compile, if_pos hfield]
        by_cases hadded : name ∈ spec.addedRelations relations
        · obtain ⟨request, relation, hadds⟩ := mem_addedRelations.mp hadded
          by_cases hnothing : ∀ nested, request = some nested →
              nested.AsksForNothing relation.nested
          · rw [whole name request relation hadds hnothing,
              hadds.get?_compile_whole hnothing hspec]
          · obtain ⟨nested, hnested⟩ := not_forall.mp hnothing
            obtain ⟨rfl, hasks⟩ := Classical.not_imp.mp hnested
            obtain ⟨inner, hinner⟩ := narrowed name nested relation hadds hasks
            have hnested := hspec.mem_relations (Keyed.mem_of_get?_eq_some hadds.asked)
            rw [hinner, hadds.get?_compile_narrowed hasks hspec,
              ih name nested relation inner hadds hinner hnested]
        · have habsent : name ∉ selection.entries.keys := by
            rw [names, List.mem_append]
            exact not_or.mpr ⟨hfield, hadded⟩
          rw [Keyed.get?_eq_none_iff.mpr habsent, Keyed.get?_eq_none_iff.mpr (hkeys ▸ habsent)]

/-- A nested selection is that of a relation one level deeper, and not an empty one. -/
theorem exists_of_get?_compile {spec : Spec} {relations : RelationMap} {name : String}
    {inner : Selection} (hentry : (spec.compile relations).entries.get? name = some (some inner)) :
    ∃ (nested : Spec) (relation : Relation), relations.get? name = some relation ∧
      inner = nested.compile relation.nested ∧ inner ≠ .empty := by
  rw [get?_compile] at hentry
  split at hentry
  · cases hentry
  · obtain ⟨nested, -, hmap⟩ := Option.bind_eq_some_iff.mp hentry
    obtain ⟨relation, hrelation, hinner⟩ := Option.map_eq_some_iff.mp hmap
    obtain rfl := Selection.eq_of_asEntry_eq_some hinner
    refine ⟨nested, relation, hrelation, rfl, ?_⟩
    intro hempty
    rw [hempty] at hinner
    cases hinner

/-- What is nested in a selection is not empty, and lies as deep as the relations do. -/
theorem bounds_of_resolve?_compile {path : List String} {spec : Spec} {relations : RelationMap}
    {found : Selection} (hfound : (spec.compile relations).resolve? path = some found) :
    (path ≠ [] → found ≠ .empty) ∧ path.length ≤ Relation.mapDepth relations := by
  induction path generalizing spec relations with
  | nil => exact ⟨fun hpath => absurd rfl hpath, Nat.zero_le _⟩
  | cons name rest ih =>
      obtain ⟨inner, hentry, hrest⟩ := Selection.resolve?_cons_eq_some_iff.mp hfound
      obtain ⟨nested, relation, hrelation, rfl, hsome⟩ := exists_of_get?_compile hentry
      obtain ⟨hbelow, hlength⟩ := ih hrest
      constructor
      · intro _
        cases rest with
        | nil =>
            obtain rfl := Option.some.inj hrest
            exact hsome
        | cons next later => exact hbelow (List.cons_ne_nil next later)
      · calc
          rest.length + 1 ≤ Relation.mapDepth relation.nested + 1 := Nat.succ_le_succ hlength
          _ = relation.depth := by rw [relation.depth_eq, Nat.add_comm]
          _ ≤ Relation.mapDepth relations := Relation.depth_le_mapDepth hrelation

/-- A specification compiles to the one selection of its form.  What is nested in it is never empty
and no deeper than the relations, and it is empty itself exactly if nothing is asked for. -/
theorem compile_hasForm {spec : Spec} (hspec : spec.Obtained) (relations : RelationMap) :
    (∀ selection, spec.compile relations = selection ↔ spec.CompilesTo relations selection) ∧
      (∀ path nested, path ≠ [] → (spec.compile relations).resolve? path = some nested →
        nested ≠ .empty ∧ path.length ≤ Relation.mapDepth relations) ∧
      (spec.compile relations = .empty ↔ spec.AsksForNothing relations) := by
  refine ⟨?form, ?nested, compile_eq_empty_iff hspec.proper.nonempty relations⟩
  case form =>
    intro selection
    constructor
    · rintro rfl
      exact compilesTo_compile hspec.proper relations
    · exact fun hform => hform.compile_eq hspec.proper
  case nested =>
    intro path nested hpath hnested
    obtain ⟨hsome, hlength⟩ := bounds_of_resolve?_compile hnested
    exact ⟨hsome hpath, hlength⟩

/-- Posts are fetched whole as they are also a field.  The author of the best post is fetched whole
because no posts of the author are known. -/
theorem compile_hasForm_bestPost :
    let post := Relation.mk "post" .many false (some [("author", .mk "user" .one true none)])
    let relations := [("posts", post), ("best", post)]
    let author := empty.withRelation "author" (some (empty.withRelation "posts" none))
    let spec := (((empty.withFields ["id", "posts"]).withRelation "posts"
      (some (empty.withField "title"))).withRelation "gone" none).withRelation "best" (some author)
    let nested := Selection.mk .including [("author", none)]
    spec.Obtained ∧
      spec.CompilesTo relations
        (.mk .selecting [("id", none), ("posts", none), ("best", some nested)]) ∧
      nested ≠ .empty ∧ 1 ≤ Relation.mapDepth relations ∧ ¬spec.AsksForNothing relations := by
  intro post relations author spec nested
  have htitle : (empty.withField "title").Obtained := .withField "title" .empty
  have hauthor : author.Obtained := by
    apply Obtained.empty.withRelation
    rintro _ ⟨⟩
    exact Obtained.empty.withRelation "posts" none nofun
  have hspec : spec.Obtained := by
    have hposts : ((empty.withFields ["id", "posts"]).withRelation "posts"
        (some (empty.withField "title"))).Obtained := by
      apply (Obtained.empty.withFields ["id", "posts"]).withRelation
      rintro _ ⟨⟩
      exact htitle
    apply (hposts.withRelation "gone" none nofun).withRelation
    rintro _ ⟨⟩
    exact hauthor
  obtain ⟨hform, hnested, hempty⟩ := compile_hasForm hspec relations
  obtain ⟨hsome, hlength⟩ := hnested ["best"] nested (by simp) rfl
  refine ⟨hspec, (hform _).mp rfl, hsome, hlength, ?_⟩
  intro hnothing
  cases hempty.mpr hnothing

end Spec

end QueryShape

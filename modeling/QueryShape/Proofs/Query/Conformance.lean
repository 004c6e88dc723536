import QueryShape.Proofs.Query.Reshape

/-!
# Which data a query accepts

Raw data conforms to a specification if every object that is reached has the shape that its relation
asks for and, where the level names no fields, is accepted by the validator of its entity.  Reached
are the record itself and, from every object that is reached, the records of its followed
relations.  Reshaping succeeds exactly on the data that conforms, and what it gives is the raw data
without the names that are neither columns nor followed relations, taken out of every object whose
level names no fields.
-/

namespace QueryShape

open Json (OrderedValue Value)

/-- In an object, a relation is followed if it is asked for, the entity has it, and the object has
the name. -/
structure Spec.Follows (spec : Spec) (relations : RelationMap) (entries : Keyed Value)
    (name : String) (nested : Spec) (relation : Relation) (raw : Value) : Prop where
  requested : spec.requested? name = some nested
  described : relations.get? name = some relation
  present : entries.get? name = some raw

/-- A name is asked for and is that of a relation, or it is skipped. -/
theorem Spec.followed_or_skipped (spec : Spec) (relations : RelationMap) (name : String) :
    (∃ nested relation, spec.requested? name = some nested ∧
        relations.get? name = some relation) ∨
      (spec.requested? name = none ∨ relations.get? name = none) := by
  cases spec.requested? name with
  | none => exact Or.inr (Or.inl rfl)
  | some nested =>
      cases relations.get? name with
      | none => exact Or.inr (Or.inr rfl)
      | some relation => exact Or.inl ⟨nested, relation, rfl, rfl⟩

namespace Schema

/-- The data is an object that is accepted where its level names no fields, and every relation that
is followed in it has the right shape and records that conform in turn. -/
inductive Conforms (engine : PatternEngine) (schema : Schema) :
    Spec → RelationMap → String → Value → Prop
  | record {spec : Spec} {relations : RelationMap} {entity : String} {entries : Keyed Value}
      (accepted : spec.isNarrowed = false → schema.Accepts engine entity (.object entries))
      (admitted : ∀ name nested relation raw,
        spec.Follows relations entries name nested relation raw → relation.Admits raw)
      (followed : ∀ name nested relation raw,
        spec.Follows relations entries name nested relation raw →
          ∀ record ∈ relation.records raw,
            schema.Conforms engine nested relation.nested relation.target record) :
      schema.Conforms engine spec relations entity (.object entries)

/-- An object whose level names no fields and follows no relations, reduced to its columns. -/
def pruneWhole (schema : Schema) (entity : String) : Value → Value
  | .object entries => .object (schema.columnsOf entity entries)
  | raw => raw

mutual

/-- The data without what nobody asked for: where a level names no fields, an object keeps its
columns and its followed relations.  Everything else stays as it is and where it is. -/
def prune (schema : Schema) : Spec → RelationMap → String → Value → Value
  | .mk fields requests, relations, entity, .object entries =>
      .object <| Keyed.restrict (fun name raw =>
        (schema.pruneFollowed requests relations name raw).or <|
          if fields.isSome || (schema.columnNames entity).contains name then some raw else none)
        entries
  | _, _, _, raw => raw

/-- The value under a name, if the name is that of a followed relation, with its records pruned. -/
def pruneFollowed (schema : Schema) :
    List (String × Option Spec) → RelationMap → String → Value → Option Value
  | [], _, _, _ => none
  | (requested, request) :: rest, relations, name, raw =>
      if requested = name then
        (relations.get? name).map fun relation =>
          relation.mapRecords
            (match request with
              | none => schema.pruneWhole relation.target
              | some spec => schema.prune spec relation.nested relation.target)
            raw
      else schema.pruneFollowed rest relations name raw

end

theorem pruneWhole_eq (schema : Schema) (relations : RelationMap) (entity : String) :
    schema.pruneWhole entity = schema.prune .empty relations entity := by
  funext raw
  cases raw with
  | object entries => simp [pruneWhole, Spec.empty, prune, pruneFollowed, columnsOf]
  | _ => simp [pruneWhole, Spec.empty, prune]

theorem pruneFollowed_eq (schema : Schema) (requests : List (String × Option Spec))
    (relations : RelationMap) (name : String) (raw : Value) :
    schema.pruneFollowed requests relations name raw =
      (Keyed.get? requests name).bind fun request =>
        (relations.get? name).map fun relation =>
          relation.mapRecords
            (schema.prune (request.getD .empty) relation.nested relation.target) raw := by
  induction requests with
  | nil => rfl
  | cons entry rest ih =>
      obtain ⟨requested, request⟩ := entry
      rw [pruneFollowed, Keyed.get?_cons]
      split
      · cases request with
        | none =>
            simp only [Option.bind_some, Option.getD_none, ← pruneWhole_eq]
        | some spec => rfl
      · exact ih

/-- What becomes of the value under a name of an object. -/
def kept (schema : Schema) (spec : Spec) (relations : RelationMap) (entity name : String)
    (raw : Value) : Option Value :=
  match spec.requested? name, relations.get? name with
  | some nested, some relation =>
      some (relation.mapRecords (schema.prune nested relation.nested relation.target) raw)
  | _, _ =>
      if spec.isNarrowed || (schema.columnNames entity).contains name then some raw else none

theorem kept_of_requested {schema : Schema} {spec nested : Spec} {relations : RelationMap}
    {relation : Relation} {entity name : String} (hrequested : spec.requested? name = some nested)
    (hrelation : relations.get? name = some relation) (raw : Value) :
    schema.kept spec relations entity name raw =
      some (relation.mapRecords (schema.prune nested relation.nested relation.target) raw) := by
  simp [kept, hrequested, hrelation]

/-- A value that is not that of a followed relation is kept as it is or not at all. -/
theorem kept_of_skipped {schema : Schema} {spec : Spec} {relations : RelationMap}
    {entity name : String} (hskip : spec.requested? name = none ∨ relations.get? name = none)
    (raw : Value) :
    schema.kept spec relations entity name raw =
      if spec.isNarrowed || (schema.columnNames entity).contains name then some raw else none := by
  unfold kept
  rcases hskip with hrequested | hrelation
  · rw [hrequested]
  · cases spec.requested? name <;> rw [hrelation]

theorem prune_object (schema : Schema) (spec : Spec) (relations : RelationMap) (entity : String)
    (entries : Keyed Value) :
    schema.prune spec relations entity (.object entries) =
      .object (entries.restrict (schema.kept spec relations entity)) := by
  obtain ⟨fields, requests⟩ := spec
  rw [prune]
  congr 2
  funext name raw
  rw [pruneFollowed_eq, kept, Spec.requested?, Spec.relations]
  cases Keyed.get? requests name with
  | none => rfl
  | some request => cases relations.get? name <;> rfl

/-- Only objects are pruned. -/
theorem object_or_prune_eq_self (schema : Schema) (raw : Value) :
    (∃ entries, raw = .object entries) ∨
      ∀ spec relations entity, schema.prune spec relations entity raw = raw := by
  cases raw with
  | object entries => exact Or.inl ⟨entries, rfl⟩
  | _ =>
      apply Or.inr
      rintro ⟨fields, requests⟩ relations entity
      simp [prune]

/-- An object is not changed if its followed relations are not and its other names are kept. -/
theorem prune_object_eq_self {schema : Schema} {spec : Spec} {relations : RelationMap}
    {entity : String} {entries : Keyed Value} (hentries : entries.Distinct)
    (hfollowed : ∀ name nested relation raw,
      spec.Follows relations entries name nested relation raw →
        ∀ record ∈ relation.records raw,
          schema.prune nested relation.nested relation.target record = record)
    (hskipped : ∀ name ∈ entries.keys,
      spec.requested? name = none ∨ relations.get? name = none →
        spec.isNarrowed = true ∨ name ∈ schema.columnNames entity) :
    schema.prune spec relations entity (.object entries) = .object entries := by
  rw [prune_object]
  congr 1
  apply Keyed.restrict_eq_self
  intro name raw hmem
  rcases spec.followed_or_skipped relations name with
    ⟨nested, relation, hrequested, hrelation⟩ | hskip
  · have hfollows : spec.Follows relations entries name nested relation raw :=
      ⟨hrequested, hrelation, Keyed.get?_eq_some_of_mem hentries hmem⟩
    rw [kept_of_requested hrequested hrelation,
      Relation.mapRecords_eq_self (hfollowed name nested relation raw hfollows)]
  · have hkept := hskipped name (Keyed.mem_keys_of_mem hmem) hskip
    rw [kept_of_skipped hskip, if_pos (by simpa using hkept)]

section Loop

variable (schema : Schema) {name : String} {request : Option Spec}
  {rest : List (String × Option Spec)} (hname : name ∉ Keyed.keys rest) {relations : RelationMap}
  {entries : Keyed Value} (hentries : (Value.object entries).Ordered)
include hname hentries

/-- Following one more relation changes what its name is kept with. -/
theorem restrict_pruneFollowed_cons {raw : Value} {relation : Relation}
    (hraw : entries.get? name = some raw) (hrelation : relations.get? name = some relation)
    (keep : String → Value → Option Value) :
    (entries.restrict fun other value =>
        (schema.pruneFollowed ((name, request) :: rest) relations other value).or
          (keep other value)) =
      entries.restrict fun other value =>
        (schema.pruneFollowed rest relations other value).or
          (if other = name then
            some (relation.mapRecords
              (schema.prune (request.getD .empty) relation.nested relation.target) raw)
          else keep other value) := by
  apply Keyed.restrict_congr
  intro other value hmem
  rw [pruneFollowed_eq, pruneFollowed_eq, Keyed.get?_cons]
  by_cases hother : name = other
  · subst hother
    have hvalue : some raw = some value :=
      hraw.symm.trans (Keyed.get?_eq_some_of_mem hentries.distinct hmem)
    cases hvalue
    simp [hrelation, Keyed.get?_eq_none_iff.mpr hname]
  · simp [hother, Ne.symm hother]

/-- Passing over a relation changes nothing. -/
theorem restrict_pruneFollowed_skip
    (hskip : entries.get? name = none ∨ relations.get? name = none)
    (keep : String → Value → Option Value) :
    (entries.restrict fun other value =>
        (schema.pruneFollowed ((name, request) :: rest) relations other value).or
          (keep other value)) =
      entries.restrict fun other value =>
        (schema.pruneFollowed rest relations other value).or (keep other value) := by
  apply Keyed.restrict_congr
  intro other value hmem
  rw [pruneFollowed_eq, pruneFollowed_eq, Keyed.get?_cons]
  by_cases hother : name = other
  · subst hother
    have hvalue := Keyed.get?_eq_some_of_mem hentries.distinct hmem
    have hrelation : relations.get? name = none := by simpa [hvalue] using hskip
    simp [hrelation, Keyed.get?_eq_none_iff.mpr hname]
  · simp [hother]

end Loop

/-- Of the relations that are asked for, those that the object and its entity have are of the right
shape and have records that conform. -/
def RequestsConform (engine : PatternEngine) (schema : Schema)
    (requests : List (String × Option Spec)) (relations : RelationMap) (entries : Keyed Value) :
    Prop :=
  ∀ name request relation raw, (name, request) ∈ requests →
    relations.get? name = some relation → entries.get? name = some raw →
      relation.Admits raw ∧ ∀ record ∈ relation.records raw,
        schema.Conforms engine (request.getD .empty) relation.nested relation.target record

section Requests

variable {engine : PatternEngine} {schema : Schema} {name : String} {request : Option Spec}
  {rest : List (String × Option Spec)} {relations : RelationMap} {entries : Keyed Value}

theorem requestsConform_cons :
    schema.RequestsConform engine ((name, request) :: rest) relations entries ↔
      (∀ relation raw, relations.get? name = some relation → entries.get? name = some raw →
        relation.Admits raw ∧ ∀ record ∈ relation.records raw,
          schema.Conforms engine (request.getD .empty) relation.nested relation.target record) ∧
        schema.RequestsConform engine rest relations entries := by
  constructor
  · intro hall
    constructor
    · intro relation raw hrelation hraw
      exact hall name request relation raw List.mem_cons_self hrelation hraw
    · intro other again relation raw hmem hrelation hraw
      exact hall other again relation raw (List.mem_cons_of_mem _ hmem) hrelation hraw
  · rintro ⟨hfirst, hrest⟩ other again relation raw hmem hrelation hraw
    rcases List.mem_cons.mp hmem with heq | hmem
    · cases heq
      exact hfirst relation raw hrelation hraw
    · exact hrest other again relation raw hmem hrelation hraw

theorem requestsConform_followed {raw : Value} {relation : Relation}
    (hraw : entries.get? name = some raw) (hrelation : relations.get? name = some relation) :
    schema.RequestsConform engine ((name, request) :: rest) relations entries ↔
      (relation.Admits raw ∧ ∀ record ∈ relation.records raw,
        schema.Conforms engine (request.getD .empty) relation.nested relation.target record) ∧
        schema.RequestsConform engine rest relations entries := by
  rw [requestsConform_cons]
  apply and_congr_left
  intro _
  constructor
  · intro hfirst
    exact hfirst relation raw hrelation hraw
  · intro hfirst other value hother hvalue
    cases hrelation.symm.trans hother
    cases hraw.symm.trans hvalue
    exact hfirst

theorem requestsConform_skipped (hskip : entries.get? name = none ∨ relations.get? name = none) :
    schema.RequestsConform engine ((name, request) :: rest) relations entries ↔
      schema.RequestsConform engine rest relations entries := by
  rw [requestsConform_cons]
  apply and_iff_right
  intro relation raw hrelation hraw
  simp [hrelation, hraw] at hskip

end Requests

section Reshaping

variable {engine : PatternEngine} {schema : Schema} {validators : Validators}

/-- The relations that are asked for are put back one after the other into what has been kept so
far, each in the place that its name had in the object. -/
theorem outcome_reshapeRequests_eq_ok_iff {requests : List (String × Option Spec)}
    {relations : RelationMap}
    (hnested : ∀ name request relation, (name, request) ∈ requests →
      relations.get? name = some relation →
      Reshapes ((request.getD .empty).reshapeAt validators relation.nested relation.target)
        (schema.Conforms engine (request.getD .empty) relation.nested relation.target)
        (schema.prune (request.getD .empty) relation.nested relation.target))
    (hrequests : Keyed.Distinct requests) {entries : Keyed Value}
    (hentries : (Value.object entries).Ordered) (path : Path)
    (keep : String → Value → Option Value) (value : Keyed Value) :
    (Spec.reshapeRequests validators requests relations entries path
        (entries.restrict keep)).outcome = .ok value ↔
      schema.RequestsConform engine requests relations entries ∧
        value = entries.restrict fun name raw =>
          (schema.pruneFollowed requests relations name raw).or (keep name raw) := by
  -- What is kept changes with every relation that is put back, so it is any function at first.
  induction requests generalizing keep with
  | nil =>
      rw [Spec.reshapeRequests, Run.outcome_pure]
      simp [pruneFollowed, RequestsConform, eq_comm]
  | cons entry rest ih =>
      obtain ⟨name, request⟩ := entry
      obtain ⟨hname, hrest⟩ := Keyed.distinct_cons.mp hrequests
      have ih := ih (fun other again relation hmem =>
        hnested other again relation (List.mem_cons_of_mem _ hmem)) hrest
      by_cases hskip : entries.get? name = none ∨ relations.get? name = none
      · rw [Spec.reshapeRequests_skipped validators hskip, ih, requestsConform_skipped hskip,
          schema.restrict_pruneFollowed_skip hname hentries hskip keep]
      · obtain ⟨hraw, hrelation⟩ := not_or.mp hskip
        obtain ⟨raw, hraw⟩ := Option.ne_none_iff_exists'.mp hraw
        obtain ⟨relation, hrelation⟩ := Option.ne_none_iff_exists'.mp hrelation
        have hitem := (hnested name request relation List.mem_cons_self hrelation).relation
          relation (hentries.get? hraw)
        have hkeys : name ∈ entries.keys :=
          Keyed.mem_keys_of_mem (Keyed.mem_of_get?_eq_some hraw)
        rw [Spec.reshapeRequests_followed validators hraw hrelation, Run.outcome_bind_eq_ok,
          requestsConform_followed hraw hrelation,
          schema.restrict_pruneFollowed_cons hname hentries hraw hrelation keep]
        simp only [hitem, Keyed.insertSorted_restrict hentries.increasing keep hkeys, ih]
        constructor
        · rintro ⟨_, ⟨hgood, rfl⟩, hall, hvalue⟩
          exact ⟨⟨hgood, hall⟩, hvalue⟩
        · rintro ⟨⟨hgood, hall⟩, hvalue⟩
          exact ⟨_, ⟨hgood, rfl⟩, hall, hvalue⟩

/-- What is kept of an object before its relations are put back. -/
theorem outcome_kept_eq_ok_iff (hvalidators : schema.validators engine = .ok validators)
    {entity : String} (hentity : (schema.model? entity).isSome) (narrowed : Bool) (path : Path)
    {entries kept : Keyed Value} :
    (if narrowed then pure entries else validatedEntries validators entity path entries).outcome =
        .ok kept ↔
      (narrowed = false → schema.Accepts engine entity (.object entries)) ∧
        kept = entries.restrict fun name raw =>
          if narrowed || (schema.columnNames entity).contains name then some raw else none := by
  cases narrowed with
  | true =>
      have hall : entries.restrict (fun name raw =>
          if true || (schema.columnNames entity).contains name then some raw else none) =
          entries := Keyed.restrict_eq_self (by simp)
      rw [hall]
      simp [eq_comm]
  | false =>
      have hentries :=
        @outcome_validatedEntries_eq_ok_iff _ _ _ hvalidators _ hentity path entries kept
      simpa [columnsOf] using hentries

theorem conforms_object_iff {fields : Option (List String)} {requests : Keyed (Option Spec)}
    (hrequests : requests.Distinct) {relations : RelationMap} {entity : String}
    {entries : Keyed Value} :
    schema.Conforms engine (.mk fields requests) relations entity (.object entries) ↔
      (fields.isSome = false → schema.Accepts engine entity (.object entries)) ∧
        schema.RequestsConform engine requests relations entries := by
  constructor
  · rintro (⟨accepted, admitted, followed⟩)
    refine ⟨accepted, ?_⟩
    intro name request relation raw hmem hrelation hraw
    have hrequested : (Spec.mk fields requests).requested? name = some (request.getD .empty) :=
      Option.map_eq_some_iff.mpr ⟨request, Keyed.get?_eq_some_of_mem hrequests hmem, rfl⟩
    have hfollows : (Spec.mk fields requests).Follows relations entries name (request.getD .empty)
        relation raw := ⟨hrequested, hrelation, hraw⟩
    exact ⟨admitted _ _ _ _ hfollows, followed _ _ _ _ hfollows⟩
  · rintro ⟨accepted, hall⟩
    refine .record accepted ?_ ?_
    · rintro name nested relation raw ⟨hrequested, hrelation, hraw⟩
      obtain ⟨request, hrequest, rfl⟩ := Spec.exists_mem_of_requested? hrequested
      exact (hall name request relation raw hrequest hrelation hraw).1
    · rintro name nested relation raw ⟨hrequested, hrelation, hraw⟩
      obtain ⟨request, hrequest, rfl⟩ := Spec.exists_mem_of_requested? hrequested
      exact (hall name request relation raw hrequest hrelation hraw).2

/-- Reshaping along a specification succeeds on what conforms to it and prunes it. -/
theorem reshapes_reshapeAt (hvalidators : schema.validators engine = .ok validators) {spec : Spec}
    (hspec : spec.WellFormed) {relations : RelationMap} {entity : String}
    (hdescribes : schema.Describes entity relations) :
    Reshapes (spec.reshapeAt validators relations entity)
      (schema.Conforms engine spec relations entity)
      (schema.prune spec relations entity) := by
  induction spec using Spec.induction generalizing relations entity with
  | mk fields requests ih =>
      intro raw path value hraw
      rw [Spec.reshapeAt]
      cases raw with
      | object entries =>
          have hnested : ∀ name request relation, (name, request) ∈ requests →
              relations.get? name = some relation →
              Reshapes
                ((request.getD .empty).reshapeAt validators relation.nested relation.target)
                (schema.Conforms engine (request.getD .empty) relation.nested relation.target)
                (schema.prune (request.getD .empty) relation.nested relation.target) :=
            fun name request relation hmem hrelation =>
              ih name request hmem (hspec.getD hmem) (hdescribes.nested hrelation)
          have hrequests : Keyed.Distinct requests := hspec.distinct
          rw [Spec.reshapeRecord_object, Run.outcome_bind_eq_ok, conforms_object_iff hrequests,
            prune]
          simp only [outcome_kept_eq_ok_iff hvalidators hdescribes.known, Run.outcome_map_eq_ok]
          constructor
          · rintro ⟨_, ⟨haccepted, rfl⟩, result, hresult, rfl⟩
            obtain ⟨hall, rfl⟩ :=
              (outcome_reshapeRequests_eq_ok_iff hnested hrequests hraw path _ _).mp hresult
            exact ⟨⟨haccepted, hall⟩, rfl⟩
          · rintro ⟨⟨haccepted, hall⟩, rfl⟩
            exact ⟨_, ⟨haccepted, rfl⟩, _,
              (outcome_reshapeRequests_eq_ok_iff hnested hrequests hraw path _ _).mpr
                ⟨hall, rfl⟩, rfl⟩
      | _ =>
          have hnot : ∀ raw, (∀ entries, raw ≠ .object entries) →
              ¬ schema.Conforms engine (.mk fields requests) relations entity raw := by
            rintro raw hraw ⟨⟩
            exact hraw _ rfl
          simp [Spec.reshapeRecord, hnot]

end Reshaping

end Schema

open Schema

/-- A query for a model of a schema accepts exactly the data that conforms to its specification, and
prunes it. -/
theorem Query.parse_eq_ok_iff {engine : PatternEngine} {schema : Schema} {maxDepth : Nat}
    {catalog : Catalog} (hcatalog : Catalog.ofSchema engine schema maxDepth = .ok catalog)
    {entity : String} {spec : WellFormedSpec} {query : Query}
    (hquery : catalog.query entity spec = .ok query) (raw : OrderedValue) (value : Value) :
    (query.parse raw).outcome = .ok value ↔
      schema.Conforms engine spec query.relations entity raw ∧
        value = schema.prune spec query.relations entity raw := by
  obtain ⟨hentity, hasked, hdescribes, hvalidators⟩ := Catalog.query_ofSchema hcatalog hquery
  rw [Query.parse, hentity, hasked]
  exact reshapes_reshapeAt hvalidators spec.property hdescribes raw .root value raw.property

/-- A user with the titles and the authors of the posts. -/
def WellFormedSpec.userWithPosts : WellFormedSpec :=
  empty.withRelation "posts" (some ((empty.withFields ["title"]).withRelation "author" none))

/-- What may be fetched for it, with a name that nobody asked for. -/
def Json.Value.fetchedUser : Value :=
  .object [("id", .string "u1"),
    ("posts", .array [.object [("author", .null), ("title", .string "first")]]),
    ("seen", .bool true)]

def Json.Value.reshapedUser : Value :=
  .object [("id", .string "u1"),
    ("posts", .array [.object [("author", .null), ("title", .string "first")]])]

theorem conforms_fetchedUser :
    let spec := WellFormedSpec.userWithPosts
    let query := Query.ofUser spec
    blog.Conforms Pattern.engine spec query.relations "user" .fetchedUser ∧
      .reshapedUser = blog.prune spec query.relations "user" .fetchedUser := by
  have hordered : (Value.fetchedUser).Ordered := by decide
  exact (@Query.parse_eq_ok_iff _ _ _ _ Catalog.ofSchema_blog _ .userWithPosts _
    (Catalog.query_blog _) ⟨.fetchedUser, hordered⟩ .reshapedUser).mp rfl

end QueryShape

import QueryShape.Proofs.Query.Prefix

/-!
# Batches of records

A list of records is reshaped record by record: each as it would be on its own, in order, up to the
first that fails.  The error is that of this record, with its place in the list in front.  The same
holds of a query for a list, and a relation that leads to many records is such a query again, for
the records of the relation.
-/

namespace QueryShape

open Json (Value)

/-- The run of a batch at a path goes by the runs of its items on their own: it succeeds if all of
them do, with their results in order, and otherwise it fails like the first that fails. -/
structure Run.ItemWise (parseItem : Value → Run Value) (path : Path) (items : List Value)
    (run : Run (List Value)) : Prop where
  succeeded : ∀ values, run.outcome = .ok values ↔
    List.Forall₂ (fun item value => (parseItem item).outcome = .ok value) items values
  failed : ∀ error, run.outcome = .error error ↔
    ∃ position item own, items[position]? = some item ∧ (parseItem item).outcome = .error own ∧
      (∀ earlier ∈ items.take position, ∃ value, (parseItem earlier).outcome = .ok value) ∧
      error = own.prefixed (path.child (.index position))

namespace Run

variable {α β : Type}

theorem outcome_prefixed_eq_ok_iff {start : Path} {run : Run α} {value : α} :
    (run.prefixed start).outcome = .ok value ↔ run.outcome = .ok value := by
  obtain ⟨calls, outcome⟩ := run
  cases outcome <;> simp [prefixed, Except.mapError]

theorem outcome_prefixed_eq_error_iff {start : Path} {run : Run α} {error : QueryError} :
    (run.prefixed start).outcome = .error error ↔
      ∃ own, run.outcome = .error own ∧ error = own.prefixed start := by
  obtain ⟨calls, outcome⟩ := run
  cases outcome <;> simp [prefixed, Except.mapError, eq_comm]

theorem outcome_map_eq_error_iff {convert : α → β} {run : Run α} {error : QueryError} :
    (convert <$> run).outcome = .error error ↔ run.outcome = .error error :=
  except_map_eq_error

theorem outcome_bind_eq_error_iff {run : Run α} {next : α → Run β} {error : QueryError} :
    (run >>= next).outcome = .error error ↔
      run.outcome = .error error ∨
        ∃ value, run.outcome = .ok value ∧ (next value).outcome = .error error := by
  obtain ⟨calls, outcome⟩ := run
  cases outcome with
  | ok value => change (next value).outcome = _ ↔ _; simp
  | error own => change Except.error own = _ ↔ _; simp

end Run

section Each

variable {reshapeItem : Value → Path → Run Value} {parseItem : Value → Run Value}
  (hitem : ∀ raw path, reshapeItem raw path = (parseItem raw).prefixed path)
include hitem

theorem outcome_reshapeEach_eq_ok_iff {path : Path} {start : Nat} {items values : List Value} :
    (reshapeEach reshapeItem path start items).outcome = .ok values ↔
      List.Forall₂ (fun item value => (parseItem item).outcome = .ok value) items values := by
  induction items generalizing start values with
  | nil =>
      rw [reshapeEach, Run.outcome_pure, List.forall₂_nil_left_iff, Except.ok.injEq, eq_comm]
  | cons item rest ih =>
      rw [reshapeEach, Run.outcome_bind_eq_ok, List.forall₂_cons_left_iff]
      simp only [Run.outcome_map_eq_ok, hitem, Run.outcome_prefixed_eq_ok_iff, ih]
      constructor
      · rintro ⟨value, hvalue, values, hvalues, rfl⟩
        exact ⟨value, values, hvalue, hvalues, rfl⟩
      · rintro ⟨value, values, hvalue, hvalues, rfl⟩
        exact ⟨value, hvalue, values, hvalues, rfl⟩

theorem outcome_reshapeEach_eq_error_iff {path : Path} {start : Nat} {items : List Value}
    {error : QueryError} :
    (reshapeEach reshapeItem path start items).outcome = .error error ↔
      ∃ position item own, items[position]? = some item ∧
        (parseItem item).outcome = .error own ∧
        (∀ earlier ∈ items.take position, ∃ value, (parseItem earlier).outcome = .ok value) ∧
        error = own.prefixed (path.child (.index (start + position))) := by
  induction items generalizing start with
  | nil => simp [reshapeEach]
  | cons item rest ih =>
      rw [reshapeEach, Run.outcome_bind_eq_error_iff, hitem, Run.outcome_prefixed_eq_error_iff]
      simp only [Run.outcome_map_eq_error_iff, Run.outcome_prefixed_eq_ok_iff, ih]
      constructor
      -- The first item fails, or it succeeds and the failure is further on.
      · rintro (⟨own, hown, rfl⟩ | ⟨value, hvalue, position, failing, own, hget, hown, hearlier,
          rfl⟩)
        · exact ⟨0, item, own, rfl, hown, by simp, rfl⟩
        · refine ⟨position + 1, failing, own, hget, hown, ?_, ?_⟩
          · exact List.forall_mem_cons.mpr ⟨⟨value, hvalue⟩, hearlier⟩
          · rw [Nat.add_right_comm, Nat.add_assoc]
      · rintro ⟨position, failing, own, hget, hown, hearlier, rfl⟩
        cases position with
        | zero =>
            cases hget
            exact Or.inl ⟨own, hown, rfl⟩
        | succ position =>
            obtain ⟨⟨value, hvalue⟩, hearlier⟩ := List.forall_mem_cons.mp hearlier
            refine Or.inr ⟨value, hvalue, position, failing, own, hget, hown, hearlier, ?_⟩
            rw [Nat.add_right_comm, Nat.add_assoc]

/-- Items that are each reshaped with their place in front of the error make a batch. -/
theorem itemWise_reshapeEach (path : Path) (items : List Value) :
    (reshapeEach reshapeItem path 0 items).ItemWise parseItem path items where
  succeeded _ := outcome_reshapeEach_eq_ok_iff hitem
  failed error := by
    rw [outcome_reshapeEach_eq_error_iff hitem]
    simp only [Nat.zero_add]

end Each

/-- The value of a relation to many records is reshaped like the result of a query for a list of
them, with the place of the relation in front of the error. -/
theorem reshapeRelation_many (validators : Validators) (spec : Spec) {relation : Relation}
    (hmany : relation.cardinality = .many) (raw : Value) (path : Path) :
    reshapeRelation (spec.reshapeAt validators relation.nested relation.target) relation raw path =
      Value.array <$>
        (Query.parseList ⟨relation.target, spec, relation.nested, validators⟩ raw).prefixed
          path := by
  unfold reshapeRelation
  rw [hmany]
  cases raw with
  | array items =>
      have happend := reshapeEach_append
        (fun raw => Spec.reshapeAt_append validators spec relation.nested relation.target raw path)
        .root 0 items
      rw [Path.root, List.append_nil] at happend
      exact congrArg (Value.array <$> ·) happend
  | _ =>
      have hroot : Path.root.prefixed path = path := List.append_nil path
      simp only [Query.parseList, Run.prefixed_fail, QueryError.prefixed, hroot]
      rfl

namespace Spec

/-- Batches are reshaped item by item: a list of records at any path, and the result of a query for
a list.  A relation to many records that is asked for at any point of a level is reshaped by the
query for a list of its records. -/
theorem reshape_itemWise (validators : Validators) (relations : RelationMap) (entity : String) :
    (∀ (spec : Spec) (path : Path) (items : List Value),
      (spec.reshapeItems relations validators entity items path).ItemWise
        (spec.reshape relations validators entity) path items) ∧
    (∀ (spec : Spec) (items : List Value),
      let query : Query := ⟨entity, spec, relations, validators⟩
      (query.parseList (.array items)).ItemWise query.parse .root items) ∧
    ∀ (fields : Option (List String)) (before after : List (String × Option Spec)) (name : String)
      (request : Option Spec) (relation : Relation) (entries : Keyed Value) (raw : Value)
      (path : Path), relations.get? name = some relation → relation.cardinality = .many →
        entries.get? name = some raw →
        let spec := Spec.mk fields (before ++ (name, request) :: after)
        let query : Query :=
          ⟨relation.target, request.getD .empty, relation.nested, validators⟩
        spec.reshapeAt validators relations entity (.object entries) path = (do
          let kept ← (if fields.isSome then pure entries
            else validatedEntries validators entity path entries)
          let kept ← reshapeRequests validators before relations entries path kept
          let values ← (query.parseList raw).prefixed (path.child (.field name))
          Value.object <$> reshapeRequests validators after relations entries path
            (kept.insertSorted name (.array values))) := by
  have hitem : ∀ (spec : Spec) (raw : Value) (path : Path),
      spec.reshapeAt validators relations entity raw path =
        (spec.reshape relations validators entity raw).prefixed path := by
    intro spec raw path
    exact reshapeAt_eq_prefixed validators spec relations entity raw path
  refine ⟨?items, ?list, ?relation⟩
  case items =>
    intro spec path items
    exact itemWise_reshapeEach (hitem spec) path items
  case list =>
    intro spec items query
    exact itemWise_reshapeEach (hitem spec) .root items
  case relation =>
    intro fields before after name request relation entries raw path hrelation hmany hraw spec query
    rw [reshapeAt, reshapeRecord_object]
    simp only [reshapeRequests_append, reshapeRequests_followed validators hraw hrelation,
      reshapeRelation_many validators _ hmany, map_bind, bind_map_left]
    rfl

/-- Of two posts the second is refused: on its own, in a list of posts, and as a post of a user. -/
theorem reshape_itemWise_refusedPost :
    let user := Query.ofUser (empty.withRelation "posts" none)
    let refused : Value := .object [("title", .bool true)]
    let items : List Value := [.object [("title", .string "first")], refused]
    let raw : Value := .object [("id", .string "u1"), ("posts", .array items)]
    let own : QueryError := .rejected "post" [.field "title"] (some "title")
      [Column.typeIssue [.field "title"] "string" (.bool true)]
    ∃ relation, user.relations.get? "posts" = some relation ∧ relation.cardinality = .many ∧
      let posts : Query := ⟨relation.target, .empty, relation.nested, user.validators⟩
      (posts.parse refused).outcome = .error own ∧
      (posts.parseList (.array items)).outcome = .error (own.prefixed [.index 1]) ∧
      (user.parse raw).outcome = .error (own.prefixed [.field "posts", .index 1]) := by
  intro user refused items raw own
  refine ⟨_, rfl, rfl, ?_⟩
  intro posts
  have hlist := (reshape_itemWise user.validators posts.relations "post").2.1 .empty items
  have huser := (reshape_itemWise user.validators user.relations "user").2.2 none [] [] "posts" none
    _ [("id", .string "u1"), ("posts", .array items)] (.array items) .root rfl rfl rfl
  have hearlier : ∀ earlier ∈ items.take 1, ∃ value, (posts.parse earlier).outcome = .ok value := by
    intro earlier hmem
    cases List.mem_singleton.mp hmem
    exact ⟨_, rfl⟩
  refine ⟨rfl, (hlist.failed _).mpr ⟨1, refused, own, rfl, rfl, hearlier, rfl⟩, ?_⟩
  exact (congrArg Run.outcome huser).trans rfl

end Spec

end QueryShape

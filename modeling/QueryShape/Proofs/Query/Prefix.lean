import QueryShape.Proofs.Query.Demands

/-!
# Reshaping somewhere else

Reshaping the same data at another place changes nothing but the places of the errors: the same
calls are made, the same result is found, and an error has the path to the new place in front of its
own.  A path put in front of all errors can be carried through every way in which runs are put
together, so this is shown step by step along the code.
-/

namespace QueryShape

open Json (Value)

namespace QueryError

/-- The error with a path in front of its own, if it has one. -/
def prefixed (start : Path) : QueryError → QueryError
  | .invalidShape entity path expected found =>
      .invalidShape entity (path.prefixed start) expected found
  | .rejected entity path field issues => .rejected entity (path.prefixed start) field issues
  | .unknownEntity entity source => .unknownEntity entity source
  | .undecodable entity cause => .undecodable entity cause

theorem prefixed_ofIssues (start : Path) (entity : String) (path : Path) (issues : Issues) :
    (ofIssues entity path issues).prefixed start = .ofIssues entity (start ++ path) issues := by
  cases issues with
  | nil => rfl
  | cons first rest =>
      rw [ofIssues, prefixed, Path.prefixed, Path.prefixed, ← List.append_assoc]
      rfl

end QueryError

namespace Run

variable {α β : Type}

/-- The run with a path in front of that of its error. -/
def prefixed (start : Path) (run : Run α) : Run α where
  calls := run.calls
  outcome := run.outcome.mapError (·.prefixed start)

@[simp]
theorem prefixed_pure (start : Path) (value : α) :
    (pure value : Run α).prefixed start = pure value := rfl

@[simp]
theorem prefixed_fail (start : Path) (error : QueryError) :
    (fail error : Run α).prefixed start = fail (error.prefixed start) := rfl

@[simp]
theorem prefixed_call (start : Path) (entity : String) (argument : Value)
    (outcome : Except QueryError α) :
    (call entity argument outcome).prefixed start =
      call entity argument (outcome.mapError (·.prefixed start)) := rfl

theorem prefixed_map (start : Path) (convert : α → β) (run : Run α) :
    (convert <$> run).prefixed start = convert <$> run.prefixed start := by
  obtain ⟨calls, outcome⟩ := run
  cases outcome <;> rfl

theorem prefixed_bind (start : Path) (run : Run α) (next : α → Run β) :
    (run >>= next).prefixed start =
      (run.prefixed start >>= fun value => (next value).prefixed start) := by
  obtain ⟨calls, outcome⟩ := run
  cases outcome <;> rfl

/-- A path can be put in front at every step of a loop. -/
theorem prefixed_foldlM {start : Path} {items : List α} {step moved : β → α → Run β}
    (hmoved : ∀ item ∈ items, ∀ value, moved value item = (step value item).prefixed start)
    (value : β) : items.foldlM moved value = (items.foldlM step value).prefixed start := by
  induction items generalizing value with
  | nil => rfl
  | cons item rest ih =>
      obtain ⟨hfirst, hrest⟩ := List.forall_mem_cons.mp hmoved
      rw [List.foldlM_cons, List.foldlM_cons, prefixed_bind, hfirst]
      congr 1
      funext next
      exact ih hrest next

end Run

theorem validatedEntries_append (validators : Validators) (entity : String) (start path : Path)
    (entries : Keyed Value) :
    validatedEntries validators entity (start ++ path) entries =
      (validatedEntries validators entity path entries).prefixed start := by
  cases hget : validators.get? entity with
  | none =>
      simp only [validatedEntries, hget]
      rfl
  | some validator =>
      simp only [validatedEntries, hget, Run.prefixed_call]
      congr 1
      cases validator (.object entries) with
      | ok value => cases value <;> rfl
      | error issues => exact congrArg Except.error (QueryError.prefixed_ofIssues ..).symm

section Items

variable {reshapeItem : Value → Path → Run Value} {start : Path}
  (hitem : ∀ raw path, reshapeItem raw (start ++ path) = (reshapeItem raw path).prefixed start)
include hitem

theorem reshapeEach_append (path : Path) (position : Nat) (items : List Value) :
    reshapeEach reshapeItem (start ++ path) position items =
      (reshapeEach reshapeItem path position items).prefixed start := by
  induction items generalizing position with
  | nil => rfl
  | cons item rest ih =>
      have hplace : (start ++ path).child (.index position) =
          start ++ path.child (.index position) := List.append_assoc ..
      rw [reshapeEach, reshapeEach, Run.prefixed_bind, hplace, hitem]
      simp only [Run.prefixed_map, ih]

theorem reshapeRelation_append (relation : Relation) (raw : Value) (path : Path) :
    reshapeRelation reshapeItem relation raw (start ++ path) =
      (reshapeRelation reshapeItem relation raw path).prefixed start := by
  unfold reshapeRelation
  cases relation.cardinality with
  | many =>
      cases raw with
      | array items => rw [Run.prefixed_map, ← reshapeEach_append hitem]
      | _ => rfl
  | one =>
      cases raw with
      | null => cases relation.isNullable <;> rfl
      | _ => exact hitem _ path

end Items

namespace Spec

variable (validators : Validators)

theorem Demand.reshape_append {demand : Demand} {start : Path}
    (hitem : ∀ raw path,
      demand.spec.reshapeAt validators demand.relation.nested demand.relation.target raw
          (start ++ path) =
        (demand.spec.reshapeAt validators demand.relation.nested demand.relation.target raw
          path).prefixed start)
    (entries : Keyed Value) (path : Path) (kept : Keyed Value) :
    demand.reshape validators entries (start ++ path) kept =
      (demand.reshape validators entries path kept).prefixed start := by
  have hplace : (start ++ path).child (.field demand.name) =
      start ++ path.child (.field demand.name) := List.append_assoc ..
  cases hraw : entries.get? demand.name with
  | none => rw [reshape_absent validators hraw, reshape_absent validators hraw, Run.prefixed_pure]
  | some raw =>
      rw [reshape_present validators hraw, reshape_present validators hraw, hplace,
        reshapeRelation_append hitem, Run.prefixed_map]

/-- At a longer path, a record is reshaped with the additional path in front of its error. -/
theorem reshapeAt_append (spec : Spec) (relations : RelationMap) (entity : String) (raw : Value)
    (start path : Path) :
    spec.reshapeAt validators relations entity raw (start ++ path) =
      (spec.reshapeAt validators relations entity raw path).prefixed start := by
  induction spec, relations using demandInduction generalizing entity raw path with
  | mk fields requests relations ih =>
      have hrequests : ∀ entries kept,
          reshapeRequests validators requests relations entries (start ++ path) kept =
            (reshapeRequests validators requests relations entries path kept).prefixed start := by
        intro entries kept
        rw [reshapeRequests_eq, reshapeRequests_eq]
        apply Run.prefixed_foldlM
        intro demand hdemand kept
        apply Demand.reshape_append
        exact ih demand hdemand demand.relation.target
      rw [reshapeAt, reshapeAt]
      cases raw with
      | object entries =>
          have hkept : (if fields.isSome then (pure entries : Run (Keyed Value)) else
              validatedEntries validators entity (start ++ path) entries) =
              (if fields.isSome then pure entries else
                validatedEntries validators entity path entries).prefixed start := by
            cases fields with
            | none => exact validatedEntries_append ..
            | some names => rfl
          rw [reshapeRecord_object, reshapeRecord_object, hkept, Run.prefixed_bind]
          simp only [hrequests, Run.prefixed_map]
      | _ => rfl

/-- A record is reshaped at a path as it is on its own, with the path in front of its error. -/
theorem reshapeAt_eq_prefixed (spec : Spec) (relations : RelationMap) (entity : String)
    (raw : Value) (path : Path) :
    spec.reshapeAt validators relations entity raw path =
      (spec.reshape relations validators entity raw).prefixed path := by
  have happend := reshapeAt_append validators spec relations entity raw path .root
  rwa [Path.root, List.append_nil] at happend

end Spec

end QueryShape

import QueryShape.Proofs.Place
import QueryShape.Proofs.Query.Reshape

/-!
# The steps of a traversal

What reshaping does is a list of steps, written down without regard to how they end: the shape of
each value that is reached, the validator of each object whose level names no fields, and the shape
of each relation that is followed, in the order in which they are met.  Reshaping makes these steps
one after the other up to the first that fails.  The calls of validators are those of the steps that
were made, the error is that of the step that failed, and there is a result exactly if none did.
-/

namespace QueryShape

open Json (Value)

/-- One check in a traversal, of what is found at a path. -/
inductive Step where
  /-- What is reached for an entity has to be an object. -/
  | shape (entity : String) (path : Path) (raw : Value)
  /-- An object is validated for an entity, as it is found. -/
  | validation (entity : String) (path : Path) (entries : Keyed Value)
  /-- What is found under the name of a relation has to be `null` only where that is allowed, and a
  list where it leads to many records. -/
  | following (relation : Relation) (path : Path) (raw : Value)

namespace Step

variable (validators : Validators)

/-- The error that the step ends with, if it fails. -/
def failure? : Step → Option QueryError
  | shape _ _ (.object _) => none
  | shape entity path raw => some (.invalidShape entity path .object raw.typeName)
  | validation entity path entries =>
      match validators.get? entity with
      | none => some (.unknownEntity entity .validators)
      | some validator =>
          match validator (.object entries) with
          | .ok (.object _) => none
          | .ok other => some (.invalidShape entity path .object other.typeName)
          | .error issues => some (.ofIssues entity path issues)
  | following relation path raw =>
      match raw, relation.cardinality with
      | .null, .one =>
          if relation.isNullable then none
          else some (.invalidShape relation.target path .object raw.typeName)
      | .array _, .many => none
      | raw, .many => some (.invalidShape relation.target path .array raw.typeName)
      | _, .one => none

@[simp]
theorem failure?_shape_object (entity : String) (path : Path) (entries : Keyed Value) :
    (shape entity path (.object entries)).failure? validators = none := rfl

/-- The calls that the step makes: a validation calls the validator of its entity, if there is
one. -/
def calls : Step → List Call
  | validation entity _ entries =>
      if validators.contains entity then [{ entity, argument := .object entries }] else []
  | _ => []

/-- The step on its own, as a run without a result. -/
def run (step : Step) : Run Unit where
  calls := step.calls validators
  outcome := match step.failure? validators with
    | none => .ok ()
    | some error => .error error

/-- The steps up to and including the first one that fails. -/
def untilFailure (steps : List Step) : List Step :=
  steps.take (steps.findIdx (fun step => (step.failure? validators).isSome) + 1)

end Step

/-! ## The list of steps -/

/-- The items of a list, each with its place. -/
def placedItems (items : List Value) : List (Path × Value) :=
  items.zipIdx.map fun entry => ([.index entry.2], entry.1)

namespace Relation

/-- The records in the value of a relation, each with its place in the value. -/
def placedRecords (relation : Relation) (raw : Value) : List (Path × Value) :=
  match relation.cardinality, raw with
  | .many, .array items => placedItems items
  | .many, _ => []
  | .one, .null => []
  | .one, raw => [([], raw)]

/-- The steps for the value of a relation: its own shape, and then those for its records. -/
def stepsWith (recordSteps : Value → Path → List Step) (relation : Relation) (raw : Value)
    (path : Path) : List Step :=
  .following relation path raw ::
    (relation.placedRecords raw).flatMap fun (place, record) => recordSteps record (path ++ place)

end Relation

namespace Spec

/-- The steps for a record, given those for the relations that are followed in it. -/
def stepsOfRecord (fields : Option (List String)) (entity : String)
    (requestSteps : Keyed Value → Path → List Step) (raw : Value) (path : Path) : List Step :=
  .shape entity path raw ::
    match raw with
    | .object entries =>
        (if fields.isSome then [] else [.validation entity path entries]) ++
          requestSteps entries path
    | _ => []

mutual

/-- The steps for a record of an entity, along a specification. -/
def steps : Spec → RelationMap → String → Value → Path → List Step
  | .mk fields requests, relations, entity, raw, path =>
      stepsOfRecord fields entity (stepsOfRequests requests relations) raw path

/-- The steps for the relations that are asked for, of those that the object and its entity have. -/
def stepsOfRequests :
    List (String × Option Spec) → RelationMap → Keyed Value → Path → List Step
  | [], _, _, _ => []
  | (name, request) :: rest, relations, entries, path =>
      (match entries.get? name, relations.get? name with
        | some raw, some relation =>
            relation.stepsWith
              (match request with
                | none => stepsOfRecord none relation.target fun _ _ => []
                | some spec => spec.steps relation.nested relation.target)
              raw (path.child (.field name))
        | _, _ => []) ++
        stepsOfRequests rest relations entries path

end

/-- The steps for the records of a list at a path, one record after the other. -/
def stepsOfItems (spec : Spec) (relations : RelationMap) (entity : String) (items : List Value)
    (path : Path) : List Step :=
  (placedItems items).flatMap fun (place, item) => spec.steps relations entity item (path ++ place)

/-- Asking for a relation whole asks for nothing in particular of its records. -/
theorem steps_empty (relations : RelationMap) (entity : String) :
    empty.steps relations entity = stepsOfRecord none entity fun _ _ => [] := by
  funext raw path
  rw [empty, steps]
  congr 1

/-- The steps for the value of a relation that is asked for, if the object and its entity have
it. -/
def stepsOfRequest (relations : RelationMap) (entries : Keyed Value) (path : Path) (name : String)
    (request : Option Spec) : List Step :=
  match entries.get? name, relations.get? name with
  | some raw, some relation =>
      relation.stepsWith ((request.getD .empty).steps relation.nested relation.target) raw
        (path.child (.field name))
  | _, _ => []

theorem stepsOfRequests_cons (name : String) (request : Option Spec)
    (rest : List (String × Option Spec)) (relations : RelationMap) (entries : Keyed Value)
    (path : Path) :
    stepsOfRequests ((name, request) :: rest) relations entries path =
      stepsOfRequest relations entries path name request ++
        stepsOfRequests rest relations entries path := by
  rw [stepsOfRequests]
  congr 1
  unfold stepsOfRequest
  cases request with
  | none => simp only [Option.getD_none, steps_empty]
  | some spec => rfl

theorem stepsOfRequest_followed {relations : RelationMap} {entries : Keyed Value} {path : Path}
    {name : String} {request : Option Spec} {raw : Value} {relation : Relation}
    (hraw : entries.get? name = some raw) (hrelation : relations.get? name = some relation) :
    stepsOfRequest relations entries path name request =
      relation.stepsWith ((request.getD .empty).steps relation.nested relation.target) raw
        (path.child (.field name)) := by
  unfold stepsOfRequest
  simp only [hraw, hrelation]

theorem stepsOfRequest_skipped {relations : RelationMap} {entries : Keyed Value} {path : Path}
    {name : String} {request : Option Spec}
    (hskip : entries.get? name = none ∨ relations.get? name = none) :
    stepsOfRequest relations entries path name request = [] := by
  unfold stepsOfRequest
  rcases hskip with hraw | hrelation
  · simp only [hraw]
  · cases entries.get? name <;> simp only [hrelation]

/-- What is asked for is followed in an object, or it is skipped. -/
theorem present_or_skipped (relations : RelationMap) (entries : Keyed Value) (name : String) :
    (∃ raw relation, entries.get? name = some raw ∧ relations.get? name = some relation) ∨
      (entries.get? name = none ∨ relations.get? name = none) := by
  cases entries.get? name with
  | none => exact Or.inr (Or.inl rfl)
  | some raw =>
      cases relations.get? name with
      | none => exact Or.inr (Or.inr rfl)
      | some relation => exact Or.inl ⟨raw, relation, rfl, rfl⟩

end Spec

/-! ## Making the steps -/

namespace Step

variable (validators : Validators)

/-- The steps one after the other, up to the first that fails. -/
def runAll : List Step → Run Unit
  | [] => pure ()
  | step :: rest => step.run validators >>= fun _ => runAll rest

@[simp]
theorem runAll_nil : runAll validators [] = pure () := rfl

theorem runAll_cons (step : Step) (rest : List Step) :
    runAll validators (step :: rest) = (step.run validators >>= fun _ => runAll validators rest) :=
  rfl

theorem runAll_append (first second : List Step) :
    runAll validators (first ++ second) =
      (runAll validators first >>= fun _ => runAll validators second) := by
  induction first with
  | nil => simp
  | cons step rest ih => rw [List.cons_append, runAll_cons, runAll_cons, ih, bind_assoc]

variable {validators}

theorem run_of_passed {step : Step} (hpassed : step.failure? validators = none) :
    step.run validators = { calls := step.calls validators, outcome := .ok () } := by
  rw [run, hpassed]

theorem run_of_failed {step : Step} {error : QueryError}
    (hfailed : step.failure? validators = some error) :
    step.run validators = { calls := step.calls validators, outcome := .error error } := by
  rw [run, hfailed]

end Step

namespace Run

variable {α β : Type}

/-- The run without its result. -/
def forget (run : Run α) : Run Unit :=
  (fun _ => ()) <$> run

@[simp]
theorem forget_pure (value : α) : (pure value : Run α).forget = pure () := rfl

@[simp]
theorem forget_fail (error : QueryError) : (fail error : Run α).forget = fail error := rfl

@[simp]
theorem fail_bind (error : QueryError) (next : α → Run β) :
    (fail error >>= next) = fail error := rfl

@[simp]
theorem forget_map (convert : α → β) (run : Run α) : (convert <$> run).forget = run.forget :=
  (comp_map convert (fun _ => ()) run).symm

/-- If what comes next does the same for every result, it may as well not be given any. -/
theorem forget_bind {run : Run α} {next : α → Run β} {rest : Run Unit}
    (hnext : ∀ value, (next value).forget = rest) :
    (run >>= next).forget = (run.forget >>= fun _ => rest) := by
  unfold forget at hnext ⊢
  rw [map_bind, bind_map_left]
  congr 1
  funext value
  exact hnext value

end Run

section Making

variable (validators : Validators)

theorem forget_reshapeEach {reshapeItem : Value → Path → Run Value}
    {itemSteps : Value → Path → List Step}
    (hitem : ∀ raw path,
      (reshapeItem raw path).forget = Step.runAll validators (itemSteps raw path))
    (path : Path) (position : Nat) (items : List Value) :
    (reshapeEach reshapeItem path position items).forget =
      Step.runAll validators ((items.zipIdx position).flatMap fun entry =>
        itemSteps entry.1 (path.child (.index entry.2))) := by
  induction items generalizing position with
  | nil => rfl
  | cons item rest ih =>
      rw [reshapeEach, List.zipIdx_cons, List.flatMap_cons, Step.runAll_append, ← ih, ← hitem]
      apply Run.forget_bind
      intro value
      rw [Run.forget_map]

/-- The value of a relation is reshaped by the steps for its shape and for its records. -/
theorem forget_reshapeRelation {reshapeItem : Value → Path → Run Value}
    {itemSteps : Value → Path → List Step}
    (hitem : ∀ raw path,
      (reshapeItem raw path).forget = Step.runAll validators (itemSteps raw path))
    (relation : Relation) (raw : Value) (path : Path) :
    (reshapeRelation reshapeItem relation raw path).forget =
      Step.runAll validators (relation.stepsWith itemSteps raw path) := by
  rw [Relation.stepsWith, Step.runAll_cons]
  cases hfailure : (Step.following relation path raw).failure? validators with
  | some error =>
      have hrun : (Step.following relation path raw).run validators = .fail error :=
        Step.run_of_failed hfailure
      rw [hrun, Run.fail_bind]
      unfold Step.failure? at hfailure
      unfold reshapeRelation
      cases hcardinality : relation.cardinality <;> cases raw <;> simp_all
  | none =>
      have hrun : (Step.following relation path raw).run validators = pure () :=
        Step.run_of_passed hfailure
      rw [hrun, pure_bind]
      unfold Step.failure? at hfailure
      unfold reshapeRelation Relation.placedRecords
      cases hcardinality : relation.cardinality with
      | many =>
          cases raw with
          | array items =>
              have heach := forget_reshapeEach validators hitem path 0 items
              simpa [placedItems, List.flatMap_map, Path.child] using heach
          | _ => simp [hcardinality] at hfailure
      | one => cases raw <;> simp_all

theorem forget_validatedEntries (entity : String) (path : Path) (entries : Keyed Value) :
    (validatedEntries validators entity path entries).forget =
      (Step.validation entity path entries).run validators := by
  rw [validatedEntries, Step.run, Step.calls, Step.failure?, Keyed.contains]
  cases hget : validators.get? entity with
  | none => rfl
  | some validator =>
      cases hvalidator : validator (.object entries) with
      | error issues =>
          simp [hvalidator]
          rfl
      | ok value => cases value <;> simp [hvalidator] <;> rfl

namespace Spec

variable {requests : List (String × Option Spec)} {relations : RelationMap}

theorem forget_reshapeRequests
    (hnested : ∀ name request relation, (name, request) ∈ requests →
      relations.get? name = some relation → ∀ raw path,
        ((request.getD .empty).reshapeAt validators relation.nested relation.target raw
            path).forget =
          Step.runAll validators
            ((request.getD .empty).steps relation.nested relation.target raw path))
    (entries : Keyed Value) (path : Path) (kept : Keyed Value) :
    (reshapeRequests validators requests relations entries path kept).forget =
      Step.runAll validators (stepsOfRequests requests relations entries path) := by
  induction requests generalizing kept with
  | nil => rw [reshapeRequests, stepsOfRequests, Run.forget_pure, Step.runAll_nil]
  | cons first rest ih =>
      obtain ⟨name, request⟩ := first
      have hfirst := hnested name request
      have hrest := ih fun other again relation hmem =>
        hnested other again relation (List.mem_cons_of_mem _ hmem)
      rw [stepsOfRequests_cons, Step.runAll_append]
      rcases present_or_skipped relations entries name with
        ⟨raw, relation, hraw, hrelation⟩ | hskip
      · have hitem := hfirst relation List.mem_cons_self hrelation
        rw [reshapeRequests_followed validators hraw hrelation,
          stepsOfRequest_followed hraw hrelation,
          ← forget_reshapeRelation validators hitem]
        apply Run.forget_bind
        intro value
        exact hrest _
      · rw [reshapeRequests_skipped validators hskip, stepsOfRequest_skipped hskip,
          Step.runAll_nil, pure_bind, hrest]

/-- Reshaping makes the steps one after the other. -/
theorem forget_reshapeAt (spec : Spec) (relations : RelationMap) (entity : String) (raw : Value)
    (path : Path) :
    (spec.reshapeAt validators relations entity raw path).forget =
      Step.runAll validators (spec.steps relations entity raw path) := by
  induction spec using Spec.induction generalizing relations entity raw path with
  | mk fields requests ih =>
      rw [steps, reshapeAt]
      cases raw with
      | object entries =>
          have hrequests : ∀ kept,
              (reshapeRequests validators requests relations entries path kept).forget =
                Step.runAll validators (stepsOfRequests requests relations entries path) := by
            apply forget_reshapeRequests validators
            intro name request relation hmem _
            exact ih name request hmem relation.nested relation.target
          have hshape : (Step.shape entity path (.object entries)).run validators = pure () := rfl
          rw [stepsOfRecord, Step.runAll_cons, hshape, pure_bind, Step.runAll_append,
            reshapeRecord_object]
          rw [Run.forget_bind fun kept => (Run.forget_map _ _).trans (hrequests kept)]
          congr 1
          cases fields with
          | none =>
              have hvalidation := forget_validatedEntries validators entity path entries
              simpa [Step.runAll_cons] using hvalidation
          | some names => rfl
      | _ => rfl

end Spec

end Making

end QueryShape

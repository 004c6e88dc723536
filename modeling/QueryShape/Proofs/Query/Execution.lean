import QueryShape.Proofs.Query.Visits

/-!
# How far a traversal gets

A run that makes a list of steps stops with the first that fails.  So its calls are those of the
steps up to that one, its error is that of that step, and it has a result exactly if no step fails.
Reshaping is such a run, for one record and for a list of them, and whatever it hands to a validator
is an object of the raw data in its raw form, found where a level names no fields.
-/

namespace QueryShape

open Json (Value)

namespace Step

variable {validators : Validators}

theorem untilFailure_cons_of_passed {step : Step} (hpassed : step.failure? validators = none)
    (rest : List Step) :
    untilFailure validators (step :: rest) = step :: untilFailure validators rest := by
  simp [untilFailure, List.findIdx_cons, hpassed]

theorem untilFailure_cons_of_failed {step : Step} {error : QueryError}
    (hfailed : step.failure? validators = some error) (rest : List Step) :
    untilFailure validators (step :: rest) = [step] := by
  simp [untilFailure, List.findIdx_cons, hfailed]

theorem mem_of_mem_untilFailure {step : Step} {steps : List Step}
    (hstep : step ∈ untilFailure validators steps) : step ∈ steps :=
  List.mem_of_mem_take hstep

theorem calls_runAll (steps : List Step) :
    (runAll validators steps).calls =
      (untilFailure validators steps).flatMap (calls validators) := by
  induction steps with
  | nil => rfl
  | cons step rest ih =>
      cases hfailure : step.failure? validators with
      | none =>
          rw [untilFailure_cons_of_passed hfailure, List.flatMap_cons, ← ih, runAll_cons,
            run_of_passed hfailure]
          rfl
      | some error =>
          rw [untilFailure_cons_of_failed hfailure, List.flatMap_singleton, runAll_cons,
            run_of_failed hfailure]
          rfl

theorem outcome_runAll (steps : List Step) :
    (runAll validators steps).outcome =
      match steps.findSome? (failure? validators) with
      | none => .ok ()
      | some error => .error error := by
  induction steps with
  | nil => rfl
  | cons step rest ih =>
      rw [List.findSome?_cons, runAll_cons]
      cases hfailure : step.failure? validators with
      | none =>
          rw [run_of_passed hfailure]
          exact ih
      | some error =>
          rw [run_of_failed hfailure]
          rfl

end Step

/-- A run executes a list of steps if it makes them in order, up to and including the first that
fails: it makes their calls, it ends with the error of that step, and it has a result if there is no
such step. -/
structure Run.Executes {α : Type} (validators : Validators) (steps : List Step) (run : Run α) :
    Prop where
  calls : run.calls = (Step.untilFailure validators steps).flatMap (Step.calls validators)
  failed : ∀ error, run.outcome = .error error ↔
    steps.findSome? (Step.failure? validators) = some error
  succeeded : (∃ value, run.outcome = .ok value) ↔
    ∀ step ∈ steps, step.failure? validators = none

namespace Run.Executes

variable {α : Type} {validators : Validators} {steps : List Step} {run : Run α}

theorem of_forget (hforget : run.forget = Step.runAll validators steps) :
    run.Executes validators steps := by
  have hcalls : run.calls = (Step.runAll validators steps).calls := congrArg Run.calls hforget
  have houtcome : ((fun _ => ()) <$> run.outcome) = (Step.runAll validators steps).outcome :=
    congrArg Run.outcome hforget
  rw [Step.calls_runAll] at hcalls
  rw [Step.outcome_runAll] at houtcome
  cases hfirst : steps.findSome? (Step.failure? validators) with
  | none =>
      rw [hfirst] at houtcome
      obtain ⟨value, hvalue, -⟩ := except_map_eq_ok.mp houtcome
      have hpassed := List.findSome?_eq_none_iff.mp hfirst
      refine ⟨hcalls, ?_, ?_⟩
      · simp [hvalue, hfirst]
      · exact ⟨fun _ => hpassed, fun _ => ⟨value, hvalue⟩⟩
  | some error =>
      rw [hfirst] at houtcome
      have herror := except_map_eq_error.mp houtcome
      have hfailed : ¬ ∀ step ∈ steps, step.failure? validators = none := by
        rw [← List.findSome?_eq_none_iff, hfirst]
        exact nofun
      refine ⟨hcalls, ?_, ?_⟩
      · simp [herror, hfirst]
      · simp [herror, hfailed]

/-- The error of a run is that of one of its steps. -/
theorem exists_step_of_error (hexecutes : run.Executes validators steps) {error : QueryError}
    (herror : run.outcome = .error error) :
    ∃ step ∈ steps, step.failure? validators = some error :=
  List.exists_of_findSome?_eq_some ((hexecutes.failed error).mp herror)

/-- A call of a run is made by one of its steps. -/
theorem exists_step_of_call (hexecutes : run.Executes validators steps) {call : Call}
    (hcall : call ∈ run.calls) : ∃ step ∈ steps, call ∈ step.calls validators := by
  rw [hexecutes.calls] at hcall
  obtain ⟨step, hstep, hmade⟩ := List.mem_flatMap.mp hcall
  exact ⟨step, Step.mem_of_mem_untilFailure hstep, hmade⟩

end Run.Executes

namespace Spec

/-- A record is reshaped by making its steps. -/
theorem executes_reshapeAt (spec : Spec) (relations : RelationMap) (validators : Validators)
    (entity : String) (raw : Value) (path : Path) :
    (spec.reshapeAt validators relations entity raw path).Executes validators
      (spec.steps relations entity raw path) :=
  .of_forget (forget_reshapeAt validators spec relations entity raw path)

/-- A list of records is reshaped by making the steps of its items. -/
theorem executes_reshapeItems (spec : Spec) (relations : RelationMap) (validators : Validators)
    (entity : String) (items : List Value) (path : Path) :
    (spec.reshapeItems relations validators entity items path).Executes validators
      (spec.stepsOfItems relations entity items path) := by
  apply Run.Executes.of_forget
  have heach := forget_reshapeEach validators
    (forget_reshapeAt validators spec relations entity) path 0 items
  simpa [reshapeItems, stepsOfItems, placedItems, List.flatMap_map, Path.child] using heach

/-- What is handed to a validator is an object of the raw data, visited for the entity of the
validator at a level that names no fields. -/
theorem visit_of_call {spec : Spec} {relations : RelationMap} {validators : Validators}
    {entity : String} {raw : Value} {call : Call}
    (hcall : call ∈ (spec.reshape relations validators entity raw).calls) :
    ∃ place visit, Visit.Reaches ⟨spec, relations, entity, raw⟩ place visit ∧
      visit.spec.isNarrowed = false ∧ call = { entity := visit.entity, argument := visit.raw } := by
  obtain ⟨step, hstep, hmade⟩ :=
    (executes_reshapeAt spec relations validators entity raw .root).exists_step_of_call hcall
  obtain ⟨place, visit, hreaches, htakes⟩ := exists_visit_of_mem_steps hstep
  refine ⟨place, visit, hreaches, ?_⟩
  cases htakes with
  | shape => simp [Step.calls] at hmade
  | following => simp [Step.calls] at hmade
  | validation hobject hwhole =>
      rw [Step.calls] at hmade
      split at hmade
      · rw [hobject]
        exact ⟨hwhole, List.mem_singleton.mp hmade⟩
      · simp at hmade

/-- Reshaping executes the steps of the traversal, for a record and for a list of records.  The
argument of every call is an object as it is found in the raw data, at the place of a visit whose
level names no fields. -/
theorem reshape_executes (spec : Spec) (relations : RelationMap) (validators : Validators)
    (entity : String) (raw : Value) :
    (spec.reshape relations validators entity raw).Executes validators
        (spec.steps relations entity raw .root) ∧
      (∀ call ∈ (spec.reshape relations validators entity raw).calls,
        ∃ place visit, Visit.Reaches ⟨spec, relations, entity, raw⟩ place visit ∧
          visit.spec.isNarrowed = false ∧ visit.entity = call.entity ∧
          raw.at? place = some call.argument) ∧
      ∀ items path, (spec.reshapeItems relations validators entity items path).Executes validators
        (spec.stepsOfItems relations entity items path) := by
  refine ⟨executes_reshapeAt spec relations validators entity raw .root, ?_,
    executes_reshapeItems spec relations validators entity⟩
  intro call hcall
  obtain ⟨place, visit, hreaches, hwhole, rfl⟩ := visit_of_call hcall
  exact ⟨place, visit, hreaches, hwhole, rfl, hreaches.at?⟩

/-- Of three posts the second is refused: the user and two posts are validated, and the third post
is not. -/
theorem reshape_executes_upToRefusedPost :
    let query := Query.ofUser (Spec.empty.withRelation "posts" none)
    let refused : Value := .object [("title", .bool true)]
    let raw : Value := .object [("id", .string "u1"),
      ("posts", .array [.object [("title", .string "first")], refused, refused])]
    let run := query.spec.reshape query.relations query.validators query.entity raw
    run.calls = [⟨"user", raw⟩, ⟨"post", .object [("title", .string "first")]⟩, ⟨"post", refused⟩] ∧
      (Step.untilFailure query.validators
        (query.spec.steps query.relations query.entity raw .root)).flatMap
          (Step.calls query.validators) = run.calls ∧
      ∃ error, run.outcome = .error error ∧
        error.path? = some [.field "posts", .index 1, .field "title"] ∧
        (query.spec.steps query.relations query.entity raw .root).findSome?
          (Step.failure? query.validators) = some error := by
  intro query refused raw run
  have hexecutes := (reshape_executes query.spec query.relations query.validators query.entity
    raw).1
  exact ⟨rfl, hexecutes.calls.symm, _, rfl, rfl, (hexecutes.failed _).mp rfl⟩

end Spec

end QueryShape

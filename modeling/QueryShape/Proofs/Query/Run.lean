import QueryShape.Proofs.Attempt
import QueryShape.Query.Run

/-!
# Outcomes of runs

How a run ends, for each way in which runs are put together.  A run of two parts succeeds exactly
if the first part gives a value with which the second one succeeds, whatever calls are made.
-/

namespace QueryShape.Run

variable {α β : Type}

@[simp]
theorem outcome_pure (value : α) : (pure value : Run α).outcome = .ok value := rfl

@[simp]
theorem outcome_fail (error : QueryError) : (fail error : Run α).outcome = .error error := rfl

@[simp]
theorem outcome_call (entity : String) (argument : Json.Value) (outcome : Except QueryError α) :
    (call entity argument outcome).outcome = outcome := rfl

/-- Runs one after the other make their calls one after the other. -/
instance : LawfulMonad Run := by
  refine LawfulMonad.mk' Run ?id_map ?pure_bind ?bind_assoc (by intros; rfl) (by intros; rfl)
    (by intros; rfl) ?bind_pure_comp (by intros; rfl)
  case id_map =>
    rintro α ⟨calls, outcome⟩
    cases outcome <;> rfl
  case pure_bind =>
    intros
    rfl
  case bind_assoc =>
    rintro α β γ ⟨calls, outcome⟩ next last
    cases outcome with
    | error error => rfl
    | ok value =>
        change andThen (andThen _ next) last = andThen _ fun value => andThen (next value) last
        cases hnext : (next value).outcome <;> simp [andThen, hnext]
  case bind_pure_comp =>
    rintro α β convert ⟨calls, outcome⟩
    cases outcome with
    | error error => rfl
    | ok value =>
        change Run.mk (calls ++ []) _ = Run.mk calls _
        rw [List.append_nil]
        rfl

theorem outcome_map_eq_ok {convert : α → β} {run : Run α} {result : β} :
    (convert <$> run).outcome = .ok result ↔
      ∃ value, run.outcome = .ok value ∧ convert value = result := by
  change (convert <$> run.outcome) = .ok result ↔ _
  exact except_map_eq_ok

theorem outcome_bind_eq_ok {run : Run α} {next : α → Run β} {result : β} :
    (run >>= next).outcome = .ok result ↔
      ∃ value, run.outcome = .ok value ∧ (next value).outcome = .ok result := by
  change (andThen run next).outcome = .ok result ↔ _
  unfold andThen
  cases run.outcome with
  | error error => simp
  | ok value => simp

/-! ## Results -/

/-- The result of a run, if it has one. -/
def value? (run : Run α) : Option α :=
  run.outcome.toOption

theorem value?_eq_some_iff {run : Run α} {value : α} :
    run.value? = some value ↔ run.outcome = .ok value := by
  unfold value?
  cases run.outcome <;> simp [Except.toOption]

@[simp]
theorem value?_pure (value : α) : (pure value : Run α).value? = some value := rfl

@[simp]
theorem value?_map (convert : α → β) (run : Run α) :
    (convert <$> run).value? = run.value?.map convert := by
  obtain ⟨calls, outcome⟩ := run
  cases outcome <;> rfl

@[simp]
theorem value?_bind (run : Run α) (next : α → Run β) :
    (run >>= next).value? = run.value?.bind fun value => (next value).value? := by
  obtain ⟨calls, outcome⟩ := run
  cases outcome <;> rfl

theorem value?_foldlM (step : β → α → Run β) (items : List α) (value : β) :
    (items.foldlM step value).value? = items.foldlM (fun value item => (step value item).value?)
      value := by
  induction items generalizing value with
  | nil => rfl
  | cons item rest ih =>
      rw [List.foldlM_cons, List.foldlM_cons, value?_bind]
      congr 1
      funext next
      exact ih next

end QueryShape.Run

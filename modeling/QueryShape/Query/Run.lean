import QueryShape.Json.Value
import QueryShape.Query.Failure

/-!
# Runs that call validators

A `Run` is a computation together with the calls that it makes to validators.  The first failure
ends it: nothing after a failure is computed, and no call is made any more.
-/

namespace QueryShape

/-- The entity whose validator is called, and the value that it is called with. -/
structure Call where
  entity : String
  argument : Json.Value

/-- What a computation calls, in order, and how it ends. -/
structure Run (α : Type) where
  calls : List Call
  outcome : Except QueryError α

namespace Run

variable {α β : Type}

def succeed (value : α) : Run α where
  calls := []
  outcome := .ok value

def fail (error : QueryError) : Run α where
  calls := []
  outcome := .error error

/-- One call and how it ends. -/
def call (entity : String) (argument : Json.Value) (outcome : Except QueryError α) : Run α where
  calls := [{ entity, argument }]
  outcome := outcome

/-- The same calls, with another result. -/
def map (convert : α → β) (run : Run α) : Run β where
  calls := run.calls
  outcome := convert <$> run.outcome

/-- Goes on with the result, unless there is none. -/
def andThen (run : Run α) (next : α → Run β) : Run β :=
  match run.outcome with
  | .ok value =>
      let rest := next value
      { calls := run.calls ++ rest.calls, outcome := rest.outcome }
  | .error error => { calls := run.calls, outcome := .error error }

instance : Monad Run where
  map := map
  pure := succeed
  bind := andThen

end Run

end QueryShape

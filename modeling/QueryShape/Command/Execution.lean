import QueryShape.Command.Invocation
import QueryShape.Json.Ordered
import QueryShape.Query.Catalog
import QueryShape.Query.Selection.Wire
import QueryShape.Query.Spec.Wire
import QueryShape.Relation.Wire
import QueryShape.Schema.Wire

/-!
# Carrying out invocations

A command reads a schema and answers with text on standard output and standard error and an exit
code; or it fails because of what it reads, and then writes nothing.  JSON is written over several
lines, with the names of every object in increasing order.
-/

namespace QueryShape.Command

open Json (Document OrderedValue Value)

/-- What a command leaves behind. -/
structure Report where
  exitCode : Nat
  output : String := ""
  errors : String := ""
deriving DecidableEq, Repr

inductive CommandError where
  | schema (error : SchemaError)
  | query (error : QueryError)
  /-- The specification or the input is not what it should be. -/
  | misread (error : Json.ReadError)
  /-- The input cannot be read, for the given reason. -/
  | unreadable (reason : String)
deriving DecidableEq, Repr

/-- The files that a command may read, each a text or the reason why there is none, and what stands
on standard input. -/
structure Sources where
  file : String → Except String String
  standardInput : String

def programName : String := "relshape"

def programVersion : String := "0.1.0"

/-- Whether a path stands for standard input: a dash, of which slashes make nothing else. -/
def isStandardInput (path : String) : Bool :=
  match path.toList with
  | '-' :: rest => staysInPlace rest
  | _ => false
where
  staysInPlace : List Char → Bool
    | [] => true
    | ['/', '.'] => true
    | '/' :: '.' :: '/' :: rest => staysInPlace ('/' :: rest)
    | '/' :: rest => staysInPlace rest
    | _ => false

/-- The lines of a diagnostic. -/
def diagnosticLines (diagnostic : Diagnostic) : String :=
  diagnostic.severity.text ++ "[" ++ diagnostic.code ++ "] " ++ diagnostic.location.text ++ " " ++
    diagnostic.title ++ "\n" ++ (match diagnostic.message with
      | some message => "      " ++ message ++ "\n"
      | none => "")

def checkReport (engine : PatternEngine) (path : String) (schema : Schema) (strict quiet : Bool) :
    Report :=
  let diagnostics := schema.check engine
  let lines := String.join (diagnostics.map diagnosticLines)
  let problems := if strict then diagnostics.length else diagnostics.errors.length
  if 0 < problems then
    { exitCode := 1, errors := lines ++ s!"Error: {problems} problem(s) in {path}\n" }
  else if quiet then
    { exitCode := 0, errors := lines }
  else
    { exitCode := 0, output := s!"Success: {schema.models.length} model(s) checked\n",
      errors := lines }

/-- Prints a document with its names in order. -/
def printed (exitCode : Nat) (document : Document) : Report where
  exitCode := exitCode
  output := document.toValue.toDocument.indentedText ++ "\n"

def readSchema (sources : Sources) (path : String) : Except CommandError Schema :=
  match sources.file path with
  | .error reason => .error (.schema (.unreadable path reason))
  | .ok text => (Schema.ofText text).mapError (.schema ∘ .misread)

/-- A schema without errors. -/
def readValidSchema (engine : PatternEngine) (sources : Sources) (path : String) :
    Except CommandError Schema := do
  ((← readSchema sources path).validated engine).mapError .schema

/-- The query for an entity of a schema. -/
def readQuery (engine : PatternEngine) (sources : Sources) (schema entity spec : String)
    (maxDepth : Nat) : Except CommandError Query := do
  let schema ← readValidSchema engine sources schema
  let spec ← (WellFormedSpec.ofText spec).mapError .misread
  let catalog ← (Catalog.ofSchema engine schema maxDepth).mapError .schema
  (catalog.query entity spec).mapError .query

def readInput (sources : Sources) (path : String) : Except CommandError OrderedValue := do
  let text ← if isStandardInput path then pure sources.standardInput
    else (sources.file path).mapError .unreadable
  (OrderedValue.ofText text).mapError .misread

/-- The outcome of a run as a document, with exit code `1` for a failure. -/
def answered {α : Type} (write : α → Document) (outcome : Except QueryError α) : Report :=
  printed (if outcome.isOk then 0 else 1) (Query.answer write outcome)

def graphReport (graph : RelationGraph) : Option String → Report
  | none => printed 0 graph.toDocument
  | some entity =>
      match graph.get? entity with
      | some relations => printed 0 relations.val.toDocument
      | none => { exitCode := 1, errors := s!"Error: unknown entity `{entity}`\n" }

/-- Carries out an invocation. -/
def Invocation.run (engine : PatternEngine) (invocation : Invocation) (sources : Sources) :
    Except CommandError Report :=
  match invocation.task with
  | .check path strict => do
      let schema ← readSchema sources path
      return checkReport engine path schema strict invocation.quiet
  | .graph path entity maxDepth => do
      let schema ← readValidSchema engine sources path
      return graphReport (schema.relationGraph maxDepth) entity
  | .compile path entity spec maxDepth => do
      let query ← readQuery engine sources path entity spec maxDepth
      return printed 0 query.selection.toValue.toDocument
  | .parse path entity spec input array maxDepth => do
      let query ← readQuery engine sources path entity spec maxDepth
      let raw ← readInput sources input
      if array then
        return answered (fun items => .list (items.map Value.toDocument))
          (query.parseList raw).outcome
      else
        return answered Value.toDocument (query.parse raw).outcome
  | .version => return { exitCode := 0, output := s!"{programName} {programVersion}\n" }

end QueryShape.Command

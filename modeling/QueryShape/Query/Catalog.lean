import QueryShape.Query.Compile
import QueryShape.Query.Reshape
import QueryShape.Schema.Relations

/-!
# Catalogs and queries

A catalog holds the relations and the validators of entities, usually those of a schema.  A query is
a specification for one entity of a catalog, ready to reshape the data that it selects.
-/

namespace QueryShape

open Json (Document Reading Value)

structure Catalog where
  graph : RelationGraph := .empty
  validators : Validators := []

/-- A specification for an entity, with the relations of the entity and the validators of all. -/
structure Query where
  entity : String
  spec : Spec
  relations : RelationMap
  validators : Validators

namespace Catalog

def ofSchema (engine : PatternEngine) (schema : Schema) (maxDepth : Nat) :
    Except SchemaError Catalog := do
  let validators ← schema.validators engine
  return { graph := schema.relationGraph maxDepth, validators }

def withRelations (catalog : Catalog) (entity : String) (relations : RelationTable) : Catalog :=
  { catalog with graph := catalog.graph.insert entity relations }

def withValidator (catalog : Catalog) (entity : String) (validator : Validator) : Catalog :=
  { catalog with validators := catalog.validators.insert entity validator }

/-- Whether there can be queries for an entity. -/
def contains (catalog : Catalog) (entity : String) : Bool :=
  catalog.graph.contains entity && catalog.validators.contains entity

/-- The entities that there can be queries for. -/
def entities (catalog : Catalog) : List String :=
  catalog.graph.keys.filter catalog.validators.contains

/-- The query for an entity, which needs both relations and a validator. -/
def query (catalog : Catalog) (entity : String) (spec : Spec) : Except QueryError Query :=
  match catalog.graph.get? entity with
  | none => .error (.unknownEntity entity .relationGraph)
  | some relations =>
      if catalog.validators.contains entity then
        .ok { entity, spec, relations := relations.val, validators := catalog.validators }
      else
        .error (.unknownEntity entity .validators)

end Catalog

namespace Query

/-- What fetches the data of the query. -/
def selection (query : Query) : Selection :=
  query.spec.compile query.relations

/-- One fetched record, reshaped. -/
def parse (query : Query) (raw : Value) : Run Value :=
  query.spec.reshape query.relations query.validators query.entity raw

/-- A fetched list of records, reshaped one after the other. -/
def parseList (query : Query) (raw : Value) : Run (List Value) :=
  match raw with
  | .array items =>
      query.spec.reshapeItems query.relations query.validators query.entity items .root
  | raw => .fail (.invalidShape query.entity .root .array raw.typeName)

/-- A reshaped record, read as typed data. -/
def decode {α : Type} (query : Query) (read : Nat → Document → Reading α) (value : Value) :
    Except QueryError α :=
  (read Json.nestingLimit value.toDocument).mapError (.undecodable query.entity)

/-- What a run answers to a caller who takes failures as data. -/
def answer {α : Type} (write : α → Document) : Except QueryError α → Document
  | .ok data => .record [("success", .bool true), ("data", write data)]
  | .error error => .record [("success", .bool false), ("error", error.toDocument)]

end Query

end QueryShape

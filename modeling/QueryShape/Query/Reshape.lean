import QueryShape.Query.Run
import QueryShape.Query.Spec
import QueryShape.Relation.Graph
import QueryShape.Schema.Validator

/-!
# Reshaping data

Raw data is walked along the specification that it was fetched for.  An object whose level names its
fields was narrowed when it was fetched and is taken as it is; any other object goes through the
validator of its entity.  The relations that were asked for are then reshaped in turn and put back
into the object.  `null` may stand for a record only where the relation says so.
-/

namespace QueryShape

open Json (Value)

/-- The validated form of an object, which has to be an object again. -/
def validatedEntries (validators : Validators) (entity : String) (path : Path)
    (entries : Keyed Value) : Run (Keyed Value) :=
  match validators.get? entity with
  | none => .fail (.unknownEntity entity .validators)
  | some validator =>
      let raw := .object entries
      .call entity raw <|
        match validator raw with
        | .ok (.object validated) => .ok validated
        | .ok other => .error (.invalidShape entity path .object other.typeName)
        | .error issues => .error (.ofIssues entity path issues)

/-- Each item in turn, at its position. -/
def reshapeEach (reshapeItem : Value → Path → Run Value) (path : Path) (position : Nat) :
    List Value → Run (List Value)
  | [] => return []
  | raw :: rest => do
      let value ← reshapeItem raw (path.child (.index position))
      (value :: ·) <$> reshapeEach reshapeItem path (position + 1) rest

/-- The value of a relation: a record, a list of records, or `null` where that is allowed. -/
def reshapeRelation (reshapeItem : Value → Path → Run Value) (relation : Relation) (raw : Value)
    (path : Path) : Run Value :=
  match raw, relation.cardinality with
  | .null, .one =>
      if relation.isNullable then return .null
      else .fail (.invalidShape relation.target path .object raw.typeName)
  | .array items, .many => Value.array <$> reshapeEach reshapeItem path 0 items
  | raw, .many => .fail (.invalidShape relation.target path .array raw.typeName)
  | raw, .one => reshapeItem raw path

namespace Spec

/-- A record of an entity.  Its relations are walked by the given function, which puts them into the
object that is kept. -/
def reshapeRecord (validators : Validators) (fields : Option (List String)) (entity : String)
    (reshapeRequested : Keyed Value → Path → Keyed Value → Run (Keyed Value)) (raw : Value)
    (path : Path) : Run Value :=
  match raw with
  | .object entries => do
      let kept ←
        if fields.isSome then pure entries else validatedEntries validators entity path entries
      Value.object <$> reshapeRequested entries path kept
  | raw => .fail (.invalidShape entity path .object raw.typeName)

/-- A record of which nothing in particular is asked for. -/
def reshapeWhole (validators : Validators) (entity : String) (raw : Value) (path : Path) :
    Run Value :=
  reshapeRecord validators none entity (fun _ _ kept => return kept) raw path

mutual

/-- A record of an entity at a path, reshaped along a specification. -/
def reshapeAt (validators : Validators) : Spec → RelationMap → String → Value → Path → Run Value
  | .mk fields requests, relations, entity, raw, path =>
      reshapeRecord validators fields entity (reshapeRequests validators requests relations) raw
        path

/-- The relations that are asked for, of those that the object and its entity have. -/
def reshapeRequests (validators : Validators) :
    List (String × Option Spec) → RelationMap → Keyed Value → Path → Keyed Value → Run (Keyed Value)
  | [], _, _, _, kept => return kept
  | (name, request) :: rest, relations, entries, path, kept =>
      match entries.get? name, relations.get? name with
      | some raw, some relation => do
          let reshapeItem := match request with
            | none => reshapeWhole validators relation.target
            | some spec => reshapeAt validators spec relation.nested relation.target
          let value ← reshapeRelation reshapeItem relation raw (path.child (.field name))
          reshapeRequests validators rest relations entries path (kept.insertSorted name value)
      | _, _ => reshapeRequests validators rest relations entries path kept

end

/-- A record of an entity, reshaped along a specification. -/
def reshape (spec : Spec) (relations : RelationMap) (validators : Validators) (entity : String)
    (raw : Value) : Run Value :=
  spec.reshapeAt validators relations entity raw .root

/-- Records of an entity, reshaped up to the first failure. -/
def reshapeItems (spec : Spec) (relations : RelationMap) (validators : Validators) (entity : String)
    (items : List Value) (path : Path) : Run (List Value) :=
  reshapeEach (spec.reshapeAt validators relations entity) path 0 items

end Spec

end QueryShape

import QueryShape.Query.Selection
import QueryShape.Query.Spec
import QueryShape.Relation.Graph

/-!
# From specifications to selections

`Spec.compile` gives the selection that fetches the data of a specification.  A level that names its
fields selects them and its relations; any other level includes its relations.  A relation that the
entity does not have is left out.
-/

namespace QueryShape.Spec

/-- The fields of a level, each fetched whole. -/
def scalars : Option (List String) → Selection
  | some names => .mk .selecting (names.map (·, none))
  | none => .empty

mutual

def compile : Spec → RelationMap → Selection
  | .mk fields requests, relations =>
      (scalars fields).merge (.mk .including (compileRequests requests relations))

/-- The entries of the relations that are asked for.  A specification that asks for nothing in
particular asks for the whole relation. -/
def compileRequests : List (String × Option Spec) → RelationMap → Keyed (Option Selection)
  | [], _ => []
  | (name, none) :: rest, relations =>
      if relations.contains name then (name, none) :: compileRequests rest relations
      else compileRequests rest relations
  | (name, some spec) :: rest, relations =>
      match relations.get? name with
      | none => compileRequests rest relations
      | some relation =>
          let nested := spec.compile relation.nested
          (name, if nested.isEmptyInclude then none else some nested) ::
            compileRequests rest relations

end

end QueryShape.Spec

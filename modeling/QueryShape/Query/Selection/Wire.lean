import QueryShape.Json.Value
import QueryShape.Query.Selection

/-!
# Selections as JSON

A selection is written as an object whose only member is named for its kind and holds the entries; a
name that is fetched whole has the value `true`.  As a document the entries keep their order, as a
value they are sorted.
-/

namespace QueryShape.Selection

open Json (Document Value)

mutual

def toDocument : Selection → Document
  | .mk kind entries => .record [(kind.text, .record (entryDocuments entries))]

def entryDocument : Option Selection → Document
  | none => .bool true
  | some nested => nested.toDocument

def entryDocuments : List (String × Option Selection) → Keyed Document
  | [] => []
  | (name, entry) :: rest => (name, entryDocument entry) :: entryDocuments rest

end

mutual

def toValue : Selection → Value
  | .mk kind entries => .object [(kind.text, .ofEntries (entryValues entries))]

def entryValue : Option Selection → Value
  | none => .bool true
  | some nested => nested.toValue

def entryValues : List (String × Option Selection) → Keyed Value
  | [] => []
  | (name, entry) :: rest => (name, entryValue entry) :: entryValues rest

end

end QueryShape.Selection

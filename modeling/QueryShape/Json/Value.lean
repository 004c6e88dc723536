import QueryShape.Json.Assembly
import QueryShape.Json.Reading
import QueryShape.Json.Writer

/-!
# JSON values

A `Value` is JSON data: the names of an object increase, and each occurs once.  Reading keeps the
last value of a repeated name.
-/

namespace QueryShape.Json

inductive Value where
  | null
  | bool (flag : Bool)
  | number (value : Number)
  | string (content : String)
  | array (items : List Value)
  | object (entries : List (String × Value))

namespace Value

instance : Inhabited Value := ⟨.null⟩

/-- The name of the JSON type of a value. -/
def typeName : Value → String
  | .null => "null"
  | .bool _ => "boolean"
  | .number _ => "number"
  | .string _ => "string"
  | .array _ => "array"
  | .object _ => "object"

/-- The object with the given entries. -/
def ofEntries (entries : Keyed Value) : Value :=
  .object (entries.foldl (fun bound entry => Keyed.insertSorted bound entry.1 entry.2) [])

mutual

def toDocument : Value → Document
  | .null => .null
  | .bool flag => .bool flag
  | .number value => .number value
  | .string content => .string content
  | .array items => .array (itemDocuments items) .closed
  | .object entries => .object (entryDocuments entries) .closed

def itemDocuments : List Value → List Document
  | [] => []
  | item :: items => item.toDocument :: itemDocuments items

def entryDocuments : List (String × Value) → List (Name × Document)
  | [] => []
  | (name, value) :: entries => (.ok name, value.toDocument) :: entryDocuments entries

end

end Value

mutual

/-- The data of a document. -/
def Document.readValue (room : Nat) : Document → Reading Value
  | .null => return .null
  | .bool flag => return .bool flag
  | .number value => return .number value
  | .string content => return .string content
  | .array items ending => do
      let inner ← enter room
      let values ← readItemValues inner items
      ending.closes
      return .array values
  | .object members ending => do
      let inner ← enter room
      let entries ← readEntryValues inner [] members
      ending.closes
      return .object entries
  | .broken flaw => throw (.fault flaw.read)

def readItemValues (room : Nat) : List Document → Reading (List Value)
  | [] => return []
  | item :: items => do
      let value ← item.readValue room
      return value :: (← readItemValues room items)

def readEntryValues (room : Nat) (bound : Keyed Value) :
    List (Name × Document) → Reading (Keyed Value)
  | [] => return bound
  | (name, value) :: members => do
      let name ← readName name
      let value ← value.readValue room
      readEntryValues room (bound.insertSorted name value) members

end

mutual

/-- The data of a document without flaws.  A flaw counts as `null`, and a name with a flaw is left
out. -/
def Document.toValue : Document → Value
  | .null => .null
  | .bool flag => .bool flag
  | .number value => .number value
  | .string content => .string content
  | .array items _ => .array (itemValues items)
  | .object members _ => .ofEntries (memberValues members)
  | .broken _ => .null

def itemValues : List Document → List Value
  | [] => []
  | item :: items => item.toValue :: itemValues items

def memberValues : List (Name × Document) → Keyed Value
  | [] => []
  | (.ok name, value) :: members => (name, value.toValue) :: memberValues members
  | (.error _, _) :: members => memberValues members

end

/-- The data of a text: a document that is read from its start, with nothing after it. -/
def readText {α : Type} (read : Nat → Document → Reading α) (text : String) : Reading α := do
  let (document, followed) := Document.ofText text
  let value ← read nestingLimit document
  if followed then throw (.fault .malformed)
  return value

def Value.ofText (text : String) : Reading Value :=
  readText Document.readValue text

end QueryShape.Json

import QueryShape.Json.Value

/-!
# Paths into data

A path leads from the root of a value through fields of objects and positions of arrays.  Its text
has a point before each field but the first segment, and each position in brackets.
-/

namespace QueryShape

inductive Segment where
  | field (name : String)
  | index (position : Nat)
deriving DecidableEq, Repr

namespace Segment

def field? : Segment → Option String
  | .field name => some name
  | .index _ => none

def text : Segment → String
  | .field name => name
  | .index position => s!"[{position}]"

def toDocument : Segment → Json.Document
  | .field name => .string name
  | .index position => .integer position

/-- A string is a field and a number a position. -/
def read (room : Nat) (document : Json.Document) : Json.Reading Segment := do
  let _ ← document.readValue room
  match document with
  | .string name => return .field name
  | .number (.integer (.ofNat position)) => return .index position
  | _ => throw (.mismatch (.noAlternative "PathSegment"))

end Segment

abbrev Path := List Segment

namespace Path

def root : Path := []

def child (path : Path) (segment : Segment) : Path :=
  path ++ [segment]

/-- The path with another one in front. -/
def prefixed (path start : Path) : Path :=
  start ++ path

/-- The name of the last field on the path. -/
def lastField (path : Path) : Option String :=
  path.reverse.findSome? Segment.field?

/-- The text of the segments after the first one. -/
def tailText : Path → String
  | [] => ""
  | .field name :: rest => "." ++ name ++ tailText rest
  | .index position :: rest => s!"[{position}]" ++ tailText rest

def text : Path → String
  | [] => "<root>"
  | first :: rest => first.text ++ tailText rest

def toDocument (path : Path) : Json.Document :=
  .list (path.map Segment.toDocument)

def read (room : Nat) (document : Json.Document) : Json.Reading Path :=
  document.readList Segment.read room

end Path

end QueryShape

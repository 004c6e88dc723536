import QueryShape.Json.Document

/-!
# Diagnostics of a schema

A diagnostic says what is wrong with a schema and where.  An error keeps queries from being built; a
warning does not.
-/

namespace QueryShape

inductive Severity where
  | error
  | warning
deriving DecidableEq, Repr

def Severity.text : Severity → String
  | .error => "error"
  | .warning => "warning"

/-- The model or enumeration that a diagnostic is about, and the field within it. -/
structure Location where
  item : Option String := none
  field : Option String := none
deriving DecidableEq, Repr

def Location.text : Location → String
  | ⟨some item, some field⟩ => item ++ "." ++ field
  | ⟨some item, none⟩ => item
  | ⟨none, some field⟩ => field
  | ⟨none, none⟩ => "<schema>"

structure Diagnostic where
  severity : Severity
  code : String
  title : String
  message : Option String := none
  location : Location := {}
deriving DecidableEq, Repr

namespace Diagnostic

def isError (diagnostic : Diagnostic) : Bool :=
  diagnostic.severity = .error

def isWarning (diagnostic : Diagnostic) : Bool :=
  diagnostic.severity = .warning

def text (diagnostic : Diagnostic) : String :=
  diagnostic.severity.text ++ "[" ++ diagnostic.code ++ "] " ++ diagnostic.location.text ++ ": " ++
    diagnostic.title ++ (match diagnostic.message with
      | some message => " (" ++ message ++ ")"
      | none => "")

def optionalMember (name : String) : Option String → Keyed Json.Document
  | some text => [(name, .string text)]
  | none => []

def toDocument (diagnostic : Diagnostic) : Json.Document :=
  .record ([
    ("severity", .string diagnostic.severity.text),
    ("code", .string diagnostic.code),
    ("title", .string diagnostic.title)] ++
    optionalMember "message" diagnostic.message ++
    [("location", .record (optionalMember "item" diagnostic.location.item ++
      optionalMember "field" diagnostic.location.field))])

end Diagnostic

/-- The diagnostics of a schema in the order in which they were found. -/
abbrev Diagnostics := List Diagnostic

namespace Diagnostics

def errors (diagnostics : Diagnostics) : Diagnostics :=
  diagnostics.filter Diagnostic.isError

def warnings (diagnostics : Diagnostics) : Diagnostics :=
  diagnostics.filter Diagnostic.isWarning

def hasErrors (diagnostics : Diagnostics) : Bool :=
  diagnostics.any Diagnostic.isError

end Diagnostics

end QueryShape

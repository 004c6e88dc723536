import QueryShape.Path

/-!
# Issues with data

A validator reports each problem of the data as an `Issue`: where it is, what is wrong, a code for
programs to act on, and the constraint that was violated, if it has a text.
-/

namespace QueryShape

inductive IssueCode where
  | required
  | invalidType
  | minLength
  | maxLength
  | min
  | max
  | invalidEmail
  | invalidUrl
  | patternMismatch
  | invalidEnumValue
  | invalidFormat
  | custom
deriving DecidableEq, Repr

namespace IssueCode

def text : IssueCode → String
  | .required => "REQUIRED"
  | .invalidType => "INVALID_TYPE"
  | .minLength => "MIN_LENGTH"
  | .maxLength => "MAX_LENGTH"
  | .min => "MIN"
  | .max => "MAX"
  | .invalidEmail => "INVALID_EMAIL"
  | .invalidUrl => "INVALID_URL"
  | .patternMismatch => "PATTERN_MISMATCH"
  | .invalidEnumValue => "INVALID_ENUM_VALUE"
  | .invalidFormat => "INVALID_FORMAT"
  | .custom => "CUSTOM"

def all : List IssueCode :=
  [.required, .invalidType, .minLength, .maxLength, .min, .max, .invalidEmail, .invalidUrl,
    .patternMismatch, .invalidEnumValue, .invalidFormat, .custom]

def named : Keyed IssueCode :=
  all.map fun code => (code.text, code)

end IssueCode

structure Issue where
  path : Path
  message : String
  code : IssueCode
  constraint : Option String
deriving DecidableEq, Repr

abbrev Issues := List Issue

namespace Issue

def text (issue : Issue) : String :=
  issue.path.text ++ ": " ++ issue.message

/-- The members of an issue that are always written. -/
def ownMembers (issue : Issue) : Keyed Json.Document :=
  [("path", issue.path.toDocument), ("message", .string issue.message),
    ("code", .string issue.code.text)]

def constraintMember (issue : Issue) : Keyed Json.Document :=
  Json.Document.memberIfSet "constraint" .string issue.constraint

def toDocument (issue : Issue) : Json.Document :=
  .record (issue.ownMembers ++ issue.constraintMember)

/-- The fields of an issue that have been read. -/
structure Draft where
  path : Option Path := none
  message : Option String := none
  code : Option IssueCode := none
  constraint : Option (Option String) := none

def form : Json.RecordForm where
  title := "struct ValidationError"
  fields := [("path", false), ("message", false), ("code", false), ("constraint", false)]
  exact := false

def Draft.step (room : Nat) (draft : Draft) (name : String) (value : Json.Document) :
    Json.Reading Draft :=
  match name with
  | "path" => return { draft with path := ← Json.readOnce draft.path name (Path.read room value) }
  | "message" =>
      return { draft with message := ← Json.readOnce draft.message name value.readString }
  | "code" =>
      return { draft with
        code := ← Json.readOnce draft.code name (value.readVariant IssueCode.named room) }
  | _ =>
      return { draft with
        constraint :=
          ← Json.readOnce draft.constraint name (value.readOptional Json.Document.readString) }

def Draft.finish (draft : Draft) : Json.Reading Issue := do
  let path ← Json.required draft.path "path"
  let message ← Json.required draft.message "message"
  let code ← Json.required draft.code "code"
  return { path, message, code, constraint := draft.constraint.join }

def read (room : Nat) (document : Json.Document) : Json.Reading Issue := do
  (← form.read Draft.step {} room document).finish

end Issue

namespace Issues

def text (issues : Issues) : String :=
  "; ".intercalate (issues.map Issue.text)

def toDocument (issues : Issues) : Json.Document :=
  .record [("errors", .list (issues.map Issue.toDocument))]

def form : Json.RecordForm where
  title := "struct ValidationErrors"
  fields := [("errors", false)]
  exact := false

def read (room : Nat) (document : Json.Document) : Json.Reading Issues := do
  let issues ← form.read
    (fun room draft name value => Json.readOnce draft name (value.readList Issue.read room))
    none room document
  Json.required issues "errors"

end Issues

end QueryShape

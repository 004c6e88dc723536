import QueryShape.Json.Document

/-!
# JSON text

A document is written without white space, or over several lines with an indentation of two spaces
per level.  In a string only the quote, the backslash and the control characters are escaped.  An
empty array or object stands on one line in both forms.
-/

namespace QueryShape.Json

def hexPair (code : Nat) : List Char :=
  ['\\', 'u', '0', '0', Nat.digitChar (code / 16), Nat.digitChar (code % 16)]

def escapedInString (c : Char) : List Char :=
  match c with
  | '"' => ['\\', '"']
  | '\\' => ['\\', '\\']
  | '\x08' => ['\\', 'b']
  | '\x0c' => ['\\', 'f']
  | '\n' => ['\\', 'n']
  | '\r' => ['\\', 'r']
  | '\t' => ['\\', 't']
  | c => if c < ' ' then hexPair c.toNat else [c]

def stringChars (content : String) : List Char :=
  '"' :: content.toList.flatMap escapedInString ++ ['"']

/-- The text of a name.  A flaw has no text. -/
def nameChars : Name → List Char
  | .ok name => stringChars name
  | .error _ => []

/-- The spaces between the parts of a container. -/
structure Layout where
  /-- What stands before each part at a level. -/
  gap : Nat → List Char
  /-- What stands between a name and its value. -/
  colon : List Char

def Layout.compact : Layout where
  gap _ := []
  colon := [':']

def Layout.indented : Layout where
  gap level := '\n' :: List.replicate (2 * level) ' '
  colon := [':', ' ']

namespace Document

mutual

/-- The text of a document.  A flaw has no text. -/
def chars (layout : Layout) (level : Nat) : Document → List Char
  | .null => ['n', 'u', 'l', 'l']
  | .bool true => ['t', 'r', 'u', 'e']
  | .bool false => ['f', 'a', 'l', 's', 'e']
  | .number value => value.text.toList
  | .string content => stringChars content
  | .array [] _ => ['[', ']']
  | .array (item :: items) _ =>
      '[' :: layout.gap (level + 1) ++ item.chars layout (level + 1) ++
        itemChars layout (level + 1) items ++ layout.gap level ++ [']']
  | .object [] _ => ['\x7b', '\x7d']
  | .object ((name, value) :: members) _ =>
      '\x7b' :: layout.gap (level + 1) ++ nameChars name ++ layout.colon ++
        value.chars layout (level + 1) ++ memberChars layout (level + 1) members ++
        layout.gap level ++ ['\x7d']
  | .broken _ => []

def itemChars (layout : Layout) (level : Nat) : List Document → List Char
  | [] => []
  | item :: items =>
      ',' :: layout.gap level ++ item.chars layout level ++ itemChars layout level items

def memberChars (layout : Layout) (level : Nat) : List (Name × Document) → List Char
  | [] => []
  | (name, value) :: members =>
      ',' :: layout.gap level ++ nameChars name ++ layout.colon ++
        value.chars layout level ++ memberChars layout level members

end

def compactText (document : Document) : String :=
  String.ofList (document.chars .compact 0)

def indentedText (document : Document) : String :=
  String.ofList (document.chars .indented 0)

end Document

end QueryShape.Json

import QueryShape.Json.Number
import QueryShape.Keyed

/-!
# JSON documents in text order

A `Document` is a JSON text as a reader meets it: members in the order of the text, repeated names
kept, and a flaw at the place where the text stops being JSON.  A document written by this library
has no flaw.  Readers of a document walk it in text order, so the first problem in the text, be it a
flaw or a value of the wrong type, is the one they report.
-/

namespace QueryShape.Json

/-- How a text fails to be JSON: it ends too early, or it goes on with something else. -/
inductive Fault where
  | ended
  | malformed
deriving DecidableEq, Repr

/-- What stands at the start of a flaw: a word that begins like `null`, another word or a number, or
something else. -/
inductive Opening where
  | null
  | word
  | other
deriving DecidableEq, Repr

/-- A flaw of a text.  A value whose content nobody asks for is only skipped, which is more lenient:
half a surrogate pair and a number that is out of range are then no fault at all, and a number that
the end of the text cuts short is malformed. -/
structure Flaw where
  read : Fault
  skipped : Option Fault
  opening : Opening := .other
deriving DecidableEq, Repr

/-- A flaw that ends the reading, whether the value is read or skipped. -/
def Flaw.hard (fault : Fault) : Flaw :=
  { read := fault, skipped := some fault }

/-- A value that can be skipped but not read. -/
def Flaw.soft : Flaw :=
  { read := .malformed, skipped := none }

/-- The flaw for a reader who looks for a string or an object, to whom every word is malformed. -/
def Flaw.unlessWord (flaw : Flaw) : Fault :=
  if flaw.opening = .other then flaw.read else .malformed

/-- What a message says about a value that is not of the expected type. -/
inductive Finding where
  | null
  | boolean (flag : Bool)
  | integer (value : Int)
  | float (value : FiniteDouble)
  | text (content : String)
  | sequence
  | map
deriving DecidableEq, Repr

/-- How a list of items or members ends. -/
inductive Ending where
  | closed
  | broken (flaw : Flaw)

/-- The name of a member is a string, or the flaw in its place. -/
abbrev Name := Except Flaw String

inductive Document where
  | null
  | bool (flag : Bool)
  | number (value : Number)
  | string (content : String)
  | array (items : List Document) (ending : Ending)
  | object (members : List (Name × Document)) (ending : Ending)
  | broken (flaw : Flaw)

namespace Document

instance : Inhabited Document := ⟨.null⟩

def list (items : List Document) : Document :=
  .array items .closed

def record (members : Keyed Document) : Document :=
  .object (members.map fun (name, value) => (.ok name, value)) .closed

def integer (value : Int) : Document :=
  .number (.integer value)

/-- A floating-point number; an infinity and what is not a number are written as `null`. -/
def double : Double → Document
  | .finite value => .number (.float value)
  | _ => .null

/-- A member that is written only if it has a value. -/
def memberIfSet {α : Type} (name : String) (write : α → Document) : Option α → Keyed Document
  | some value => [(name, write value)]
  | none => []

section

variable {α : Type} (name : String) (write : α → Document)

@[simp]
theorem memberIfSet_none : memberIfSet name write none = [] := rfl

@[simp]
theorem memberIfSet_some (value : α) :
    memberIfSet name write (some value) = [(name, write value)] :=
  rfl

end

/-- What a message says about this value, or the flaw in its place. -/
def finding : Document → Except Flaw Finding
  | .null => .ok .null
  | .bool flag => .ok (.boolean flag)
  | .number (.integer value) => .ok (.integer value)
  | .number (.float value) => .ok (.float value)
  | .string content => .ok (.text content)
  | .array _ _ => .ok .sequence
  | .object _ _ => .ok .map
  | .broken flaw => .error flaw

end Document

end QueryShape.Json

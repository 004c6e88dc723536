import QueryShape.Json.Document
import QueryShape.Text.Quoted

/-!
# Reading typed data from a document

A reader takes a document to data or to the first problem in text order.  Up to 127 arrays and
objects may be nested; `room` is the number that may still be entered.

A record is written as an object or as an array of its fields in the order of their declaration.  In
an object a field may not be repeated, and a field that the record does not have is refused or
skipped, as the record says.  An array may end early if the remaining fields have defaults.
-/

namespace QueryShape.Json

/-- How a value fails to be of the expected type. -/
inductive Mismatch where
  | wrongType (found : Finding) (expected : String)
  | wrongValue (found : Finding) (expected : String)
  | wrongLength (length : Nat) (expected : String)
  | missingField (name : String)
  | repeatedField (name : String)
  | unknownField (name : String) (known : List String)
  | unknownVariant (name : String) (known : List String)
  | noAlternative (type : String)
deriving DecidableEq, Repr

inductive ReadError where
  | fault (fault : Fault)
  /-- An array has more items than the record has fields. -/
  | surplus (length : Nat)
  | mismatch (mismatch : Mismatch)
deriving DecidableEq, Repr

abbrev Reading := Except ReadError

def Finding.message : Finding → String
  | .null => "null"
  | .boolean flag => s!"boolean `{flag}`"
  | .integer value => s!"integer `{value}`"
  | .float value => "floating point `" ++ value.scientificText ++ "`"
  | .text content => "string " ++ Text.quoted content
  | .sequence => "sequence"
  | .map => "map"

/-- The names that a message lists as the possible ones. -/
def knownNames : List String → String
  | [] => "nothing"
  | [name] => s!"`{name}`"
  | [first, second] => s!"`{first}` or `{second}`"
  | names => "one of " ++ ", ".intercalate (names.map fun name => s!"`{name}`")

def Mismatch.message : Mismatch → String
  | .wrongType found expected => "invalid type: " ++ found.message ++ ", expected " ++ expected
  | .wrongValue found expected => "invalid value: " ++ found.message ++ ", expected " ++ expected
  | .wrongLength length expected => s!"invalid length {length}, expected {expected}"
  | .missingField name => s!"missing field `{name}`"
  | .repeatedField name => s!"duplicate field `{name}`"
  | .unknownField name [] => s!"unknown field `{name}`, there are no fields"
  | .unknownField name known => s!"unknown field `{name}`, expected " ++ knownNames known
  | .unknownVariant name known => s!"unknown variant `{name}`, expected " ++ knownNames known
  | .noAlternative type => "data did not match any variant of untagged enum " ++ type

def ReadError.message : ReadError → String
  | .fault .ended => "the text ends too early"
  | .fault .malformed => "the text is malformed"
  | .surplus length => s!"invalid length {length}, expected fewer elements in array"
  | .mismatch cause => cause.message

/-- How many arrays and objects of a text may be nested. -/
def nestingLimit : Nat := 127

/-- The room that is left inside an array or object. -/
def enter : Nat → Reading Nat
  | 0 => throw (.fault .malformed)
  | room + 1 => return room

/-- Nothing follows the last item or member. -/
def Ending.closes : Ending → Reading Unit
  | .closed => return
  | .broken flaw => throw (.fault flaw.read)

/-- The name of a member. -/
def readName : Name → Reading String
  | .ok name => return name
  | .error flaw => throw (.fault flaw.read)

namespace Document

variable {α δ : Type}

/-- The problem of a value that is not of the expected type: the flaw in its place comes first. -/
def refuse (document : Document) (expected : String) : Reading α :=
  match document.finding with
  | .ok found => throw (.mismatch (.wrongType found expected))
  | .error flaw => throw (.fault flaw.read)

def readBool : Document → Reading Bool
  | .bool flag => return flag
  | document => document.refuse "a boolean"

def readString : Document → Reading String
  | .string content => return content
  | document => document.refuse "a string"

def readDouble : Document → Reading Double
  | .number value => return value.toDouble
  | document => document.refuse "f64"

def readNat : Document → Reading Nat
  | .number (.integer value) =>
      if value < 0 then throw (.mismatch (.wrongValue (.integer value) "usize"))
      else return value.toNat
  | document => document.refuse "usize"

/-- A value that may be `null`. -/
def readOptional (read : Document → Reading α) : Document → Reading (Option α)
  | .null => return none
  | .broken flaw =>
      if flaw.opening = .null then throw (.fault flaw.read) else some <$> read (.broken flaw)
  | document => some <$> read document

def readList (read : Nat → Document → Reading α) (room : Nat) : Document → Reading (List α)
  | .array items ending => do
      let inner ← enter room
      let values ← items.mapM (read inner)
      ending.closes
      return values
  | document => document.refuse "a sequence"

/-- An object as a keyed list in text order, in which a name that is there again keeps its place. -/
def readKeyed (read : Nat → Document → Reading α) (room : Nat) : Document → Reading (Dictionary α)
  | .object members ending => do
      let inner ← enter room
      let entries ← members.mapM fun (name, value) => do
        let name ← readName name
        return (name, ← read inner value)
      ending.closes
      return Dictionary.ofList entries
  | document => document.refuse "a map"

/-- An enumerated value without content: its name as a string, or an object whose only member has
that name and holds `null`. -/
def readVariant (variants : Keyed α) (room : Nat) (document : Document) : Reading α :=
  let choose (name : String) : Reading α :=
    match variants.get? name with
    | some variant => return variant
    | none => throw (.mismatch (.unknownVariant name variants.keys))
  match document with
  | .string name => choose name
  | .object [] ending => do
      let _ ← enter room
      ending.closes
      throw (.fault .malformed)
  | .object ((name, content) :: others) ending => do
      let _ ← enter room
      let variant ← choose (← readName name)
      match content with
      | .null =>
          match others with
          | [] => do
              ending.closes
              return variant
          | _ => throw (.fault .malformed)
      | content => content.refuse "unit"
  | .broken flaw => throw (.fault flaw.unlessWord)
  | _ => throw (.fault .malformed)

def skipFlaw (flaw : Flaw) : Reading Unit :=
  match flaw.skipped with
  | some fault => throw (.fault fault)
  | none => return

def skipEnding : Ending → Reading Unit
  | .closed => return
  | .broken flaw => skipFlaw flaw

mutual

/-- A value that nobody asks for. -/
def skip : Document → Reading Unit
  | .array items ending => do
      skipItems items
      skipEnding ending
  | .object members ending => do
      skipMembers members
      skipEnding ending
  | .broken flaw => skipFlaw flaw
  | _ => return

def skipItems : List Document → Reading Unit
  | [] => return
  | item :: items => do
      item.skip
      skipItems items

def skipMembers : List (Name × Document) → Reading Unit
  | [] => return
  | (name, value) :: members => do
      if let .error flaw := name then
        skipFlaw flaw
      value.skip
      skipMembers members

end

end Document

/-- The fields of a record in the order of their declaration, each with whether it has a default. -/
structure RecordForm where
  title : String
  fields : List (String × Bool)
  /-- Whether a field that the record does not have is refused. -/
  exact : Bool

namespace RecordForm

variable {α δ : Type}

def names (form : RecordForm) : List String :=
  form.fields.map Prod.fst

/-- What a message says about an array that is too short. -/
def elements (form : RecordForm) : String :=
  let count := form.fields.length
  s!"{form.title} with {count} element" ++ (if count = 1 then "" else "s")

/-- The fields of a record that is written as an array. -/
def readItems (form : RecordForm) (step : δ → String → Document → Reading δ) (ending : Ending)
    (length : Nat) : δ → List (String × Bool) → List Document → Reading δ
  | draft, [], [] => do
      ending.closes
      return draft
  | _, [], items => throw (.surplus (form.fields.length + items.length))
  | draft, (_, hasDefault) :: fields, [] => do
      ending.closes
      if hasDefault then form.readItems step ending length draft fields []
      else throw (.mismatch (.wrongLength length form.elements))
  | draft, (name, _) :: fields, item :: items => do
      let draft ← step draft name item
      form.readItems step ending (length + 1) draft fields items

/-- The fields of a record that is written as an object. -/
def readMembers (form : RecordForm) (step : δ → String → Document → Reading δ) (ending : Ending) :
    δ → List (Name × Document) → Reading δ
  | draft, [] => do
      ending.closes
      return draft
  | draft, (name, value) :: members => do
      let name ← readName name
      if form.names.contains name then
        let draft ← step draft name value
        form.readMembers step ending draft members
      else if form.exact then
        throw (.mismatch (.unknownField name form.names))
      else
        value.skip
        form.readMembers step ending draft members

/-- A record, read field by field into a draft of it. -/
def read (form : RecordForm) (step : Nat → δ → String → Document → Reading δ) (start : δ)
    (room : Nat) : Document → Reading δ
  | .array items ending => do
      let inner ← enter room
      form.readItems (step inner) ending 0 start form.fields items
  | .object members ending => do
      let inner ← enter room
      form.readMembers (step inner) ending start members
  | document => document.refuse form.title

end RecordForm

/-- A field of a draft that has not been read before. -/
def readOnce {α : Type} (field : Option α) (name : String) (value : Reading α) :
    Reading (Option α) :=
  match field with
  | some _ => throw (.mismatch (.repeatedField name))
  | none => some <$> value

/-- A field of a draft that must have been read. -/
def required {α : Type} (field : Option α) (name : String) : Reading α :=
  match field with
  | some value => return value
  | none => throw (.mismatch (.missingField name))

end QueryShape.Json

import QueryShape.Json.Token

/-!
# Documents from tokens

`Assembly.run` puts the tokens of a text together.  Its state says what may come next and holds the
open arrays and objects, innermost first.  A flaw closes all of them: what follows it in the text is
never looked at, so an enclosing array or object ends right after the part that holds the flaw.
-/

namespace QueryShape.Json

namespace Assembly

/-- An open array with its items so far, or an open object with its members so far and the name of
the member whose value is being read; items and members are held last first. -/
inductive Frame where
  | array (items : List Document)
  | object (members : List (Name × Document)) (name : Name)

/-- What may come next, and the containers that are open. -/
inductive State where
  | value (outer : List Frame)
  | firstItem (outer : List Frame)
  | afterItem (items : List Document) (outer : List Frame)
  | firstName (outer : List Frame)
  | nextName (members : List (Name × Document)) (outer : List Frame)
  | nameEnd (members : List (Name × Document)) (name : Name) (outer : List Frame)
  | afterMember (members : List (Name × Document)) (outer : List Frame)
  | finished (document : Document)

/-- Puts a value that holds a flaw into the open containers. -/
def enclose (value : Document) : List Frame → Document
  | [] => value
  | .array items :: outer => enclose (.array (value :: items).reverse .closed) outer
  | .object members name :: outer =>
      enclose (.object ((name, value) :: members).reverse .closed) outer

/-- The document whose text breaks off at a state. -/
def State.breakOff (flaw : Flaw) : State → Document
  | .value outer => enclose (.broken flaw) outer
  | .firstItem outer => enclose (.array [.broken flaw] .closed) outer
  | .afterItem items outer => enclose (.array items.reverse (.broken flaw)) outer
  | .firstName outer => enclose (.object [] (.broken flaw)) outer
  | .nextName members outer => enclose (.broken flaw) (.object members (.error flaw) :: outer)
  | .nameEnd members name outer =>
      enclose (.broken flaw) (.object members name :: outer)
  | .afterMember members outer => enclose (.object members.reverse (.broken flaw)) outer
  | .finished document => document

/-- Hands a value to the innermost open container. -/
def deliver (value : Document) : List Frame → State
  | [] => .finished value
  | .array items :: outer => .afterItem (value :: items) outer
  | .object members name :: outer => .afterMember ((name, value) :: members) outer

/-- A value starts with this token. -/
def startValue (outer : List Frame) : Token → Except Document State
  | .openArray => .ok (.firstItem outer)
  | .openObject => .ok (.firstName outer)
  | .string (.ok content) => .ok (deliver (.string content) outer)
  | .string (.error flaw) | .scalar (.broken flaw) =>
      if flaw.skipped.isSome then .error (enclose (.broken flaw) outer)
      else .ok (deliver (.broken flaw) outer)
  | .scalar value => .ok (deliver value outer)
  | .closeArray | .closeObject | .comma | .colon =>
      .error (enclose (.broken (.hard .malformed)) outer)

/-- The name of a member starts with this token, which has to be a string. -/
def startName (members : List (Name × Document)) (outer : List Frame) :
    Token → Except Document State
  | .string (.ok content) => .ok (.nameEnd members (.ok content) outer)
  | .string (.error flaw) =>
      if flaw.skipped.isSome then .error ((State.nextName members outer).breakOff flaw)
      else .ok (.nameEnd members (.error flaw) outer)
  | _ => .error ((State.nextName members outer).breakOff (.hard .malformed))

/-- The state after one more token, or the whole document if the token cannot stand here. -/
def State.next (state : State) (token : Token) : Except Document State :=
  match state, token with
  | .value outer, token => startValue outer token
  | .firstItem outer, .closeArray => .ok (deliver (.array [] .closed) outer)
  | .firstItem outer, token => startValue (.array [] :: outer) token
  | .afterItem items outer, .comma => .ok (.value (.array items :: outer))
  | .afterItem items outer, .closeArray => .ok (deliver (.array items.reverse .closed) outer)
  | .firstName outer, .closeObject => .ok (deliver (.object [] .closed) outer)
  | .firstName outer, token => startName [] outer token
  | .nextName members outer, token => startName members outer token
  | .nameEnd members name outer, .colon => .ok (.value (.object members name :: outer))
  | .afterMember members outer, .comma => .ok (.nextName members outer)
  | .afterMember members outer, .closeObject =>
      .ok (deliver (.object members.reverse .closed) outer)
  | state, _ => .error (state.breakOff (.hard .malformed))

/-- The document that the tokens make up, and whether tokens follow it. -/
def run : State → List Token → Document × Bool
  | .finished document, rest => (document, !rest.isEmpty)
  | state, [] => (state.breakOff (.hard .ended), false)
  | state, token :: rest =>
      match state.next token with
      | .ok state => run state rest
      | .error document => (document, false)

end Assembly

/-- The document of a text, and whether something other than white space follows it. -/
def Document.ofText (text : String) : Document × Bool :=
  Assembly.run (.value []) (tokens text)

end QueryShape.Json

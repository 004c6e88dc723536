import QueryShape.Pattern.Bracket
import QueryShape.Pattern.Expression

/-!
# Reading expressions

An expression is read from left to right; `Parser.State` holds the open groups, innermost first.  A
flag that is set in a group holds until the group ends, also in the alternatives that follow.  There
is no back reference and no look-around.
-/

namespace QueryShape.Pattern

/-- The name of a group, and the text after it. -/
def groupName? (text : List Char) : Option (List Char × List Char) :=
  let isInner (c : Char) :=
    c == '_' || c == '.' || c == '[' || c == ']' || Text.isLetter c || Text.isNumeral c
  let name := text.takeWhile (· ≠ '>')
  match name, text.dropWhile (· ≠ '>') with
  | first :: others, '>' :: rest =>
      if (first == '_' || Text.isLetter first) && others.all isInner then some (name, rest)
      else none
  | _, _ => none

/-- The flags after a directive, the letters it holds, the character that ends it, and the text
after that character.  The letters after a hyphen are cleared. -/
def readFlags? (flags : Flags) (read : List Char) : List Char →
    Option (Flags × List Char × Char × List Char)
  | [] => none
  | c :: rest =>
      if c = ':' ∨ c = ')' then
        if read.head? = some '-' then none else some (flags, read, c, rest)
      else if read.contains c then none
      else if c = '-' then readFlags? flags (c :: read) rest
      else do
        let flags ← flags.set? c (!read.contains '-')
        readFlags? flags (c :: read) rest

/-- A decimal number between white space, and the text after it. -/
def readCount? (flags : Flags) (text : List Char) : Option Nat × List Char :=
  let text := text.dropWhile Text.isBlank
  let digits := text.takeWhile Char.isDigit
  let rest := flags.skip ((text.dropWhile Char.isDigit).dropWhile Text.isBlank)
  let value := digits.foldl (fun sum digit => sum * 10 + (digit.toNat - '0'.toNat)) 0
  (if digits.isEmpty || Nat.pow 2 32 ≤ value then none else some value, rest)

/-- The bounds of a counted repetition after its opening brace, and the text after its closing
one. -/
def readBounds? (flags : Flags) (text : List Char) : Option (Nat × Option Nat × List Char) := do
  let (least, rest) := readCount? flags (flags.skip text)
  let least ← least
  match rest with
  | '\x7d' :: rest => return (least, some least, rest)
  | ',' :: rest =>
      match flags.skip rest with
      | '\x7d' :: rest => return (least, none, rest)
      | rest =>
          match readCount? flags rest with
          | (some most, '\x7d' :: rest) =>
              if least ≤ most then return (least, some most, rest) else none
          | _ => none
  | _ => none

/-- The part of a group before an inner one: the finished alternatives, last first, and the parts of
the current one, last first. -/
structure Group where
  captures : Bool := false
  branches : List Expression := []
  parts : List Expression := []

namespace Group

def push (group : Group) (part : Expression) : Group :=
  { group with parts := part :: group.parts }

def branch (group : Group) : Expression :=
  .ofParts group.parts.reverse

/-- What the group holds. -/
def content (group : Group) : Expression :=
  match group.branches with
  | [] => group.branch
  | branches => .choice (group.branch :: branches).reverse

def nextAlternative (group : Group) : Group :=
  { group with branches := group.branch :: group.branches, parts := [] }

/-- The group with its last part repeated.  A directive cannot be repeated. -/
def repeat? (group : Group) (least : Nat) (most : Option Nat) : Option Group :=
  match group.parts with
  | [] | .directive :: _ => none
  | last :: others => some { group with parts := .repetition last least most :: others }

end Group

namespace Parser

structure State where
  flags : Flags := {}
  group : Group := {}
  /-- The open groups around the current one, each with the flags to go back to. -/
  outer : List (Group × Flags) := []
  /-- The names of groups so far. -/
  names : List (List Char) := []

namespace State

def push (state : State) (part : Expression) : State :=
  { state with group := state.group.push part }

def openGroup (state : State) (captures : Bool) (flags : Flags) : State :=
  { state with flags, group := { captures }, outer := (state.group, state.flags) :: state.outer }

def closeGroup? (state : State) : Option State :=
  match state.outer with
  | [] => none
  | (group, flags) :: outer =>
      let closed := .group state.group.captures state.group.content
      some { state with flags, group := group.push closed, outer }

/-- A group with a name opens. -/
def openNamed? (state : State) (text : List Char) : Option (State × List Char) := do
  let (name, rest) ← groupName? text
  if state.names.contains name then none
  else return (({ state with names := name :: state.names }).openGroup true state.flags, rest)

/-- A group with flags opens, or flags are set for what follows. -/
def openFlagged? (state : State) (text : List Char) : Option (State × List Char) := do
  let (flags, letters, last, rest) ← readFlags? state.flags [] text
  if last = ':' then return (state.openGroup false flags, rest)
  else if letters.isEmpty then none
  else return (({ state with flags }).push .directive, rest)

/-- What follows an opening parenthesis. -/
def readGroup? (state : State) (text : List Char) : Option (State × List Char) :=
  match state.flags.skip text with
  | '?' :: '=' :: _ | '?' :: '!' :: _ | '?' :: '<' :: '=' :: _ | '?' :: '<' :: '!' :: _ => none
  | '?' :: 'P' :: '<' :: rest => state.openNamed? rest
  | '?' :: '<' :: rest => state.openNamed? rest
  | '?' :: rest => state.openFlagged? rest
  | rest => return (state.openGroup true state.flags, rest)

/-- The state after a repetition, whose mark of reluctance makes no difference. -/
def repeat? (state : State) (least : Nat) (most : Option Nat) (rest : List Char) :
    Option (State × List Char) := do
  let group ← state.group.repeat? least most
  let rest := match rest with
    | '?' :: rest => rest
    | rest => rest
  return ({ state with group }, rest)

/-- The state after the part that starts with a character, and the text after that part. -/
def next? (state : State) (c : Char) (rest : List Char) : Option (State × List Char) :=
  match c with
  | '(' => state.readGroup? rest
  | ')' => return (← state.closeGroup?, rest)
  | '|' => return ({ state with group := state.group.nextAlternative }, rest)
  | '[' => do
      let (current, rest) := openClass state.flags rest
      let (⟨set, levels⟩, rest) ← readClass? state.flags rest.length current [] rest
      return (state.push (.char set levels), rest)
  | '?' => state.repeat? 0 (some 1) rest
  | '*' => state.repeat? 0 none rest
  | '+' => state.repeat? 1 none rest
  | '\x7b' => do
      -- What cannot be repeated is refused before the bounds are read.
      let _ ← state.group.repeat? 0 none
      let (least, most, rest) ← readBounds? state.flags rest
      state.repeat? least most (state.flags.skip rest)
  | '\\' => do
      let (escape, rest) ← readEscape? state.flags rest
      let part := match escape with
        | .char c => .char (state.flags.literal c) 0
        | .set set => .char set 0
        | .place assertion => .place assertion
      return (state.push part, rest)
  | '.' => return (state.push (.char (← state.flags.dot?) 0), rest)
  | '^' => return (state.push (.place state.flags.caret), rest)
  | '$' => return (state.push (.place state.flags.dollar), rest)
  | c => return (state.push (.char (state.flags.literal c) 0), rest)

end State

/-- Reads to the end of the text, where every group must be closed.  Each step reads at least one
character. -/
def run? (steps : Nat) (state : State) (text : List Char) : Option Expression :=
  match state.flags.skip text with
  | [] => if state.outer.isEmpty then some state.group.content else none
  | c :: rest =>
      match steps with
      | 0 => none
      | steps + 1 => do
          let (state, rest) ← state.next? c rest
          run? steps state rest

end Parser

/-- The expression that a text spells, if it spells one. -/
def Expression.ofText? (text : String) : Option Expression :=
  Parser.run? text.length {} text.toList

end QueryShape.Pattern

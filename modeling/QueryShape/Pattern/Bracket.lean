import QueryShape.Keyed
import QueryShape.Pattern.Flags

/-!
# Bracketed classes

A bracketed class lists characters, ranges of characters, escapes, classes by name and inner
classes, and may combine two such lists by an operator, from left to right.  Hyphens at its start
and a closing bracket at its very start stand for themselves.
-/

namespace QueryShape.Pattern

/-- A member of a bracketed class before it is known whether it starts a range. -/
def classMember? (flags : Flags) : List Char → Option (Escape × List Char)
  | [] => none
  | '\\' :: rest => readEscape? flags rest
  | c :: rest => some (.char c, rest)

/-- The classes of ASCII characters that have a name. -/
def asciiClasses : Keyed (List (Char × Char)) := [
  ("alnum", [('0', '9'), ('A', 'Z'), ('a', 'z')]), ("alpha", [('A', 'Z'), ('a', 'z')]),
  ("ascii", [('\x00', '\x7f')]), ("blank", [('\t', '\t'), (' ', ' ')]),
  ("cntrl", [('\x00', '\x1f'), ('\x7f', '\x7f')]), ("digit", [('0', '9')]),
  ("graph", [('!', '~')]), ("lower", [('a', 'z')]), ("print", [(' ', '~')]),
  ("punct", [('!', '/'), (':', '@'), ('[', '\x60'), ('\x7b', '~')]),
  ("space", [('\t', '\r'), (' ', ' ')]), ("upper", [('A', 'Z')]), ("word", Words.asciiRanges),
  ("xdigit", [('0', '9'), ('A', 'F'), ('a', 'f')])]

/-- A class by its name between colons, after the bracket before it: whether it is negated, its
characters, and the text after the bracket that closes it. -/
def namedClass? : List Char → Option (Bool × CharSet × List Char)
  | ':' :: text => do
      let (negated, text) := match text with
        | '^' :: rest => (true, rest)
        | text => (false, text)
      let ranges ← asciiClasses.get? (String.ofList (text.takeWhile (· ≠ ':')))
      match text.dropWhile (· ≠ ':') with
      | ':' :: ']' :: rest => return (negated, .ofRanges ranges, rest)
      | _ => none
  | _ => none

/-- What two operands of a class are combined to. -/
inductive Combination where
  | intersection
  | difference
  | symmetricDifference
deriving DecidableEq, Repr

def Combination.apply (combination : Combination) (left right : CharSet) : CharSet :=
  match combination with
  | .intersection => left.intersection right
  | .difference => left.difference right
  | .symmetricDifference => .union (left.difference right) (right.difference left)

/-- The operator at the start of a text, and the text after it. -/
def combination? : List Char → Option (Combination × List Char)
  | '&' :: '&' :: rest => some (.intersection, rest)
  | '-' :: '-' :: rest => some (.difference, rest)
  | '~' :: '~' :: rest => some (.symmetricDifference, rest)
  | _ => none

/-- A set of characters with the number of levels it is written with. -/
structure Operand where
  set : CharSet
  levels : Nat

/-- The members of one list: their union, how many there are, and the levels of the deepest one. -/
structure Members where
  set : CharSet := .none
  count : Nat := 0
  levels : Nat := 0

namespace Members

def add (members : Members) (set : CharSet) (levels : Nat) : Members where
  set := .union members.set set
  count := members.count + 1
  levels := max members.levels levels

/-- A list of two members or more is a level of its own. -/
def operand (members : Members) : Operand :=
  ⟨members.set, if members.count < 2 then members.levels else members.levels + 1⟩

end Members

/-- A bracketed class that is still open: the operand and the operator so far, if there are any, and
the members after them. -/
structure OpenClass where
  negated : Bool
  pending : Option (Operand × Combination) := none
  members : Members := {}

namespace OpenClass

def add (current : OpenClass) (set : CharSet) (levels : Nat) : OpenClass :=
  { current with members := current.members.add set levels }

/-- All that has been read, as one operand. -/
def operand (flags : Flags) (current : OpenClass) : Operand :=
  let last := current.members.operand
  match current.pending with
  | none => last
  | some (first, combination) =>
      ⟨combination.apply (flags.fold first.set) (flags.fold last.set),
        max first.levels last.levels + 1⟩

def combine (flags : Flags) (current : OpenClass) (combination : Combination) : OpenClass :=
  { current with pending := some (current.operand flags, combination), members := {} }

def close? (flags : Flags) (current : OpenClass) : Option Operand := do
  let ⟨set, levels⟩ := current.operand flags
  let set := flags.fold set
  return ⟨← if current.negated then flags.complement? set else some set, levels + 1⟩

end OpenClass

/-- The hyphens at the start of a class, as its members, and the text after them. -/
def leadingHyphens (flags : Flags) (members : Members) : List Char → Members × List Char
  | '-' :: rest =>
      let (members, after) := leadingHyphens flags (members.add (.single '-') 0) rest
      (members, flags.skip after)
  | rest => (members, rest)

/-- The class that starts after an opening bracket. -/
def openClass (flags : Flags) (text : List Char) : OpenClass × List Char :=
  let text := flags.skip text
  let (negated, text) := match text with
    | '^' :: rest => (true, flags.skip rest)
    | text => (false, text)
  let (members, rest) := leadingHyphens flags {} text
  match members.count, rest with
  | 0, ']' :: after => ({ negated, members := members.add (.single ']') 0 }, flags.skip after)
  | _, rest => ({ negated, members }, rest)

/-- The rest of a bracketed class, and the text after it.  Each step reads at least one
character. -/
def readClass? (flags : Flags) (steps : Nat) (current : OpenClass) (outer : List OpenClass)
    (text : List Char) : Option (Operand × List Char) :=
  match steps with
  | 0 => none
  | steps + 1 =>
    match flags.skip text with
    | [] => none
    | '[' :: rest =>
        match namedClass? rest with
        | some (negated, set, rest) => do
            let set ← if negated then flags.complement? (flags.fold set) else some set
            readClass? flags steps (current.add set 0) outer rest
        | none =>
            let (inner, rest) := openClass flags rest
            readClass? flags steps inner (current :: outer) rest
    | ']' :: rest => do
        let closed ← current.close? flags
        match outer with
        | [] => some (closed, rest)
        | enclosing :: outer =>
            readClass? flags steps (enclosing.add closed.set closed.levels) outer rest
    | text =>
      match combination? text with
      | some (combination, rest) =>
          readClass? flags steps (current.combine flags combination) outer rest
      | none => do
          let (member, rest) ← classMember? flags text
          let rest := flags.skip rest
          let alone := match member with
            | .char c =>
                if flags.allows c then readClass? flags steps (current.add (.single c) 0) outer rest
                else none
            | .set set => readClass? flags steps (current.add set 0) outer rest
            | .place _ => none
          match rest with
          | [] => none
          | '-' :: after =>
              match flags.skip after with
              | ']' :: _ | '-' :: _ => alone
              | after => do
                  let (bound, rest) ← classMember? flags after
                  match member, bound with
                  | .char first, .char last =>
                      if first ≤ last ∧ flags.allows first ∧ flags.allows last then
                        readClass? flags steps (current.add (.range first last) 0) outer rest
                      else none
                  | _, _ => none
          | _ => alone

end QueryShape.Pattern

import QueryShape.Pattern.Basic

/-!
# Flags and escapes

The flags of a pattern change what its characters stand for.  In verbose mode white space and
comments between the parts are passed over.  Without the classes of Unicode, classes, words and case
are those of ASCII, and nothing may stand for a single byte of a character.

A backslash gives a letter a meaning of its own and takes the meaning of a punctuation mark away.
There are no classes by property: `\p` and `\P` have no meaning here.
-/

namespace QueryShape.Pattern

/-- The flags in force. -/
structure Flags where
  /-- Letters stand for all their case variants. -/
  insensitive : Bool := false
  /-- `^` and `$` hold at the ends of lines too. -/
  multiline : Bool := false
  /-- `.` stands for a line break too. -/
  dotAll : Bool := false
  /-- White space and comments are passed over. -/
  verbose : Bool := false
  /-- What ends a line. -/
  breaks : LineBreaks := .feeds
  /-- Which characters words are made of, and so which classes and case variants there are. -/
  words : Words := .unicode

namespace Flags

/-- The flags after one of them is set or cleared.  Greed has no influence on whether a text
matches. -/
def set? (flags : Flags) (letter : Char) (value : Bool) : Option Flags :=
  match letter with
  | 'i' => some { flags with insensitive := value }
  | 'm' => some { flags with multiline := value }
  | 's' => some { flags with dotAll := value }
  | 'x' => some { flags with verbose := value }
  | 'R' => some { flags with breaks := if value then .returnsAndFeeds else .feeds }
  | 'u' => some { flags with words := if value then .unicode else .ascii }
  | 'U' => some flags
  | _ => none

/-- The set with the case variants of its characters, if case makes no difference. -/
def fold (flags : Flags) (set : CharSet) : CharSet :=
  match flags.insensitive, flags.words with
  | false, _ => set
  | true, .unicode => .folded set
  | true, .ascii => .foldedAscii set

def literal (flags : Flags) (c : Char) : CharSet :=
  flags.fold (.single c)

/-- Whether a class may hold a character: without the classes of Unicode, only one of ASCII. -/
def allows (flags : Flags) (c : Char) : Bool :=
  match flags.words with
  | .unicode => true
  | .ascii => c.toNat < 128

/-- All characters but those of a set.  Without the classes of Unicode these would be bytes. -/
def complement? (flags : Flags) (set : CharSet) : Option CharSet :=
  match flags.words with
  | .unicode => some (.complement set)
  | .ascii => none

def dot? (flags : Flags) : Option CharSet :=
  flags.complement? <|
    match flags.dotAll, flags.breaks with
    | true, _ => .none
    | false, .feeds => .single '\n'
    | false, .returnsAndFeeds => .union (.single '\n') (.single '\r')

def caret (flags : Flags) : Assertion :=
  if flags.multiline then .lineStart flags.breaks else .textStart

def dollar (flags : Flags) : Assertion :=
  if flags.multiline then .lineEnd flags.breaks else .textEnd

/-- The characters of a class with a letter of its own. -/
def named (flags : Flags) (name : NamedClass) : CharSet :=
  match flags.words, name with
  | .unicode, name => .named name
  | .ascii, .digit => .range '0' '9'
  | .ascii, .space => .union (.range '\t' '\r') (.single ' ')
  | .ascii, .word => .ofRanges Words.asciiRanges

end Flags

/-- The text without the white space and the comments at its start. -/
def dropComments (inComment : Bool) : List Char → List Char
  | [] => []
  | c :: rest =>
      if inComment then dropComments (c ≠ '\n') rest
      else if c = '#' then dropComments true rest
      else if Text.isBlank c then dropComments false rest
      else c :: rest

/-- The text from the next part on. -/
def Flags.skip (flags : Flags) (text : List Char) : List Char :=
  if flags.verbose then dropComments false text else text

/-! ## Characters by their codes -/

def hexDigit? (c : Char) : Option Nat :=
  if c.isDigit then some (c.toNat - '0'.toNat)
  else if 'a' ≤ c ∧ c ≤ 'f' then some (c.toNat - 'a'.toNat + 10)
  else if 'A' ≤ c ∧ c ≤ 'F' then some (c.toNat - 'A'.toNat + 10)
  else none

/-- The value of a number of hexadecimal digits after the ones that are read, and the text after
them. -/
def readCode? (flags : Flags) (read : Nat) : Nat → List Char → Option (Nat × List Char)
  | 0, text => some (read, text)
  | digits + 1, text =>
      match flags.skip text with
      | [] => none
      | c :: rest => do readCode? flags (read * 16 + (← hexDigit? c)) digits rest

/-- The value of the hexadecimal digits up to a closing brace, of which there is one at least, and
the text after the brace.  Each step reads one character. -/
def readBracedCode? (flags : Flags) (read : Option Nat) : Nat → List Char → Option (Nat × List Char)
  | 0, _ => none
  | steps + 1, text =>
      match flags.skip text with
      | [] => none
      | '\x7d' :: rest => read.map (·, rest)
      | c :: rest => do
          readBracedCode? flags (some (read.getD 0 * 16 + (← hexDigit? c))) steps rest

def charOfCode? (code : Nat) : Option Char :=
  if code.isValidChar then some (Char.ofNat code) else none

/-! ## Escapes -/

/-- What a backslash and the characters after it stand for. -/
inductive Escape where
  | char (c : Char)
  | set (set : CharSet)
  | place (assertion : Assertion)

/-- The letters and hyphens at the start of a text, and the text after them.  Each step reads one
character. -/
def boundaryName (flags : Flags) : Nat → List Char → List Char × List Char
  | 0, text => ([], text)
  | steps + 1, text =>
      match flags.skip text with
      | [] => ([], [])
      | c :: rest =>
          if c.isAlpha || c == '-' then
            let (name, rest) := boundaryName flags steps rest
            (c :: name, rest)
          else ([], c :: rest)

/-- The boundary of a word.  A name between braces tells which one, unless they hold the bounds of a
repetition. -/
def readBoundary? (flags : Flags) (text : List Char) : Option (Assertion × List Char) :=
  match text with
  | '\x7b' :: inner =>
      match boundaryName flags inner.length inner with
      | ([], []) => none
      | ([], _) => some (.wordBoundary flags.words, text)
      | (name, '\x7d' :: rest) =>
          match String.ofList name with
          | "start" => some (.wordStart flags.words, rest)
          | "end" => some (.wordEnd flags.words, rest)
          | "start-half" => some (.noWordBefore flags.words, rest)
          | "end-half" => some (.noWordAfter flags.words, rest)
          | _ => none
      | _ => none
  | text => some (.wordBoundary flags.words, text)

/-- A character by its code, of a number of digits or between braces.  Without the classes of
Unicode, two digits stand for a byte. -/
def readChar? (flags : Flags) (digits : Nat) (text : List Char) : Option (Char × List Char) :=
  match flags.skip text with
  | '\x7b' :: inner => do
      let (code, rest) ← readBracedCode? flags none inner.length inner
      return (← charOfCode? code, rest)
  | text => do
      let (code, rest) ← readCode? flags 0 digits text
      let c ← charOfCode? code
      if digits = 2 ∧ !flags.allows c then none else return (c, rest)

/-- What stands after a backslash, and the text after it.  Punctuation stands for itself, and so do
the control characters and the space.  A letter must have a meaning, and a digit has none. -/
def readEscape? (flags : Flags) : List Char → Option (Escape × List Char)
  | [] => none
  | c :: rest =>
      let char (c : Char) := some (Escape.char c, rest)
      let place (assertion : Assertion) := some (Escape.place assertion, rest)
      let without (name : NamedClass) :=
        (flags.complement? (flags.named name)).map fun set => (Escape.set set, rest)
      let coded (digits : Nat) :=
        (readChar? flags digits rest).map fun (c, rest) => (Escape.char c, rest)
      match c with
      | 'd' => some (.set (flags.named .digit), rest)
      | 's' => some (.set (flags.named .space), rest)
      | 'w' => some (.set (flags.named .word), rest)
      | 'D' => without .digit
      | 'S' => without .space
      | 'W' => without .word
      | 'x' => coded 2
      | 'u' => coded 4
      | 'U' => coded 8
      | 'a' => char '\x07'
      | 'f' => char '\x0c'
      | 't' => char '\t'
      | 'n' => char '\n'
      | 'r' => char '\r'
      | 'v' => char '\x0b'
      | 'A' => place .textStart
      | 'z' => place .textEnd
      | 'b' => (readBoundary? flags rest).map fun (assertion, rest) => (.place assertion, rest)
      | 'B' => place (.noWordBoundary flags.words)
      | '<' => place (.wordStart flags.words)
      | '>' => place (.wordEnd flags.words)
      | c => if c.toNat < 128 && !c.isAlphanum then char c else none

end QueryShape.Pattern

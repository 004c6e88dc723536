import QueryShape.Json.Document

/-!
# Tokens of a JSON text

The tokens are the six marks of punctuation, strings, and the other scalars.  A string or scalar
that is not well formed still gives a token, which holds the flaw.  After a flaw that ends the
reading there are no more tokens.
-/

namespace QueryShape.Json

inductive Token where
  | openArray
  | closeArray
  | openObject
  | closeObject
  | comma
  | colon
  | string (content : Except Flaw String)
  | scalar (value : Document)

namespace Token

def isSpace (c : Char) : Bool :=
  c == ' ' || c == '\n' || c == '\t' || c == '\r'

def hexDigit? (c : Char) : Option Nat :=
  if '0' ≤ c ∧ c ≤ '9' then some (c.toNat - '0'.toNat)
  else if 'a' ≤ c ∧ c ≤ 'f' then some (c.toNat - 'a'.toNat + 10)
  else if 'A' ≤ c ∧ c ≤ 'F' then some (c.toNat - 'A'.toNat + 10)
  else none

/-- The 16-bit unit written by four hexadecimal digits. -/
def unit? (a b c d : Char) : Option Nat := do
  let a ← hexDigit? a
  let b ← hexDigit? b
  let c ← hexDigit? c
  let d ← hexDigit? d
  return ((a * 16 + b) * 16 + c) * 16 + d

def isLeading (unit : Nat) : Bool :=
  0xD800 ≤ unit && unit < 0xDC00

def isTrailing (unit : Nat) : Bool :=
  0xDC00 ≤ unit && unit < 0xE000

/-- The character that a surrogate pair stands for. -/
def pairedChar (leading trailing : Nat) : Char :=
  Char.ofNat (0x10000 + (leading - 0xD800) * 0x400 + (trailing - 0xDC00))

/-- The character of an escape of one letter. -/
def escaped? : Char → Option Char
  | '"' => some '"'
  | '\\' => some '\\'
  | '/' => some '/'
  | 'b' => some '\x08'
  | 'f' => some '\x0c'
  | 'n' => some '\n'
  | 'r' => some '\r'
  | 't' => some '\t'
  | _ => none

/-- The flaw of a string at a fault.  Half a surrogate pair before it comes first for a reader. -/
def stringFlaw (paired : Bool) (fault : Fault) : Flaw :=
  { read := if paired then fault else .malformed, skipped := some fault }

/-- The rest of a string after its opening quote, and the text after the string.  `read` holds the
characters so far, last first; `leading` is a leading surrogate that waits for its trailing one; and
`paired` tells whether all surrogates before it came in pairs. -/
def scanString (leading : Option Nat) (paired : Bool) (read : List Char) :
    List Char → Except Flaw String × List Char
  | [] => (.error (stringFlaw paired .ended), [])
  | '"' :: rest =>
      (if paired && leading.isNone then .ok (String.ofList read.reverse) else .error .soft, rest)
  | '\\' :: [] => (.error (stringFlaw paired .ended), [])
  | '\\' :: 'u' :: a :: b :: c :: d :: rest =>
      match unit? a b c d, leading with
      | none, _ => (.error (stringFlaw paired .malformed), [])
      | some unit, none =>
          if isLeading unit then scanString (some unit) paired read rest
          else if isTrailing unit then scanString none false read rest
          else scanString none paired (Char.ofNat unit :: read) rest
      | some unit, some leading =>
          if isTrailing unit then scanString none paired (pairedChar leading unit :: read) rest
          else if isLeading unit then scanString (some unit) false read rest
          else scanString none false read rest
  | '\\' :: 'u' :: short =>
      -- The four digits are counted in bytes before any of them is looked at.
      let bytes := short.foldl (fun count c => count + c.utf8Size) 0
      (.error (stringFlaw paired (if bytes < 4 then .ended else .malformed)), [])
  | '\\' :: letter :: rest =>
      let paired := paired && leading.isNone
      match escaped? letter with
      | some c => scanString none paired (c :: read) rest
      | none => (.error (stringFlaw paired .malformed), [])
  | c :: rest =>
      let paired := paired && leading.isNone
      if c < ' ' then (.error (stringFlaw paired .malformed), [])
      else scanString none paired (c :: read) rest

/-- The flaw of a number where a digit should stand. -/
def digitFlaw (rest : List Char) : Flaw :=
  if rest.isEmpty then { read := .ended, skipped := some .malformed } else .hard .malformed

/-- Whether an exponent has a minus sign, and the text after its sign. -/
def exponentSign : List Char → Bool × List Char
  | '+' :: rest => (false, rest)
  | '-' :: rest => (true, rest)
  | rest => (false, rest)

/-- The digits of an exponent after its sign. -/
def finishExponent (negative : Bool) (text : List Char) : Except Flaw Int × List Char :=
  if (text.takeWhile Char.isDigit).isEmpty then (.error (digitFlaw text), [])
  else
    let value : Nat := (text.takeWhile Char.isDigit).foldl
      (fun sum digit => sum * 10 + (digit.toNat - '0'.toNat)) 0
    (.ok (if negative then -(value : Int) else value), text.dropWhile Char.isDigit)

/-- The exponent of a number after the letter that introduces it, and the text after it. -/
def scanExponent (text : List Char) : Except Flaw Int × List Char :=
  finishExponent (exponentSign text).1 (exponentSign text).2

/-- The number made of the parts that were read. -/
def finishNumber (negative : Bool) (whole fraction : List Char) (exponent : Int) (plain : Bool)
    (rest : List Char) : Except Flaw Number × List Char :=
  match Number.ofDigits? negative whole fraction exponent plain with
  | some number => (.ok number, rest)
  | none => (.error .soft, rest)

/-- A number after its digits and its fraction: an exponent may follow. -/
def finishFraction (negative : Bool) (whole fraction : List Char) (plain : Bool)
    (text : List Char) : Except Flaw Number × List Char :=
  match text with
  | 'e' :: rest | 'E' :: rest =>
      match scanExponent rest with
      | (.ok exponent, rest) => finishNumber negative whole fraction exponent false rest
      | (.error flaw, rest) => (.error flaw, rest)
  | rest => finishNumber negative whole fraction 0 plain rest

/-- A number after its digits: a fraction may follow. -/
def finishWhole (negative : Bool) (whole text : List Char) : Except Flaw Number × List Char :=
  match text with
  | '.' :: rest =>
      if (rest.takeWhile Char.isDigit).isEmpty then (.error (digitFlaw rest), [])
      else finishFraction negative whole (rest.takeWhile Char.isDigit) false
        (rest.dropWhile Char.isDigit)
  | rest => finishFraction negative whole [] true rest

/-- The rest of a number after its sign, and the text after the number. -/
def scanNumber (negative : Bool) (text : List Char) : Except Flaw Number × List Char :=
  if (text.takeWhile Char.isDigit).isEmpty then
    (.error (digitFlaw (text.dropWhile Char.isDigit)), [])
  else if (text.takeWhile Char.isDigit).head? = some '0' ∧
      1 < (text.takeWhile Char.isDigit).length then
    (.error (.hard .malformed), [])
  else
    finishWhole negative (text.takeWhile Char.isDigit) (text.dropWhile Char.isDigit)

/-- The token of a number that was read, or of the flaw in its place. -/
def numberToken : Except Flaw Number × List Char → Token × List Char
  | (.ok value, rest) => (.scalar (.number value), rest)
  | (.error flaw, rest) => (.scalar (.broken { flaw with opening := .word }), rest)

/-- The rest of a literal name, and the text after it. -/
def scanName (value : Document) (opening : Opening) :
    List Char → List Char → Document × List Char
  | [], rest => (value, rest)
  | _ :: _, [] => (.broken { Flaw.hard .ended with opening }, [])
  | expected :: name, c :: rest =>
      if c = expected then scanName value opening name rest
      else (.broken { Flaw.hard .malformed with opening }, [])

/-- The token that starts with a character, and the text after it. -/
def next (c : Char) (rest : List Char) : Token × List Char :=
  let name (value : Document) (opening : Opening) (letters : String) :=
    let (document, rest) := scanName value opening letters.toList rest
    (Token.scalar document, rest)
  match c with
  | '[' => (.openArray, rest)
  | ']' => (.closeArray, rest)
  | '{' => (.openObject, rest)
  | '}' => (.closeObject, rest)
  | ',' => (.comma, rest)
  | ':' => (.colon, rest)
  | '"' =>
      let (content, rest) := scanString none true [] rest
      (.string content, rest)
  | 'n' => name .null .null "ull"
  | 't' => name (.bool true) .word "rue"
  | 'f' => name (.bool false) .word "alse"
  | '-' => numberToken (scanNumber true rest)
  | c =>
      if c.isDigit then numberToken (scanNumber false (c :: rest))
      else (.scalar (.broken (.hard .malformed)), [])

/-- Every token takes at least one character, so the length of the text bounds the steps. -/
def scan (steps : Nat) (text : List Char) : List Token :=
  match steps, text.dropWhile isSpace with
  | steps + 1, c :: rest =>
      let (token, after) := next c rest
      token :: scan steps after
  | _, _ => []

end Token

/-- The tokens of a text. -/
def tokens (text : String) : List Token :=
  Token.scan text.length text.toList

end QueryShape.Json

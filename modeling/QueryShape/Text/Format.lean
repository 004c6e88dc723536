import QueryShape.Number.Double
import QueryShape.Text.Numeral

/-!
# Text formats of values

Integers, decimals and timestamps that are given as text.  Their digits may be those of any script;
only a number in ASCII digits has a numeric value.
-/

namespace QueryShape.Text

/-- The text after a minus sign at its start. -/
def unsigned : List Char → List Char
  | '-' :: rest => rest
  | text => text

def isDigits (text : List Char) : Bool :=
  !text.isEmpty && text.all isDecimalDigit

def isInteger (text : List Char) : Bool :=
  isDigits (unsigned text)

/-- An integer, or an integer with a point and more digits after it. -/
def isDecimal (text : List Char) : Bool :=
  let text := unsigned text
  match text.dropWhile isDecimalDigit with
  | [] => isDigits text
  | '.' :: fraction => isDigits (text.takeWhile isDecimalDigit) && isDigits fraction
  | _ => false

/-- The text after a number of digits. -/
def dropDigits? : Nat → List Char → Option (List Char)
  | 0, text => some text
  | count + 1, c :: rest => if isDecimalDigit c then dropDigits? count rest else none
  | _ + 1, [] => none

/-- The text after a mark, which is one of the given characters. -/
def dropMark? (marks : List Char) : List Char → Option (List Char)
  | c :: rest => if marks.contains c then some rest else none
  | [] => none

/-- The text after a mark and a number of digits. -/
def dropMarked? (marks : List Char) (count : Nat) (text : List Char) : Option (List Char) := do
  let text ← dropMark? marks text
  dropDigits? count text

/-- The text after the fraction of a second, if there is a point. -/
def dropFraction? : List Char → Option (List Char)
  | '.' :: c :: rest => if isDecimalDigit c then some (rest.dropWhile isDecimalDigit) else none
  | '.' :: [] => none
  | text => some text

/-- An offset from universal time, to the end of the text. -/
def isOffset (text : List Char) : Bool :=
  let afterOffset := do
    let text ← dropMarked? ['+', '-'] 2 text
    dropMarked? [':'] 2 text
  dropMark? ['Z', 'z'] text == some [] || afterOffset == some []

/-- A date, a time of day and an offset. -/
def isTimestamp (text : List Char) : Bool :=
  let afterTime := do
    let text ← dropDigits? 4 text
    let text ← dropMarked? ['-'] 2 text
    let text ← dropMarked? ['-'] 2 text
    let text ← dropMarked? ['T', 't', ' '] 2 text
    let text ← dropMarked? [':'] 2 text
    let text ← dropMarked? [':'] 2 text
    dropFraction? text
  afterTime.any isOffset

/-- The number nearest to a decimal in ASCII digits. -/
def decimalValue? (text : List Char) : Option Double :=
  let digits := (unsigned text).filter (· ≠ '.')
  let fraction := (text.dropWhile (· ≠ '.')).drop 1
  if digits.all Char.isDigit then
    let value := digits.foldl (fun sum digit => sum * 10 + (digit.toNat - '0'.toNat)) 0
    some (Double.ofDecimal (text.head? = some '-') value fraction.length)
  else
    none

end QueryShape.Text

import QueryShape.Number.Shortest

/-!
# JSON numbers

A number written without a fraction and without an exponent is an integer when it fits 64 bits,
unsigned, or signed with a minus sign; every other number, `-0` among them, is a floating-point
number.  The digits of a floating-point number go into a 64-bit significand as long as they fit, and
that significand is then multiplied or divided by a power of ten, with one rounding for each step.
-/

namespace QueryShape.Json

inductive Number where
  | integer (value : Int)
  | float (value : FiniteDouble)
deriving DecidableEq, Repr

/-- The digits that fit a 64-bit significand, and how many were left. -/
def gatherDigits (significand : Nat) : List Char → Nat × Nat
  | [] => (significand, 0)
  | digit :: rest =>
      let next := significand * 10 + (digit.toNat - '0'.toNat)
      if next < Nat.pow 2 64 then gatherDigits next rest else (significand, rest.length + 1)

/-- A significand times a power of ten, if this is not too large.  Powers beyond `10 ^ 308` are out
of reach for a product; a quotient by one is taken in two steps, and is zero where the second step
is too large as well. -/
def scaleByTen? (negative : Bool) (significand : Nat) (exponent : Int) : Option FiniteDouble :=
  let start := Binary.ofNat negative significand
  match exponent with
  | .ofNat power =>
      if power ≤ 308 then (start.timesPowerOfTen power).finite?
      else if significand = 0 then start.finite? else none
  | .negSucc before =>
      let power := before + 1
      if power ≤ 308 then (start.overPowerOfTen power).finite?
      else if power ≤ 616 then ((start.overPowerOfTen 308).overPowerOfTen (power - 308)).finite?
      else (Binary.zero negative).finite?

namespace Number

/-- The number with the given digits before and after the point and the given exponent; none if it
is larger than every floating-point number. -/
def ofDigits? (negative : Bool) (whole : List Char) (fraction : List Char) (exponent : Int)
    (plain : Bool) : Option Number :=
  let value := whole.foldl (fun sum digit => sum * 10 + (digit.toNat - '0'.toNat)) 0
  if plain && !negative && value < Nat.pow 2 64 then
    some (.integer value)
  else if plain && negative && 0 < value && value ≤ Nat.pow 2 63 then
    some (.integer (-(value : Int)))
  else
    let (leading, dropped) := gatherDigits 0 whole
    let (significand, droppedFraction) := gatherDigits leading fraction
    let shift : Int := (dropped : Int) - ((fraction.length - droppedFraction : Nat) : Int)
    (scaleByTen? negative significand (exponent + shift)).map .float

def toDouble : Number → Double
  | .integer value => Double.ofInt value
  | .float value => .finite value

def text : Number → String
  | .integer value => toString value
  | .float value => value.scientificText

end Number

end QueryShape.Json

import QueryShape.Number.Double

/-!
# The shortest decimal form of a floating-point number

A decimal stands for a number when it lies in the interval of reals that round to it; the ends of
the interval belong to it when the number's significand is even.  `Binary.shortest` looks for the
fewest digits first: on the grid of decimals with one digit, then two, and so on, it tries the two
neighbours of the number, and of two that fit it takes the nearer.  Of two that are equally near,
the plain form takes the greater magnitude and the scientific form the one that ends in an even
digit.
-/

namespace QueryShape

/-- The decimal `digits * 10 ^ exponent`. -/
structure Decimal where
  digits : Nat
  exponent : Int
deriving DecidableEq, Repr

namespace Decimal

/-- The same decimal without zeros at the end of its digits. -/
def trimZeros (decimal : Decimal) : Decimal :=
  go decimal.digits decimal
where
  go : Nat → Decimal → Decimal
    | 0, decimal => decimal
    | steps + 1, decimal =>
        if decimal.digits ≠ 0 ∧ decimal.digits % 10 = 0 then
          go steps ⟨decimal.digits / 10, decimal.exponent + 1⟩
        else
          decimal

def digitChars (decimal : Decimal) : List Char :=
  Nat.toDigits 10 decimal.digits

/-- The exponent of the first digit. -/
def leadingExponent (decimal : Decimal) : Int :=
  decimal.exponent + (decimal.digitChars.length : Int) - 1

/-- The digits with a point, and with zeros up to it, but without an exponent. -/
def positional (decimal : Decimal) : List Char :=
  let digits := decimal.digitChars
  match decimal.exponent with
  | .ofNat zeros => digits ++ List.replicate zeros '0'
  | .negSucc places =>
      let places := places + 1
      let padded := List.replicate (places + 1 - digits.length) '0' ++ digits
      let whole := padded.length - places
      padded.take whole ++ '.' :: padded.drop whole

end Decimal

namespace Binary

/-- The interval of the reals that round to a magnitude, in quarters of a unit. -/
structure Interval where
  low : Nat
  high : Nat
  closed : Bool

/-- Below a power of two the spacing is half as wide, unless it is the least spacing already. -/
def roundingInterval (units : Nat) : Interval :=
  let step := spacing units
  let narrow := step ≠ 1 ∧ units = Nat.pow 2 units.log2
  { low := 4 * units - (if narrow then step else 2 * step)
    high := 4 * units + 2 * step
    closed := units / step % 2 == 0 }

def Interval.contains (interval : Interval) (numerator denominator : Nat) : Bool :=
  if interval.closed then
    interval.low * denominator ≤ numerator && numerator ≤ interval.high * denominator
  else
    interval.low * denominator < numerator && numerator < interval.high * denominator

/-- The exponent of the first decimal digit of a positive magnitude. -/
def leadingExponent (units : Nat) : Int :=
  ((Nat.toDigits 10 (units * Nat.pow 10 324 / unitsPerOne)).length : Int) - 1 - 324

/-- Which of two decimals that are equally near to a number stands for it. -/
inductive Tie where
  | greater
  | even
deriving DecidableEq, Repr

/-- Whether the lesser of two neighbours on a grid wins a tie. -/
def Tie.keepsBelow (tie : Tie) (below : Nat) : Bool :=
  match tie with
  | .greater => false
  | .even => below % 2 == 0

/-- The nearest decimal on the grid of multiples of `10 ^ exponent` that stands for the
magnitude. -/
def onGrid? (tie : Tie) (units : Nat) (exponent : Int) : Option Decimal :=
  let interval := roundingInterval units
  -- In quarters of a unit, a multiple `d` of the grid is `d * scale / divisor`.
  let scale := 4 * unitsPerOne * Nat.pow 10 exponent.toNat
  let divisor := Nat.pow 10 (-exponent).toNat
  let below := 4 * units * divisor / scale
  let remainder := 4 * units * divisor % scale
  let fits (digits : Nat) := interval.contains (digits * scale) divisor
  let nearer := if 2 * remainder < scale || (2 * remainder == scale && tie.keepsBelow below)
    then [below, below + 1] else [below + 1, below]
  (nearer.find? fits).map (⟨·, exponent⟩)

/-- The decimal with the fewest digits that stands for the magnitude. -/
def shortest (tie : Tie) (units : Nat) : Decimal :=
  if units = 0 then
    ⟨0, 0⟩
  else
    let leading := leadingExponent units
    let found := (List.range 17).findSome? fun (extra : Nat) =>
      onGrid? tie units (leading - extra)
    (found.getD ⟨0, 0⟩).trimZeros

def signChars (x : Binary) : List Char :=
  if x.negative then ['-'] else []

/-- The shortest digits, never with an exponent, and with a point only before a fraction. -/
def plainText (x : Binary) : String :=
  String.ofList (x.signChars ++ (shortest .greater x.units).positional)

/-- The shortest digits, always with a fraction or an exponent: positional while the exponent of the
first digit is between `-5` and `15`, and otherwise one digit before the point and a signed
exponent. -/
def scientificText (x : Binary) : String :=
  let decimal := shortest .even x.units
  let leading := decimal.leadingExponent
  let body :=
    if -5 ≤ leading ∧ leading ≤ 15 then
      decimal.positional ++ (if 0 ≤ decimal.exponent then ['.', '0'] else [])
    else
      let fraction := match decimal.digitChars with
        | [] => []
        | [digit] => [digit]
        | digit :: others => digit :: '.' :: others
      let sign := if leading < 0 then '-' else '+'
      fraction ++ 'e' :: sign :: Nat.toDigits 10 leading.natAbs
  String.ofList (x.signChars ++ body)

end Binary

/-- The text of a number in a message. -/
def Double.plainText : Double → String
  | finite x => x.plainText
  | infinite negative => if negative then "-inf" else "inf"
  | nan => "NaN"

end QueryShape

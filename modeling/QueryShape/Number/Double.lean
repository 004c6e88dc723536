import QueryShape.Number.Rounding

/-!
# Binary floating-point numbers

A `Binary` is a sign and a magnitude that fits a significand of 53 bits; its exponent has no upper
bound.  A `Double` is a number of the 64-bit format, whose exponent has one: a magnitude beyond it
becomes an infinity.  Every comparison is one of exact integers, with an infinity at either end, and
what is not a number compares with nothing.
-/

namespace QueryShape

structure Binary where
  negative : Bool
  /-- The magnitude in units. -/
  units : Nat
  fits : Binary.Fits units
deriving DecidableEq, Repr

namespace Binary

/-- How many units make one. -/
def unitsPerOne : Nat := Nat.pow 2 1074

/-- The first magnitude, in units, that the 64-bit format has no room for. -/
@[irreducible]
def overflowUnits : Nat := Nat.pow 2 (1074 + 1024)

/-- The value in units, with its sign; both zeros have the value `0`. -/
def signedUnits (x : Binary) : Int :=
  if x.negative then -(x.units : Int) else x.units

/-- The number nearest to a quotient, counted in units, under a sign. -/
def rounded (negative : Bool) (numerator denominator : Nat) : Binary where
  negative := negative
  units := roundUnits numerator denominator
  fits := fits_roundUnits numerator denominator

def zero (negative : Bool) : Binary where
  negative := negative
  units := 0
  fits := fits_zero

/-- The number nearest to a natural number, under a sign. -/
def ofNat (negative : Bool) (value : Nat) : Binary :=
  rounded negative (value * unitsPerOne) 1

/-- The number nearest to an integer. -/
def ofInt (value : Int) : Binary :=
  ofNat (value < 0) value.natAbs

/-- The number nearest to `digits * 10 ^ -places`, for a number of decimal places. -/
def ofDecimal (negative : Bool) (digits places : Nat) : Binary :=
  rounded negative (digits * unitsPerOne) (Nat.pow 10 places)

/-- The rounded product with a power of ten, the power being rounded first. -/
def timesPowerOfTen (x : Binary) (exponent : Nat) : Binary :=
  rounded x.negative (x.units * roundUnits (Nat.pow 10 exponent * unitsPerOne) 1) unitsPerOne

/-- The rounded quotient by a power of ten, the power being rounded first. -/
def overPowerOfTen (x : Binary) (exponent : Nat) : Binary :=
  rounded x.negative (x.units * unitsPerOne) (roundUnits (Nat.pow 10 exponent * unitsPerOne) 1)

end Binary

/-- A finite number of the 64-bit format. -/
structure FiniteDouble extends Binary where
  bounded : units < Binary.overflowUnits
deriving DecidableEq, Repr

/-- The number, if the 64-bit format has room for it. -/
def Binary.finite? (x : Binary) : Option FiniteDouble :=
  if bounded : x.units < overflowUnits then some { x with bounded } else none

/-- A number of the 64-bit format. -/
inductive Double where
  | finite (number : FiniteDouble)
  | infinite (negative : Bool)
  | nan
deriving DecidableEq, Repr

/-- The number in the 64-bit format, or an infinity if it is too large. -/
def Binary.toDouble (x : Binary) : Double :=
  x.finite?.elim (.infinite x.negative) .finite

theorem Binary.toDouble_of_finite? {x : Binary} {number : FiniteDouble}
    (hfinite : x.finite? = some number) : x.toDouble = .finite number := by
  rw [toDouble, hfinite, Option.elim_some]

namespace Double

def isFinite : Double → Bool
  | finite _ => true
  | _ => false

def lt : Double → Double → Bool
  | finite x, finite y => x.signedUnits < y.signedUnits
  | finite _, infinite negative => !negative
  | infinite negative, finite _ => negative
  | infinite negative, infinite other => negative && !other
  | nan, _ | _, nan => false

def ofInt (value : Int) : Double :=
  (Binary.ofInt value).toDouble

/-- The number nearest to `digits * 10 ^ -places`, or an infinity where this is too large. -/
def ofDecimal (negative : Bool) (digits places : Nat) : Double :=
  (Binary.ofDecimal negative digits places).toDouble

end Double

end QueryShape

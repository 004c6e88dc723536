import Mathlib.Algebra.Order.Field.Basic
import Mathlib.Algebra.Order.Field.Rat
import Mathlib.Algebra.Order.Ring.Abs
import Mathlib.Data.Nat.Log
import Mathlib.Tactic.Linarith
import Mathlib.Tactic.Ring
import QueryShape.Number.Double

/-!
# Rounding to the nearest number

A magnitude fits the format if it is a multiple of the spacing around it.  No magnitude that fits
lies between the two multiples of the spacing on either side of a quotient, and both of them fit; so
the one that rounding chooses is at least as near as every other number of the format, and of two
that are equally near it is the one with the even significand.
-/

namespace QueryShape

namespace Binary

/-! ## Magnitudes that fit the format -/

theorem spacing_dvd_spacing {units others : Nat} (hle : units ≤ others) :
    spacing units ∣ spacing others := by
  apply Nat.pow_dvd_pow 2
  rw [Nat.log2_eq_log_two, Nat.log2_eq_log_two]
  exact Nat.sub_le_sub_right (Nat.log_mono_right hle) 52

/-- A multiple of a power of two fits if the factor is a significand, or the first one that is too
large. -/
theorem fits_mul_two_pow {magnitude : Nat} (hmagnitude : magnitude ≤ 2 ^ 53) (exponent : Nat) :
    Fits (magnitude * 2 ^ exponent) := by
  rcases hmagnitude.eq_or_lt with rfl | hless
  · rw [← pow_add]
    exact fits_two_pow _
  · by_cases hzero : magnitude = 0
    · rw [hzero, Nat.zero_mul]
      exact fits_zero
    · have hbelow : magnitude * 2 ^ exponent < 2 ^ (53 + exponent) := by
        rw [pow_add]
        exact Nat.mul_lt_mul_of_pos_right hless (Nat.two_pow_pos _)
      have hnonzero : magnitude * 2 ^ exponent ≠ 0 :=
        Nat.mul_ne_zero hzero (Nat.two_pow_pos _).ne'
      have hlog := (Nat.log2_lt hnonzero).mpr hbelow
      have hspacing : spacing (magnitude * 2 ^ exponent) ∣ 2 ^ exponent :=
        Nat.pow_dvd_pow 2 (by omega)
      exact hspacing.mul_left magnitude

/-! ## The neighbours of a magnitude -/

section

variable {units other : Nat}

/-- Nothing that fits lies between the neighbours of a magnitude. -/
theorem le_lowerNeighbour_of_fits (hother : Fits other) (hle : other ≤ units) :
    other ≤ lowerNeighbour units := by
  by_cases hzero : other = 0
  · rw [hzero]
    exact Nat.zero_le _
  rcases lt_or_ge other (2 ^ units.log2) with hlt | hge
  · have hunits : units ≠ 0 := (lt_of_lt_of_le (Nat.pos_of_ne_zero hzero) hle).ne'
    exact hlt.le.trans (two_pow_le_lowerNeighbour hunits)
  · have hunits : units ≠ 0 := (lt_of_lt_of_le (Nat.pos_of_ne_zero hzero) hle).ne'
    have hspacing := spacing_eq_spacing hge (hle.trans_lt Nat.lt_log2_self)
    apply le_lowerNeighbour_of_dvd _ hle
    rw [← hspacing]
    exact hother

theorem upperNeighbour_le_of_fits (hother : Fits other) (hlt : units < other) :
    upperNeighbour units ≤ other :=
  upperNeighbour_le_of_dvd ((spacing_dvd_spacing hlt.le).trans hother) hlt

theorem le_lowerNeighbour_or_upperNeighbour_le (hother : Fits other) :
    other ≤ lowerNeighbour units ∨ upperNeighbour units ≤ other :=
  (le_or_gt other units).imp (le_lowerNeighbour_of_fits hother)
    (upperNeighbour_le_of_fits hother)

/-- The significand of a neighbour is the number of its multiples of the spacing, or that of a power
of two. -/
theorem even_lowerNeighbour (heven : 2 ∣ units / spacing units) :
    2 * spacing (lowerNeighbour units) ∣ lowerNeighbour units := by
  by_cases hunits : units = 0
  · rw [hunits]
    exact dvd_zero _
  · rw [spacing_lowerNeighbour hunits]
    exact Nat.mul_dvd_mul_right heven _

theorem even_upperNeighbour (heven : 2 ∣ units / spacing units + 1) :
    2 * spacing (upperNeighbour units) ∣ upperNeighbour units := by
  rcases upperNeighbour_cases units with hspacing | hpower
  · rw [hspacing]
    exact Nat.mul_dvd_mul_right heven _
  · rw [hpower, spacing_two_pow, Nat.pow_eq, ← Nat.pow_succ']
    exact Nat.pow_dvd_pow 2 (by omega)

end

/-! ## Rounding a quotient -/

/-- No magnitude of the format is nearer to `target`, and if another one is as near, then the
significand of this one is even. -/
structure NearestUnits (units : Nat) (target : ℚ) : Prop where
  fits : Fits units
  nearest : ∀ other, Fits other → |target - units| ≤ |target - other|
  even : ∀ other, Fits other → |target - units| = |target - other| →
    other = units ∨ 2 * spacing units ∣ units

/-- Rounding chooses the nearer neighbour of a quotient, and half-way the one that is an even
multiple of the spacing. -/
theorem roundUnits_cases (numerator denominator : Nat) :
    let quotient := numerator / denominator
    let low := lowerNeighbour quotient
    let high := upperNeighbour quotient
    (roundUnits numerator denominator = low ∧ 2 * numerator ≤ denominator * (low + high) ∧
        (2 * numerator = denominator * (low + high) → 2 ∣ quotient / spacing quotient)) ∨
      (roundUnits numerator denominator = high ∧ denominator * (low + high) ≤ 2 * numerator ∧
        (2 * numerator = denominator * (low + high) → 2 ∣ quotient / spacing quotient + 1)) := by
  intro quotient low high
  have hround : roundUnits numerator denominator =
      if 2 * numerator < denominator * (low + high) ∨
          2 * numerator = denominator * (low + high) ∧ quotient / spacing quotient % 2 = 0
        then low else high := rfl
  rw [hround]
  split
  · next hdown => exact Or.inl ⟨rfl, by omega, by omega⟩
  · next hup => exact Or.inr ⟨rfl, by omega, by omega⟩

section

variable {low high target chosen other : ℚ}

/-- Of the two ends of an interval, the one that is nearer to a target between them is at least as
near as every point outside. -/
theorem abs_sub_le_of_outside (hlow : low ≤ target) (hhigh : target ≤ high)
    (hchosen : chosen = low ∧ 2 * target ≤ low + high ∨ chosen = high ∧ low + high ≤ 2 * target)
    (hother : other ≤ low ∨ high ≤ other) : |target - chosen| ≤ |target - other| := by
  have hnear : |target - chosen| ≤ target - low ∧ |target - chosen| ≤ high - target := by
    rcases hchosen with ⟨rfl, hhalf⟩ | ⟨rfl, hhalf⟩
    · rw [abs_of_nonneg (by linarith)]
      constructor <;> linarith
    · rw [abs_of_nonpos (by linarith)]
      constructor <;> linarith
  rcases hother with hother | hother
  · exact le_abs.mpr (Or.inl (by linarith))
  · exact le_abs.mpr (Or.inr (by linarith))

/-- A point outside is as near only if it is the same end, or if the target is half-way. -/
theorem eq_or_halfway_of_abs_sub_eq (hlow : low ≤ target) (hhigh : target ≤ high)
    (hchosen : chosen = low ∧ 2 * target ≤ low + high ∨ chosen = high ∧ low + high ≤ 2 * target)
    (hother : other ≤ low ∨ high ≤ other) (hsame : |target - chosen| = |target - other|) :
    other = chosen ∨ 2 * target = low + high := by
  rcases hother with hother | hother
  · rw [abs_of_nonneg (show 0 ≤ target - other by linarith)] at hsame
    rcases hchosen with ⟨rfl, hhalf⟩ | ⟨rfl, hhalf⟩
    · rw [abs_of_nonneg (by linarith)] at hsame
      exact Or.inl (by linarith)
    · rw [abs_of_nonpos (by linarith)] at hsame
      exact Or.inr (by linarith)
  · rw [abs_of_nonpos (show target - other ≤ 0 by linarith)] at hsame
    rcases hchosen with ⟨rfl, hhalf⟩ | ⟨rfl, hhalf⟩
    · rw [abs_of_nonneg (by linarith)] at hsame
      exact Or.inr (by linarith)
    · rw [abs_of_nonpos (by linarith)] at hsame
      exact Or.inl (by linarith)

end

section

variable {numerator denominator other : Nat}

theorem lowerNeighbour_le_div (hdenominator : 0 < denominator) :
    (lowerNeighbour (numerator / denominator) : ℚ) ≤ numerator / denominator := by
  have hlow := lowerNeighbour_le (numerator / denominator)
  rw [Nat.le_div_iff_mul_le hdenominator] at hlow
  rw [le_div_iff₀ (by exact_mod_cast hdenominator)]
  exact_mod_cast hlow

theorem div_le_upperNeighbour (hdenominator : 0 < denominator) :
    (numerator : ℚ) / denominator ≤ upperNeighbour (numerator / denominator) := by
  have hhigh := lt_upperNeighbour (numerator / denominator)
  rw [Nat.div_lt_iff_lt_mul hdenominator] at hhigh
  rw [div_le_iff₀ (by exact_mod_cast hdenominator)]
  exact_mod_cast hhigh.le

theorem two_mul_div_le_iff (hdenominator : 0 < denominator) :
    2 * ((numerator : ℚ) / denominator) ≤ other ↔ 2 * numerator ≤ denominator * other := by
  rw [← mul_div_assoc, div_le_iff₀ (by exact_mod_cast hdenominator), mul_comm (other : ℚ)]
  exact_mod_cast Iff.rfl

theorem le_two_mul_div_iff (hdenominator : 0 < denominator) :
    (other : ℚ) ≤ 2 * ((numerator : ℚ) / denominator) ↔ denominator * other ≤ 2 * numerator := by
  rw [← mul_div_assoc, le_div_iff₀ (by exact_mod_cast hdenominator), mul_comm (other : ℚ)]
  exact_mod_cast Iff.rfl

/-- The rounded quotient is the end that is nearer to the quotient, of the two between which it
lies. -/
theorem roundUnits_nearer (hdenominator : 0 < denominator) :
    let target : ℚ := (numerator : ℚ) / denominator
    let low : ℚ := lowerNeighbour (numerator / denominator)
    let high : ℚ := upperNeighbour (numerator / denominator)
    ((roundUnits numerator denominator : ℚ) = low ∧ 2 * target ≤ low + high) ∨
      ((roundUnits numerator denominator : ℚ) = high ∧ low + high ≤ 2 * target) := by
  intro target low high
  have hsum : low + high = ((lowerNeighbour (numerator / denominator) +
      upperNeighbour (numerator / denominator) : Nat) : ℚ) := by
    push_cast
    rfl
  rw [hsum, two_mul_div_le_iff hdenominator, le_two_mul_div_iff hdenominator]
  rcases roundUnits_cases numerator denominator with ⟨hround, hhalf, -⟩ | ⟨hround, hhalf, -⟩
  · exact Or.inl ⟨congrArg Nat.cast hround, hhalf⟩
  · exact Or.inr ⟨congrArg Nat.cast hround, hhalf⟩

theorem outside_of_fits (hother : Fits other) :
    (other : ℚ) ≤ lowerNeighbour (numerator / denominator) ∨
      (upperNeighbour (numerator / denominator) : ℚ) ≤ other := by
  exact_mod_cast le_lowerNeighbour_or_upperNeighbour_le hother

theorem abs_sub_roundUnits_le (hdenominator : 0 < denominator) (hother : Fits other) :
    |(numerator : ℚ) / denominator - roundUnits numerator denominator| ≤
      |(numerator : ℚ) / denominator - other| :=
  abs_sub_le_of_outside (lowerNeighbour_le_div hdenominator) (div_le_upperNeighbour hdenominator)
    (roundUnits_nearer hdenominator) (outside_of_fits hother)

theorem even_roundUnits (hdenominator : 0 < denominator) (hother : Fits other)
    (hsame : |(numerator : ℚ) / denominator - roundUnits numerator denominator| =
      |(numerator : ℚ) / denominator - other|) :
    other = roundUnits numerator denominator ∨
      2 * spacing (roundUnits numerator denominator) ∣ roundUnits numerator denominator := by
  rcases eq_or_halfway_of_abs_sub_eq (lowerNeighbour_le_div hdenominator)
    (div_le_upperNeighbour hdenominator) (roundUnits_nearer hdenominator)
    (outside_of_fits hother) hsame with heq | hhalf
  · exact Or.inl (by exact_mod_cast heq)
  · have hsum : 2 * numerator = denominator * (lowerNeighbour (numerator / denominator) +
        upperNeighbour (numerator / denominator)) := by
      apply le_antisymm
      · rw [← two_mul_div_le_iff hdenominator]
        exact_mod_cast hhalf.le
      · rw [← le_two_mul_div_iff hdenominator]
        exact_mod_cast hhalf.ge
    right
    rcases roundUnits_cases numerator denominator with ⟨hround, -, heven⟩ | ⟨hround, -, heven⟩
    · rw [hround]
      exact even_lowerNeighbour (heven hsum)
    · rw [hround]
      exact even_upperNeighbour (heven hsum)

theorem nearestUnits_roundUnits (hdenominator : 0 < denominator) :
    NearestUnits (roundUnits numerator denominator) (numerator / denominator) where
  fits := fits_roundUnits numerator denominator
  nearest _ hother := abs_sub_roundUnits_le hdenominator hother
  even _ hother := even_roundUnits hdenominator hother

end

/-! ## The nearest number -/

/-- The number itself, as a fraction. -/
def value (x : Binary) : ℚ :=
  x.signedUnits / unitsPerOne

/-- No number is nearer to `target`, and if another one is as near, then the significand of this one
is even. -/
structure IsNearest (x : Binary) (target : ℚ) : Prop where
  nearest : ∀ y : Binary, |target - x.value| ≤ |target - y.value|
  even : ∀ y : Binary, |target - x.value| = |target - y.value| →
    y.value = x.value ∨ 2 * spacing x.units ∣ x.units

theorem unitsPerOne_pos : (0 : ℚ) < unitsPerOne :=
  Nat.cast_pos.mpr (by decide +kernel)

/-- A sign as a factor. -/
def sign (negative : Bool) : ℚ :=
  if negative then -1 else 1

@[simp]
theorem sign_false : sign false = 1 := rfl

@[simp]
theorem sign_true : sign true = -1 := rfl

theorem abs_sign (negative : Bool) : |sign negative| = 1 := by
  cases negative <;> simp

theorem sign_eq_neg {negative other : Bool} (hother : other ≠ negative) :
    sign other = -sign negative := by
  cases negative <;> cases other <;> simp_all

theorem value_eq (x : Binary) : x.value = sign x.negative * x.units / unitsPerOne := by
  have hsigned : (x.signedUnits : ℚ) = sign x.negative * x.units := by
    rw [signedUnits, sign]
    split <;> simp
  rw [value, hsigned]

/-- Numbers of different signs are no nearer to each other than their magnitudes. -/
theorem abs_sub_le_abs_sign_sub {left right : ℚ} (hleft : 0 ≤ left) (hright : 0 ≤ right)
    (negative other : Bool) :
    |left - right| ≤ |sign negative * left - sign other * right| := by
  have hmagnitude := abs_abs_sub_abs_le (sign negative * left) (sign other * right)
  rwa [abs_mul, abs_mul, abs_sign, abs_sign, one_mul, one_mul, abs_of_nonneg hleft,
    abs_of_nonneg hright] at hmagnitude

/-- Of two magnitudes that are equally far from a target on opposite sides of zero, the nearer one
is zero. -/
theorem units_eq_zero_of_opposite {target : ℚ} {units : Nat} {negative other : Bool}
    (htarget : 0 ≤ target) (hzero : |target - units| ≤ target) (hother : other ≠ negative)
    (hsame : |sign negative * target - sign other * units| = |target - units|) : units = 0 := by
  have hsum : |sign negative * target - sign other * units| = target + units := by
    rw [sign_eq_neg hother, neg_mul, sub_neg_eq_add, ← mul_add, abs_mul, abs_sign, one_mul]
    exact abs_of_nonneg (add_nonneg htarget (Nat.cast_nonneg _))
  have hnonpos : (units : ℚ) ≤ 0 := by linarith
  exact_mod_cast le_antisymm hnonpos (Nat.cast_nonneg units)

theorem abs_sign_mul_sub_value (negative : Bool) (target : ℚ) (y : Binary) :
    |sign negative * (target / unitsPerOne) - y.value| =
      |sign negative * target - sign y.negative * y.units| / unitsPerOne := by
  have hscaled : sign negative * (target / unitsPerOne) - y.value =
      (sign negative * target - sign y.negative * y.units) / unitsPerOne := by
    rw [value_eq, sub_div, mul_div_assoc (sign negative)]
  rw [hscaled, abs_div, abs_of_pos unitsPerOne_pos]

/-- If the magnitude of a number is nearest to a fraction, the number is nearest to the fraction
under its sign. -/
theorem NearestUnits.isNearest {x : Binary} {target : ℚ} (hunits : NearestUnits x.units target)
    (htarget : 0 ≤ target) : x.IsNearest (sign x.negative * (target / unitsPerOne)) := by
  have hchosen : |sign x.negative * target - sign x.negative * x.units| = |target - x.units| := by
    rw [← mul_sub, abs_mul, abs_sign, one_mul]
  have hless : ∀ y : Binary,
      |target - y.units| ≤ |sign x.negative * target - sign y.negative * y.units| :=
    fun y => abs_sub_le_abs_sign_sub htarget (Nat.cast_nonneg _) x.negative y.negative
  refine ⟨?nearest, ?even⟩
  case nearest =>
    intro y
    rw [abs_sign_mul_sub_value, abs_sign_mul_sub_value]
    apply div_le_div_of_nonneg_right _ unitsPerOne_pos.le
    calc
      |sign x.negative * target - sign x.negative * x.units|
      _ = |target - x.units| := hchosen
      _ ≤ |target - y.units| := hunits.nearest y.units y.fits
      _ ≤ |sign x.negative * target - sign y.negative * y.units| := hless y
  case even =>
    intro y hsame
    rw [abs_sign_mul_sub_value, abs_sign_mul_sub_value,
      div_left_inj' unitsPerOne_pos.ne'] at hsame
    have hopposite := hsame.symm.trans hchosen
    have hmagnitudes : |target - x.units| = |target - y.units| :=
      le_antisymm (hunits.nearest y.units y.fits) ((hless y).trans_eq hopposite)
    rcases hunits.even y.units y.fits hmagnitudes with heq | heven
    · by_cases hsign : y.negative = x.negative
      · left
        rw [value_eq, value_eq, hsign, heq]
      · -- On the other side of zero only zero itself is as near.
        have hzero : |target - x.units| ≤ target := by
          have hnone := hunits.nearest 0 fits_zero
          rwa [Nat.cast_zero, sub_zero, abs_of_nonneg htarget] at hnone
        rw [heq] at hopposite
        right
        rw [units_eq_zero_of_opposite htarget hzero hsign hopposite]
        exact dvd_zero _
    · exact Or.inr heven

/-- Rounding finds the nearest number. -/
theorem isNearest_rounded (negative : Bool) (numerator : Nat) {denominator : Nat}
    (hdenominator : 0 < denominator) :
    (rounded negative (numerator * unitsPerOne) denominator).IsNearest
      (sign negative * (numerator / denominator)) := by
  have htarget : (0 : ℚ) ≤ ((numerator * unitsPerOne : Nat) : ℚ) / denominator :=
    div_nonneg (Nat.cast_nonneg _) (Nat.cast_nonneg _)
  have hquotient : ((numerator * unitsPerOne : Nat) : ℚ) / denominator / unitsPerOne =
      numerator / denominator := by
    rw [Nat.cast_mul, div_right_comm, mul_div_cancel_right₀ _ unitsPerOne_pos.ne']
  have hnearest : NearestUnits (rounded negative (numerator * unitsPerOne) denominator).units
      (((numerator * unitsPerOne : Nat) : ℚ) / denominator) := nearestUnits_roundUnits hdenominator
  rw [← hquotient]
  exact hnearest.isNearest htarget

theorem sign_mul_natAbs (number : Int) :
    sign (decide (number < 0)) * number.natAbs = number := by
  rw [Nat.cast_natAbs, Int.cast_abs]
  by_cases hnegative : number < 0
  · have hcast : (number : ℚ) < 0 := by exact_mod_cast hnegative
    simp [hnegative, abs_of_neg hcast]
  · have hcast : (0 : ℚ) ≤ number := by exact_mod_cast not_lt.mp hnegative
    simp [hnegative, abs_of_nonneg hcast]

theorem isNearest_ofInt (number : Int) : (ofInt number).IsNearest number := by
  have hnearest := isNearest_rounded (decide (number < 0)) number.natAbs Nat.one_pos
  rwa [Nat.cast_one, div_one, sign_mul_natAbs] at hnearest

theorem isNearest_ofDecimal (negative : Bool) (digits places : Nat) :
    (ofDecimal negative digits places).IsNearest (sign negative * (digits / 10 ^ places)) := by
  have hpositive : 0 < Nat.pow 10 places := Nat.pow_pos (by decide)
  have hnearest := isNearest_rounded negative digits hpositive
  have hpower : ((Nat.pow 10 places : Nat) : ℚ) = 10 ^ places := Nat.cast_pow 10 places
  rwa [hpower] at hnearest

/-! ## Comparing with the nearest number -/

theorem value_lt_value_iff {x y : Binary} : x.value < y.value ↔ x.signedUnits < y.signedUnits := by
  rw [value, value, div_lt_div_iff_of_pos_right unitsPerOne_pos]
  exact Int.cast_lt

section

variable {x y : Binary} {target : ℚ}

/-- Every number is nearest to itself. -/
theorem isNearest_value (x : Binary) : x.IsNearest x.value := by
  refine ⟨fun y => ?_, fun y hsame => Or.inl ?_⟩
  · rw [sub_self, abs_zero]
    exact abs_nonneg _
  · rw [sub_self, abs_zero] at hsame
    exact (sub_eq_zero.mp (abs_eq_zero.mp hsame.symm)).symm

/-- What is nearest to a number is the number itself. -/
theorem IsNearest.value_eq (hx : x.IsNearest target) (htarget : y.value = target) :
    x.value = target := by
  have hdistance := hx.nearest y
  rw [htarget, sub_self, abs_zero] at hdistance
  exact (sub_eq_zero.mp (abs_nonpos_iff.mp hdistance)).symm

theorem natAbs_signedUnits (x : Binary) : x.signedUnits.natAbs = x.units := by
  rw [signedUnits]
  split <;> simp

theorem units_eq_of_value_eq (hvalue : x.value = y.value) : x.units = y.units := by
  have hsigned : x.signedUnits = y.signedUnits :=
    le_antisymm (not_lt.mp fun hlt => (value_lt_value_iff.mpr hlt).ne' hvalue)
      (not_lt.mp fun hlt => (value_lt_value_iff.mpr hlt).ne hvalue)
  rw [← natAbs_signedUnits, hsigned, natAbs_signedUnits]

theorem IsNearest.congr (hx : x.IsNearest target) (hvalue : y.value = x.value) :
    y.IsNearest target := by
  refine ⟨?_, ?_⟩
  · rw [hvalue]
    exact hx.nearest
  · rw [hvalue, units_eq_of_value_eq hvalue]
    exact hx.even

/-- A target is beyond a bound that its nearest number keeps only if this number is the bound. -/
theorem IsNearest.le_or_isNearest (hx : x.IsNearest target) (hle : x.value ≤ y.value) :
    target ≤ y.value ∨ y.IsNearest target := by
  rcases le_or_gt target y.value with htarget | htarget
  · exact Or.inl htarget
  · have hdistance := hx.nearest y
    rw [abs_of_pos (by linarith), abs_of_pos (by linarith)] at hdistance
    exact Or.inr (hx.congr (le_antisymm (by linarith) hle))

theorem IsNearest.ge_or_isNearest (hx : x.IsNearest target) (hge : y.value ≤ x.value) :
    y.value ≤ target ∨ y.IsNearest target := by
  rcases le_or_gt y.value target with htarget | htarget
  · exact Or.inl htarget
  · have hdistance := hx.nearest y
    rw [abs_of_neg (by linarith), abs_of_neg (by linarith)] at hdistance
    exact Or.inr (hx.congr (le_antisymm hge (by linarith)))

end

end Binary

end QueryShape

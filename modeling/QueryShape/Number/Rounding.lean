/-!
# Rounding to a significand of 53 bits

Magnitudes are counted in units of `2 ^ -1074`, the least positive magnitude of the 64-bit format.
A magnitude fits the format if it is a multiple of the spacing around it, which leaves 53 bits for
its significand.  A quotient is rounded to the nearer one of the two multiples of the spacing on
either side of it, and both of them fit.
-/

namespace QueryShape.Binary

/-- The spacing, in units, of the representable magnitudes around a magnitude of `units` units. -/
def spacing (units : Nat) : Nat :=
  Nat.pow 2 (units.log2 - 52)

/-- The 53 leading bits of a magnitude are all of it. -/
def Fits (units : Nat) : Prop :=
  spacing units ∣ units

instance (units : Nat) : Decidable (Fits units) :=
  inferInstanceAs (Decidable (spacing units ∣ units))

theorem spacing_pos (units : Nat) : 0 < spacing units :=
  Nat.two_pow_pos _

theorem fits_zero : Fits 0 :=
  Nat.dvd_zero _

theorem spacing_two_pow (exponent : Nat) :
    spacing (Nat.pow 2 exponent) = Nat.pow 2 (exponent - 52) := by
  have hlog : (Nat.pow 2 exponent).log2 = exponent := Nat.log2_two_pow
  rw [spacing, hlog]

theorem fits_two_pow (exponent : Nat) : Fits (Nat.pow 2 exponent) := by
  rw [Fits, spacing_two_pow]
  exact Nat.pow_dvd_pow 2 (Nat.sub_le exponent 52)

/-- Between two powers of two the spacing stays the same. -/
theorem spacing_eq_spacing {units others : Nat}
    (hlow : Nat.pow 2 units.log2 ≤ others) (hhigh : others < Nat.pow 2 (units.log2 + 1)) :
    spacing others = spacing units := by
  have hothers : others ≠ 0 := Nat.ne_of_gt (Nat.lt_of_lt_of_le (Nat.two_pow_pos _) hlow)
  have hlog : others.log2 = units.log2 := by
    apply Nat.le_antisymm
    · exact Nat.lt_succ_iff.mp ((Nat.log2_lt hothers).mpr hhigh)
    · exact (Nat.le_log2 hothers).mpr hlow
  rw [spacing, spacing, hlog]

/-- The spacing divides the powers of two around a magnitude. -/
theorem spacing_dvd_two_pow {units exponent : Nat} (hexponent : units.log2 ≤ exponent) :
    spacing units ∣ Nat.pow 2 exponent :=
  Nat.pow_dvd_pow 2 (Nat.le_trans (Nat.sub_le _ 52) hexponent)

/-! ## The neighbours of a magnitude -/

/-- The greatest multiple of the spacing up to a magnitude. -/
def lowerNeighbour (units : Nat) : Nat :=
  units / spacing units * spacing units

/-- The least multiple of the spacing above a magnitude. -/
def upperNeighbour (units : Nat) : Nat :=
  (units / spacing units + 1) * spacing units

section

variable {units other : Nat}

theorem lowerNeighbour_le (units : Nat) : lowerNeighbour units ≤ units :=
  Nat.div_mul_le_self units (spacing units)

theorem lt_upperNeighbour (units : Nat) : units < upperNeighbour units := by
  rw [upperNeighbour, Nat.succ_mul]
  exact Nat.lt_div_mul_add (spacing_pos units)

theorem le_lowerNeighbour_of_dvd (hdvd : spacing units ∣ other) (hle : other ≤ units) :
    other ≤ lowerNeighbour units := by
  obtain ⟨count, rfl⟩ := hdvd
  rw [lowerNeighbour, Nat.mul_comm (spacing units)]
  apply Nat.mul_le_mul_right
  rw [Nat.le_div_iff_mul_le (spacing_pos units), Nat.mul_comm]
  exact hle

theorem upperNeighbour_le_of_dvd (hdvd : spacing units ∣ other) (hlt : units < other) :
    upperNeighbour units ≤ other := by
  obtain ⟨count, rfl⟩ := hdvd
  rw [upperNeighbour, Nat.mul_comm (spacing units)]
  apply Nat.mul_le_mul_right
  rw [Nat.succ_le_iff, Nat.div_lt_iff_lt_mul (spacing_pos units), Nat.mul_comm]
  exact hlt

theorem two_pow_le_lowerNeighbour (hunits : units ≠ 0) :
    Nat.pow 2 units.log2 ≤ lowerNeighbour units :=
  le_lowerNeighbour_of_dvd (spacing_dvd_two_pow Nat.le.refl) (Nat.log2_self_le hunits)

theorem upperNeighbour_le_two_pow (units : Nat) :
    upperNeighbour units ≤ Nat.pow 2 (units.log2 + 1) :=
  upperNeighbour_le_of_dvd (spacing_dvd_two_pow (Nat.le_succ _)) Nat.lt_log2_self

theorem spacing_lowerNeighbour (hunits : units ≠ 0) :
    spacing (lowerNeighbour units) = spacing units :=
  spacing_eq_spacing (two_pow_le_lowerNeighbour hunits)
    (Nat.lt_of_le_of_lt (lowerNeighbour_le units) Nat.lt_log2_self)

theorem fits_lowerNeighbour (units : Nat) : Fits (lowerNeighbour units) := by
  by_cases hunits : units = 0
  · rw [hunits]
    exact fits_zero
  · rw [Fits, spacing_lowerNeighbour hunits]
    exact Nat.dvd_mul_left _ _

/-- The next multiple of the spacing has the same spacing, unless it is the next power of two. -/
theorem upperNeighbour_cases (units : Nat) :
    spacing (upperNeighbour units) = spacing units ∨
      upperNeighbour units = Nat.pow 2 (units.log2 + 1) := by
  by_cases hunits : units = 0
  · left
    rw [hunits]
    rfl
  · rcases Nat.lt_or_eq_of_le (upperNeighbour_le_two_pow units) with hlt | heq
    · left
      apply spacing_eq_spacing _ hlt
      exact Nat.le_trans (Nat.log2_self_le hunits) (Nat.le_of_lt (lt_upperNeighbour units))
    · exact Or.inr heq

theorem fits_upperNeighbour (units : Nat) : Fits (upperNeighbour units) := by
  rcases upperNeighbour_cases units with hspacing | hpower
  · rw [Fits, hspacing]
    exact Nat.dvd_mul_left _ _
  · rw [hpower]
    exact fits_two_pow _

end

/-! ## Rounding a quotient -/

/-- The magnitude nearest to `numerator / denominator`, a tie going to the even multiple of the
spacing. -/
def roundUnits (numerator denominator : Nat) : Nat :=
  let quotient := numerator / denominator
  let middle := denominator * (lowerNeighbour quotient + upperNeighbour quotient)
  if 2 * numerator < middle ∨ 2 * numerator = middle ∧ quotient / spacing quotient % 2 = 0 then
    lowerNeighbour quotient
  else
    upperNeighbour quotient

theorem fits_roundUnits (numerator denominator : Nat) :
    Fits (roundUnits numerator denominator) := by
  rw [roundUnits]
  split
  · exact fits_lowerNeighbour _
  · exact fits_upperNeighbour _

end QueryShape.Binary

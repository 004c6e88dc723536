import Mathlib.Order.WithBotTop
import QueryShape.Proofs.Number.WholeNumbers

/-!
# The order of floating-point numbers

The value of a number is a fraction, or an infinity at either end of them; what is not a number has
no value.  One number is less than another one if its value is.  A fraction is rounded to the
nearest number, or to an infinity where the 64-bit format has no room for it; so it is on the same
side of every number as the one that it is rounded to, unless it is rounded to that number.
-/

namespace QueryShape

/-! ## Room in the format -/

namespace Binary

/-- A number of the 64-bit format is finite, or too large for it. -/
theorem toDouble_cases (x : Binary) :
    (∃ y : FiniteDouble, y.toBinary = x ∧ x.toDouble = .finite y) ∨
      (overflowUnits ≤ x.units ∧ x.toDouble = .infinite x.negative) := by
  by_cases hbounded : x.units < overflowUnits
  · exact Or.inl ⟨{ x with bounded := hbounded }, rfl, toDouble_of_finite? (dif_pos hbounded)⟩
  · refine Or.inr ⟨not_lt.mp hbounded, ?_⟩
    rw [toDouble, finite?, dif_neg hbounded, Option.elim_none]

theorem toDouble_toBinary (x : FiniteDouble) : x.toBinary.toDouble = .finite x :=
  toDouble_of_finite? (dif_pos x.bounded)

/-- A number with the value of a finite one is a finite one. -/
theorem toDouble_of_value_eq {x : Binary} {y : FiniteDouble} (hvalue : x.value = y.value) :
    ∃ z : FiniteDouble, x.toDouble = .finite z ∧ z.value = y.value := by
  have hbounded : x.units < overflowUnits := by
    rw [units_eq_of_value_eq hvalue]
    exact y.bounded
  exact ⟨{ x with bounded := hbounded }, toDouble_of_finite? (dif_pos hbounded), hvalue⟩

/-- What is too large is greater than every finite number, or less if it is negative. -/
theorem value_lt_of_overflow {x : Binary} {y : FiniteDouble} (hlarge : overflowUnits ≤ x.units) :
    if x.negative then x.value < y.value else y.value < x.value := by
  have hbounded := y.bounded
  have hless : y.signedUnits.natAbs < x.units := by
    rw [natAbs_signedUnits]
    omega
  split
  · next hnegative =>
      rw [value_lt_value_iff, signedUnits, if_pos hnegative]
      omega
  · next hpositive =>
      rw [value_lt_value_iff, signedUnits.eq_def x, if_neg hpositive]
      omega

end Binary

namespace Double

/-! ## Values -/

/-- The value of a number, if it is one. -/
def value? : Double → Option (WithBotTop ℚ)
  | finite x => some (x.value : ℚ)
  | infinite negative => some (if negative then ⊥ else ⊤)
  | nan => none

/-- What is not a number is neither less than a number nor greater. -/
instance : LT Double where
  lt x y := ∃ value ∈ x.value?, ∃ other ∈ y.value?, value < other

section

variable {x y : Double} {value other : WithBotTop ℚ}

theorem lt_iff_of_value? (hx : x.value? = some value) (hy : y.value? = some other) :
    x < y ↔ value < other := by
  constructor
  · rintro ⟨_, hvalue, _, hother, hless⟩
    rwa [Option.mem_unique hx hvalue, Option.mem_unique hy hother]
  · exact fun hless => ⟨value, hx, other, hy, hless⟩

theorem finite_lt_finite_iff {x y : FiniteDouble} : finite x < finite y ↔ x.value < y.value := by
  rw [lt_iff_of_value? rfl rfl, WithBotTop.coe_lt_coe]

theorem finite_lt_infinite_iff {x : FiniteDouble} {negative : Bool} :
    finite x < infinite negative ↔ negative = false := by
  have hless : (x.value : WithBotTop ℚ) < ⊤ := WithBot.coe_lt_coe.mpr (WithTop.coe_lt_top x.value)
  rw [lt_iff_of_value? rfl rfl]
  cases negative <;> simp [hless]

theorem infinite_lt_finite_iff {negative : Bool} {y : FiniteDouble} :
    infinite negative < finite y ↔ negative = true := by
  have hless : ⊥ < (y.value : WithBotTop ℚ) := WithBot.bot_lt_coe _
  rw [lt_iff_of_value? rfl rfl]
  cases negative <;> simp [hless]

theorem infinite_lt_infinite_iff {negative other : Bool} :
    infinite negative < infinite other ↔ negative = true ∧ other = false := by
  rw [lt_iff_of_value? rfl rfl]
  cases negative <;> cases other <;> simp

theorem not_nan_lt (x : Double) : ¬nan < x := by
  rintro ⟨_, hvalue, _⟩
  cases hvalue

theorem not_lt_nan (x : Double) : ¬x < nan := by
  rintro ⟨_, _, _, hvalue, _⟩
  cases hvalue

theorem lt_eq_true_iff : x.lt y = true ↔ x < y := by
  cases x with
  | nan => simp [lt, not_nan_lt]
  | finite x =>
      cases y with
      | nan => simp [lt, not_lt_nan]
      | finite y => rw [finite_lt_finite_iff, lt, decide_eq_true_iff, Binary.value_lt_value_iff]
      | infinite negative => simp [lt, finite_lt_infinite_iff]
  | infinite negative =>
      cases y with
      | nan => simp [lt, not_lt_nan]
      | finite y => simp [lt, infinite_lt_finite_iff]
      | infinite other => simp [lt, infinite_lt_infinite_iff]

instance (x y : Double) : Decidable (x < y) :=
  decidable_of_iff _ lt_eq_true_iff

end

/-! ## Rounding -/

/-- The number stands for a fraction: it is the nearest one, or an infinity where the nearest one is
too large for the format. -/
def IsRounded (x : Double) (target : ℚ) : Prop :=
  ∃ nearest : Binary, nearest.IsNearest target ∧ nearest.toDouble = x

/-- The value is at most a fraction, if there is one. -/
def AtMost (x : Double) (target : ℚ) : Prop :=
  ∀ value ∈ x.value?, value ≤ target

/-- The value is at least a fraction, if there is one. -/
def AtLeast (x : Double) (target : ℚ) : Prop :=
  ∀ value ∈ x.value?, target ≤ value

section

variable {x bound : Double} {target : ℚ}

theorem isRounded_ofInt (number : Int) : (ofInt number).IsRounded number :=
  ⟨_, Binary.isNearest_ofInt number, rfl⟩

theorem isRounded_finite (x : FiniteDouble) : (finite x).IsRounded x.value :=
  ⟨x.toBinary, x.isNearest_value, Binary.toDouble_toBinary x⟩

theorem isRounded_of_isNearest {y : FiniteDouble} (hy : y.IsNearest target) :
    (finite y).IsRounded target :=
  ⟨y.toBinary, hy, Binary.toDouble_toBinary y⟩

/-- The format has every integer up to the greatest significand. -/
theorem exists_finite_ofInt {number : Int} (hnumber : number.natAbs ≤ 2 ^ 53) :
    ∃ x : FiniteDouble, ofInt number = finite x ∧ x.value = number := by
  obtain ⟨x, hfinite, hsign, hunits⟩ := Binary.exists_finite?_ofNat (number < 0) hnumber
  refine ⟨x, Binary.toDouble_of_finite? hfinite, ?_⟩
  rw [Binary.value_eq, hsign, hunits, Nat.cast_mul, ← mul_assoc,
    mul_div_cancel_right₀ _ Binary.unitsPerOne_pos.ne', Binary.sign_mul_natAbs]

/-- A fraction that is a value is rounded to this value. -/
theorem IsRounded.exists_finite {y : FiniteDouble} (hx : x.IsRounded y.value) :
    ∃ z : FiniteDouble, x = finite z ∧ z.value = y.value := by
  obtain ⟨nearest, hnearest, rfl⟩ := hx
  exact Binary.toDouble_of_value_eq (hnearest.value_eq (y := y.toBinary) rfl)

theorem IsRounded.atMost_and_atLeast {y : FiniteDouble} (hx : x.IsRounded y.value) :
    x.AtMost y.value ∧ x.AtLeast y.value := by
  obtain ⟨z, rfl, hvalue⟩ := hx.exists_finite
  rw [← hvalue]
  constructor <;> (rintro _ ⟨⟩; exact le_rfl)

theorem IsRounded.ne_nan (hx : x.IsRounded target) : x ≠ nan := by
  obtain ⟨nearest, -, rfl⟩ := hx
  rcases nearest.toDouble_cases with ⟨z, -, hz⟩ | ⟨-, hinfinite⟩
  · rw [hz]
    exact nofun
  · rw [hinfinite]
    exact nofun

theorem eq_infinite_of_not_lt (hx : x ≠ nan) (hgreatest : ¬x < infinite false) :
    x = infinite false := by
  cases x with
  | nan => exact absurd rfl hx
  | finite x => exact absurd (finite_lt_infinite_iff.mpr rfl) hgreatest
  | infinite negative => simpa [infinite_lt_infinite_iff] using hgreatest

theorem eq_infinite_of_not_gt (hx : x ≠ nan) (hleast : ¬infinite true < x) :
    x = infinite true := by
  cases x with
  | nan => exact absurd rfl hx
  | finite x => exact absurd (infinite_lt_finite_iff.mpr rfl) hleast
  | infinite negative => simpa [infinite_lt_infinite_iff] using hleast

/-- A bound that the number for a fraction is not below is at most the fraction, or is that
number. -/
theorem IsRounded.atMost_or (hx : x.IsRounded target) (hbound : ¬x < bound) :
    bound.AtMost target ∨ bound.IsRounded target := by
  cases bound with
  | nan => exact Or.inl nofun
  | infinite negative =>
      cases negative with
      | true =>
          left
          rintro _ ⟨⟩
          exact bot_le
      | false => exact Or.inr (eq_infinite_of_not_lt hx.ne_nan hbound ▸ hx)
  | finite y =>
      obtain ⟨nearest, hnearest, rfl⟩ := hx
      have hle : y.value ≤ nearest.value := by
        rcases nearest.toDouble_cases with ⟨z, rfl, hz⟩ | ⟨hlarge, hinfinite⟩
        · rw [hz, finite_lt_finite_iff] at hbound
          exact not_lt.mp hbound
        · rw [hinfinite, infinite_lt_finite_iff] at hbound
          have hless := Binary.value_lt_of_overflow (y := y) hlarge
          rw [if_neg hbound] at hless
          exact hless.le
      rcases hnearest.ge_or_isNearest hle with htarget | hy
      · left
        rintro _ ⟨⟩
        exact WithBotTop.coe_le_coe.mpr htarget
      · exact Or.inr (isRounded_of_isNearest hy)

/-- A bound that the number for a fraction is not above is at least the fraction, or is that
number. -/
theorem IsRounded.atLeast_or (hx : x.IsRounded target) (hbound : ¬bound < x) :
    bound.AtLeast target ∨ bound.IsRounded target := by
  cases bound with
  | nan => exact Or.inl nofun
  | infinite negative =>
      cases negative with
      | true => exact Or.inr (eq_infinite_of_not_gt hx.ne_nan hbound ▸ hx)
      | false =>
          left
          rintro _ ⟨⟩
          exact le_top
  | finite y =>
      obtain ⟨nearest, hnearest, rfl⟩ := hx
      have hle : nearest.value ≤ y.value := by
        rcases nearest.toDouble_cases with ⟨z, rfl, hz⟩ | ⟨hlarge, hinfinite⟩
        · rw [hz, finite_lt_finite_iff] at hbound
          exact not_lt.mp hbound
        · rw [hinfinite, finite_lt_infinite_iff, Bool.not_eq_false] at hbound
          have hless := Binary.value_lt_of_overflow (y := y) hlarge
          rw [if_pos hbound] at hless
          exact hless.le
      rcases hnearest.le_or_isNearest hle with htarget | hy
      · left
        rintro _ ⟨⟩
        exact WithBotTop.coe_le_coe.mpr htarget
      · exact Or.inr (isRounded_of_isNearest hy)

end

end Double

end QueryShape

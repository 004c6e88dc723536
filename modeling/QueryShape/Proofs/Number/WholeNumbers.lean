import Mathlib.Data.Nat.Log
import Mathlib.Tactic.Ring
import QueryShape.Number.Shortest
import QueryShape.Proofs.Number.Rounding

/-!
# The texts of whole numbers

The shortest decimal of a whole number that is far from the greatest significand is the number
itself: around it the spacing is so small that no other multiple of a power of ten stands for it.
So its text has all its digits, and a zero after the point.
-/

namespace QueryShape

/-! ## Digits -/

theorem toDigits_mul_ten_pow {value : Nat} (hvalue : 0 < value) (zeros : Nat) :
    Nat.toDigits 10 (value * 10 ^ zeros) = Nat.toDigits 10 value ++ List.replicate zeros '0' := by
  induction zeros with
  | zero => simp
  | succ zeros ih =>
      have hpos : 0 < value * 10 ^ zeros := Nat.mul_pos hvalue (Nat.pow_pos (by decide))
      have hstep : value * 10 ^ (zeros + 1) = 10 * (value * 10 ^ zeros) + 0 := by ring
      rw [hstep, ← Nat.toDigits_append_toDigits (by decide) hpos (by decide), ih,
        List.replicate_succ', List.append_assoc]
      rfl

namespace Binary

/-! ## The interval of a whole number -/

theorem exists_unitsPerOne_eq : ∃ exponent, 3 ≤ exponent ∧ unitsPerOne = Nat.pow 2 exponent :=
  ⟨1074, by decide, rfl⟩

theorem pos_unitsPerOne : 0 < unitsPerOne := by
  obtain ⟨exponent, -, hunits⟩ := exists_unitsPerOne_eq
  rw [hunits]
  exact Nat.two_pow_pos exponent

/-- The whole numbers that are below the greatest significand also with one more digit. -/
def IsSmall (value : Nat) : Prop :=
  0 < value ∧ 10 * value ≤ 2 ^ 53

theorem IsSmall.eight_mul_spacing_le_two_pow {value : Nat} (hvalue : IsSmall value)
    {exponent : Nat} (hexponent : 3 ≤ exponent) :
    8 * spacing (value * 2 ^ exponent) ≤ 2 ^ exponent := by
  obtain ⟨hpos, hsmall⟩ := hvalue
  have hbelow : value * 2 ^ exponent < 2 ^ (50 + exponent) := by
    rw [pow_add]
    exact Nat.mul_lt_mul_of_pos_right (by omega) (Nat.two_pow_pos _)
  have hnonzero : value * 2 ^ exponent ≠ 0 := (Nat.mul_pos hpos (Nat.two_pow_pos _)).ne'
  have hlog := (Nat.log2_lt hnonzero).mpr hbelow
  calc
    8 * spacing (value * 2 ^ exponent) = 2 ^ (3 + ((value * 2 ^ exponent).log2 - 52)) :=
      (pow_add 2 3 _).symm
    _ ≤ 2 ^ exponent := Nat.pow_le_pow_right (by decide) (by omega)

theorem IsSmall.eight_mul_spacing_le {value : Nat} (hvalue : IsSmall value) :
    8 * spacing (value * unitsPerOne) ≤ unitsPerOne := by
  obtain ⟨exponent, hexponent, hunits⟩ := exists_unitsPerOne_eq
  rw [hunits]
  exact hvalue.eight_mul_spacing_le_two_pow hexponent

/-- The interval starts half a spacing or a quarter of it below the magnitude. -/
theorem low_roundingInterval (units : Nat) :
    (roundingInterval units).low = 4 * units - spacing units ∨
      (roundingInterval units).low = 4 * units - 2 * spacing units := by
  simp only [roundingInterval]
  split
  · exact Or.inl rfl
  · exact Or.inr rfl

theorem high_roundingInterval (units : Nat) :
    (roundingInterval units).high = 4 * units + 2 * spacing units := rfl

/-- Where the spacing is small, nothing that is not near a magnitude stands for it. -/
theorem contains_iff_of_gap {units gap other : Nat} (hspacing : 8 * spacing units ≤ gap)
    (hunits : gap ≤ units)
    (hgap : other = units ∨ other + gap ≤ units ∨ units + gap ≤ other) :
    (roundingInterval units).contains (4 * other) 1 = true ↔ other = units := by
  have hpositive := spacing_pos units
  have hlow := low_roundingInterval units
  have hhigh := high_roundingInterval units
  unfold Interval.contains
  split <;> simp only [Bool.and_eq_true, decide_eq_true_eq, Nat.mul_one] <;> omega

/-- Of all whole numbers, only the number itself stands for it. -/
theorem IsSmall.contains_iff {value other : Nat} (hvalue : IsSmall value) :
    (roundingInterval (value * unitsPerOne)).contains (4 * (other * unitsPerOne)) 1 = true ↔
      other = value := by
  have hunits : unitsPerOne ≤ value * unitsPerOne := Nat.le_mul_of_pos_left _ hvalue.1
  rw [contains_iff_of_gap hvalue.eight_mul_spacing_le hunits]
  · exact Nat.mul_left_inj pos_unitsPerOne.ne'
  · rcases Nat.lt_trichotomy other value with hless | rfl | hmore
    · refine Or.inr (Or.inl ?_)
      rw [← Nat.succ_mul]
      exact Nat.mul_le_mul_right _ hless
    · exact Or.inl rfl
    · refine Or.inr (Or.inr ?_)
      rw [← Nat.succ_mul]
      exact Nat.mul_le_mul_right _ hmore

/-- Of the two neighbours on a grid, the search finds the one that is the number itself. -/
theorem find?_neighbours {one value grid : Nat} {fits : Nat → Bool} (hone : 0 < one)
    (hgrid : 0 < grid) (hfits : ∀ digits, fits digits = true ↔ digits * grid = value)
    (keepsBelow : Bool) :
    List.find? fits
        (if 2 * (one * value % (one * grid)) < one * grid ||
            (2 * (one * value % (one * grid)) == one * grid && keepsBelow)
          then [one * value / (one * grid), one * value / (one * grid) + 1]
          else [one * value / (one * grid) + 1, one * value / (one * grid)]) =
      if grid ∣ value then some (value / grid) else none := by
  rw [Nat.mul_div_mul_left _ _ hone, Nat.mul_mod_mul_left]
  by_cases hdvd : grid ∣ value
  · have hnear : 2 * (one * (value % grid)) < one * grid := by
      rw [Nat.mod_eq_zero_of_dvd hdvd, Nat.mul_zero, Nat.mul_zero]
      exact Nat.mul_pos hone hgrid
    rw [if_pos (by rw [decide_eq_true hnear, Bool.true_or]), if_pos hdvd, List.find?_cons,
      (hfits _).mpr (Nat.div_mul_cancel hdvd)]
  · rw [if_neg hdvd, List.find?_eq_none]
    exact fun digits _ hcontains => hdvd (Dvd.intro_left digits ((hfits digits).mp hcontains))

/-- A whole number stands on the grids of the powers of ten that divide it, and nothing else on a
grid of whole numbers stands for it. -/
theorem IsSmall.onGrid?_eq {value : Nat} (hvalue : IsSmall value) (tie : Tie) (exponent : Nat) :
    onGrid? tie (value * unitsPerOne) exponent =
      if 10 ^ exponent ∣ value then some ⟨value / 10 ^ exponent, exponent⟩ else none := by
  have hscale : ∀ digits one grid : Nat, digits * (4 * one * grid) = 4 * (digits * grid * one) := by
    intro digits one grid
    ring
  have hfits : ∀ digits, (roundingInterval (value * unitsPerOne)).contains
      (digits * (4 * unitsPerOne * 10 ^ exponent)) 1 = true ↔ digits * 10 ^ exponent = value := by
    intro digits
    rw [hscale]
    exact hvalue.contains_iff
  have hdivisor : (-(exponent : Int)).toNat = 0 := by omega
  have hunits : 4 * (value * unitsPerOne) * 1 = 4 * unitsPerOne * value := by
    rw [Nat.mul_one, Nat.mul_comm value, Nat.mul_assoc]
  have hpos : 0 < 4 * unitsPerOne := Nat.mul_pos (by decide) pos_unitsPerOne
  simp only [onGrid?, Int.toNat_natCast, Nat.pow_eq, hdivisor, Nat.pow_zero, hunits]
  rw [find?_neighbours hpos (Nat.pow_pos (by decide)) hfits]
  split <;> rfl

/-- The exponent of the first digit of a whole number. -/
theorem leadingExponent_mul_unitsPerOne {value : Nat} (hvalue : 0 < value) :
    leadingExponent (value * unitsPerOne) = (Nat.toDigits 10 value).length - 1 := by
  have hlength : ∀ zeros, (Nat.toDigits 10 (value * Nat.pow 10 zeros)).length =
      (Nat.toDigits 10 value).length + zeros := by
    intro zeros
    rw [Nat.pow_eq, toDigits_mul_ten_pow hvalue, List.length_append, List.length_replicate]
  rw [leadingExponent, Nat.mul_right_comm, Nat.mul_div_cancel _ pos_unitsPerOne, hlength]
  omega

/-- The first grid that a whole number stands on is one of whole numbers. -/
theorem IsSmall.exists_findSome? {value : Nat} (hvalue : IsSmall value) (tie : Tie) :
    ∃ zeros : Nat, 10 ^ zeros ∣ value ∧
      (List.range 17).findSome? (fun (extra : Nat) => onGrid? tie (value * unitsPerOne)
        (leadingExponent (value * unitsPerOne) - extra)) = some ⟨value / 10 ^ zeros, zeros⟩ := by
  obtain ⟨hpos, hsmall⟩ := hvalue
  -- On the grid of ones the number stands for itself, so the search ends before any fraction.
  have hlength : 0 < (Nat.toDigits 10 value).length := List.length_pos_iff.mpr Nat.toDigits_ne_nil
  obtain ⟨others, hothers⟩ : ∃ others, 17 = (Nat.toDigits 10 value).length + others := by
    apply Nat.exists_eq_add_of_le
    have hless : value < 10 ^ 17 := by omega
    exact (Nat.length_toDigits_le_iff (by decide) (by decide)).mpr hless
  have hgrid : ∀ extra < (Nat.toDigits 10 value).length,
      onGrid? tie (value * unitsPerOne) (leadingExponent (value * unitsPerOne) - extra) =
        if 10 ^ ((Nat.toDigits 10 value).length - 1 - extra) ∣ value then
          some ⟨value / 10 ^ ((Nat.toDigits 10 value).length - 1 - extra),
            ((Nat.toDigits 10 value).length - 1 - extra : Nat)⟩
        else none := by
    intro extra hextra
    rw [← IsSmall.onGrid?_eq ⟨hpos, hsmall⟩, leadingExponent_mul_unitsPerOne hpos]
    congr 1
    omega
  have hsome : ((List.range (Nat.toDigits 10 value).length).findSome? fun (extra : Nat) =>
      onGrid? tie (value * unitsPerOne)
        (leadingExponent (value * unitsPerOne) - extra)).isSome = true := by
    rw [List.findSome?_isSome_iff]
    refine ⟨(Nat.toDigits 10 value).length - 1, List.mem_range.mpr (by omega), ?_⟩
    rw [hgrid _ (by omega), Nat.sub_self, Nat.pow_zero, if_pos (one_dvd _)]
    rfl
  obtain ⟨decimal, hdecimal⟩ := Option.isSome_iff_exists.mp hsome
  obtain ⟨extra, hextra, hfound⟩ := List.exists_of_findSome?_eq_some hdecimal
  rw [hgrid extra (List.mem_range.mp hextra)] at hfound
  split at hfound
  · next hdvd =>
      refine ⟨_, hdvd, ?_⟩
      rw [hothers, List.range_add, List.findSome?_append, hdecimal, Option.some_or, ← hfound]
  · cases hfound

end Binary

namespace Decimal

/-- The decimal is a whole number. -/
def IsWhole (decimal : Decimal) (value : Nat) : Prop :=
  ∃ zeros : Nat, decimal.exponent = zeros ∧ decimal.digits * 10 ^ zeros = value

theorem IsWhole.trimZeros_go {value : Nat} (steps : Nat) {decimal : Decimal}
    (hdecimal : decimal.IsWhole value) : (trimZeros.go steps decimal).IsWhole value := by
  induction steps generalizing decimal with
  | zero => exact hdecimal
  | succ steps ih =>
      rw [trimZeros.go]
      split
      · next hzero =>
          obtain ⟨zeros, hexponent, hvalue⟩ := hdecimal
          refine ih ⟨zeros + 1, ?_, ?_⟩
          · rw [hexponent]
            rfl
          · rw [← hvalue, pow_succ', ← Nat.mul_assoc,
              Nat.div_mul_cancel (Nat.dvd_of_mod_eq_zero hzero.2)]
      · exact hdecimal

theorem IsWhole.trimZeros {decimal : Decimal} {value : Nat} (hdecimal : decimal.IsWhole value) :
    decimal.trimZeros.IsWhole value :=
  hdecimal.trimZeros_go _

/-- Without its zeros or with them, a whole number has the same digits. -/
theorem IsWhole.positional {decimal : Decimal} {value : Nat} (hdecimal : decimal.IsWhole value)
    (hvalue : 0 < value) : decimal.positional = Nat.toDigits 10 value := by
  obtain ⟨digits, exponent⟩ := decimal
  obtain ⟨zeros, rfl, rfl⟩ := hdecimal
  rw [toDigits_mul_ten_pow (Nat.pos_of_mul_pos_right hvalue)]
  rfl

theorem IsWhole.leadingExponent {decimal : Decimal} {value : Nat} (hdecimal : decimal.IsWhole value)
    (hvalue : 0 < value) : decimal.leadingExponent = (Nat.toDigits 10 value).length - 1 := by
  obtain ⟨digits, exponent⟩ := decimal
  obtain ⟨zeros, rfl, rfl⟩ := hdecimal
  rw [toDigits_mul_ten_pow (Nat.pos_of_mul_pos_right hvalue), Decimal.leadingExponent,
    List.length_append, List.length_replicate, digitChars]
  dsimp only
  omega

end Decimal

namespace Binary

theorem IsSmall.shortest {value : Nat} (hvalue : IsSmall value) (tie : Tie) :
    (shortest tie (value * unitsPerOne)).IsWhole value := by
  obtain ⟨zeros, hdvd, hfound⟩ := hvalue.exists_findSome? tie
  have hnonzero : value * unitsPerOne ≠ 0 := (Nat.mul_pos hvalue.1 pos_unitsPerOne).ne'
  simp only [Binary.shortest, if_neg hnonzero, hfound, Option.getD_some]
  exact Decimal.IsWhole.trimZeros ⟨zeros, rfl, Nat.div_mul_cancel hdvd⟩

/-- A whole number is written with all its digits, and a zero after the point. -/
theorem scientificText_whole {x : Binary} {value : Nat} (hunits : x.units = value * unitsPerOne)
    (hvalue : 10 * value ≤ 2 ^ 53) :
    x.scientificText.toList =
      (if x.negative then ['-'] else []) ++ (Nat.toDigits 10 value ++ ['.', '0']) := by
  rw [scientificText, String.toList_ofList, hunits]
  rcases Nat.eq_zero_or_pos value with rfl | hpos
  · have hzero : shortest .even 0 = ⟨0, 0⟩ := rfl
    simp only [Nat.zero_mul, hzero, signChars]
    rfl
  · have hwhole := IsSmall.shortest ⟨hpos, hvalue⟩ .even
    have hlength : (Nat.toDigits 10 value).length ≤ 16 := by
      have hless : value < 10 ^ 16 := by omega
      exact (Nat.length_toDigits_le_iff (by decide) (by decide)).mpr hless
    have hleading : -5 ≤ (Binary.shortest .even (value * unitsPerOne)).leadingExponent ∧
        (Binary.shortest .even (value * unitsPerOne)).leadingExponent ≤ 15 := by
      rw [hwhole.leadingExponent hpos]
      omega
    have hexponent : 0 ≤ (Binary.shortest .even (value * unitsPerOne)).exponent := by
      obtain ⟨zeros, hzeros, -⟩ := hwhole
      omega
    simp only [if_pos hleading, if_pos hexponent, hwhole.positional hpos, signChars]

/-! ## Exact rounding -/

/-- What fits the format is rounded to itself. -/
theorem roundUnits_mul {units denominator : Nat} (hunits : Fits units)
    (hdenominator : 0 < denominator) : roundUnits (units * denominator) denominator = units := by
  have hlow : lowerNeighbour units = units := Nat.div_mul_cancel hunits
  have hnear : 2 * (units * denominator) < denominator * (units + upperNeighbour units) := by
    have hhigh := lt_upperNeighbour units
    calc
      2 * (units * denominator) = denominator * (2 * units) := by ring
      _ < denominator * (units + upperNeighbour units) :=
        Nat.mul_lt_mul_of_pos_left (by omega) hdenominator
  rw [roundUnits, Nat.mul_div_cancel _ hdenominator, hlow, if_pos (Or.inl hnear)]

theorem fits_mul_unitsPerOne {value : Nat} (hvalue : value ≤ 2 ^ 53) :
    Fits (value * unitsPerOne) := by
  obtain ⟨exponent, -, hunits⟩ := exists_unitsPerOne_eq
  rw [hunits]
  exact fits_mul_two_pow hvalue exponent

theorem roundUnits_whole {value : Nat} (hvalue : value ≤ 2 ^ 53) :
    roundUnits (value * unitsPerOne) 1 = value * unitsPerOne := by
  have hround := roundUnits_mul (fits_mul_unitsPerOne hvalue) Nat.one_pos
  rwa [Nat.mul_one] at hround

theorem ofNat_eq (negative : Bool) {value : Nat} (hvalue : value ≤ 2 ^ 53) :
    ofNat negative value = ⟨negative, value * unitsPerOne, fits_mul_unitsPerOne hvalue⟩ := by
  simp only [ofNat, rounded, roundUnits_whole hvalue]

theorem overPowerOfTen_one (negative : Bool) {value : Nat} (hvalue : 10 * value ≤ 2 ^ 53) :
    (ofNat negative (10 * value)).overPowerOfTen 1 = ofNat negative value := by
  have hten : roundUnits (10 * unitsPerOne) 1 = 10 * unitsPerOne := roundUnits_whole (by decide)
  have hpos : 0 < 10 * unitsPerOne := Nat.mul_pos (by decide) pos_unitsPerOne
  have hsmall : value ≤ 2 ^ 53 := by omega
  have hproduct : 10 * value * unitsPerOne * unitsPerOne =
      value * unitsPerOne * (10 * unitsPerOne) := by
    ring
  rw [ofNat_eq negative hvalue, ofNat_eq negative hsmall]
  simp only [overPowerOfTen, rounded, Nat.pow_eq, Nat.pow_one, hten, hproduct,
    roundUnits_mul (fits_mul_unitsPerOne hsmall) hpos]

/-! ## Room in the 64-bit format -/

theorem mul_unitsPerOne_lt {value : Nat} (hvalue : value ≤ 2 ^ 53) :
    value * unitsPerOne < overflowUnits := by
  have hpower : overflowUnits = Nat.pow 2 1024 * unitsPerOne := by decide +kernel
  have hless : 2 ^ 53 < Nat.pow 2 1024 := Nat.pow_lt_pow_right (by decide) (by decide)
  rw [hpower]
  exact Nat.mul_lt_mul_of_pos_right (Nat.lt_of_le_of_lt hvalue hless) pos_unitsPerOne

/-- A natural number up to the greatest significand is a finite number, under each sign. -/
theorem exists_finite?_ofNat (negative : Bool) {value : Nat} (hvalue : value ≤ 2 ^ 53) :
    ∃ x : FiniteDouble, (ofNat negative value).finite? = some x ∧ x.negative = negative ∧
      x.units = value * unitsPerOne := by
  rw [ofNat_eq negative hvalue]
  exact ⟨_, dif_pos (mul_unitsPerOne_lt hvalue), rfl, rfl⟩

end Binary

end QueryShape

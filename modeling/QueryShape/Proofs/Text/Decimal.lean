import Mathlib.Data.List.Basic
import Mathlib.Data.List.Induction
import Mathlib.Data.List.TakeWhile
import Mathlib.Data.Nat.Digits.Defs
import QueryShape.Proofs.Number.Order
import QueryShape.Proofs.Text.Formats

/-!
# What a decimal text denotes

A decimal text denotes a fraction, whatever the script that its digits are from.  If they are the
digits of ASCII, the text has a numeric value, and this is the number that what it denotes is
rounded to.
-/

namespace QueryShape.Text

/-! ## Digits -/

/-- The digit that a character stands for.  The ranges of digits are made of whole tens, each of
which starts with a zero. -/
def digitValue (c : Char) : Nat :=
  match decimalDigitRanges.find? fun range => range.1 ≤ c.toNat && c.toNat ≤ range.2 with
  | some range => (c.toNat - range.1) % 10
  | none => 0

/-- The number that digits stand for, the last one being that of the ones. -/
def naturalValue (digits : List Char) : Nat :=
  Nat.ofDigits 10 (digits.reverse.map digitValue)

theorem naturalValue_append (digits others : List Char) :
    naturalValue (digits ++ others) =
      naturalValue digits * 10 ^ others.length + naturalValue others := by
  rw [naturalValue, List.reverse_append, List.map_append, Nat.ofDigits_append, List.length_map,
    List.length_reverse, Nat.add_comm, Nat.mul_comm]
  rfl

theorem digitValue_of_isDigit {c : Char} (hdigit : c.isDigit = true) :
    digitValue c = c.toNat - '0'.toNat := by
  have hrange : 48 ≤ c.toNat ∧ c.toNat ≤ 57 := by
    simpa [Char.isDigit, UInt32.le_iff_toNat_le] using hdigit
  have hfound : decimalDigitRanges.find? (fun range => range.1 ≤ c.toNat && c.toNat ≤ range.2) =
      some (0x30, 0x39) := by
    rw [decimalDigitRanges, List.find?_cons_of_pos]
    simpa using hrange
  rw [digitValue, hfound]
  have hzero : '0'.toNat = 48 := rfl
  simp only [hzero]
  omega

/-- Reading digits from the first to the last gives the number that they stand for. -/
theorem foldl_eq_naturalValue {digits : List Char} (hdigits : digits.all Char.isDigit = true) :
    digits.foldl (fun sum digit => sum * 10 + (digit.toNat - '0'.toNat)) 0 =
      naturalValue digits := by
  induction digits using List.reverseRecOn with
  | nil => rfl
  | append_singleton digits digit ih =>
      rw [List.all_append, Bool.and_eq_true] at hdigits
      have hlast : naturalValue [digit] = digit.toNat - '0'.toNat := by
        rw [← digitValue_of_isDigit (by simpa using hdigits.2)]
        simp [naturalValue]
      rw [List.foldl_append, ih hdigits.1, naturalValue_append, hlast]
      rfl

/-! ## Denotation -/

/-- Digits, with or without a fraction, stand for a magnitude. -/
inductive Magnitude : List Char → ℚ → Prop
  | whole {digits : List Char} (areDigits : AreDigits digits) :
      Magnitude digits (naturalValue digits)
  | fraction {digits fraction : List Char} (areDigits : AreDigits digits)
      (areFraction : AreDigits fraction) :
      Magnitude (digits ++ '.' :: fraction)
        (naturalValue digits + naturalValue fraction / 10 ^ fraction.length)

/-- A decimal text denotes a number: a magnitude, or one with a minus sign. -/
inductive Denotes : List Char → ℚ → Prop
  | positive {text : List Char} {number : ℚ} (magnitude : Magnitude text number) :
      Denotes text number
  | negative {text : List Char} {number : ℚ} (magnitude : Magnitude text number) :
      Denotes ('-' :: text) (-number)

/-- An integer denotes a number, also with a fraction after it. -/
theorem IsInteger.exists_denotes {text : List Char} (hinteger : IsInteger text) :
    (∃ number, Denotes text number) ∧
      ∀ fraction, AreDigits fraction → ∃ number, Denotes (text ++ '.' :: fraction) number := by
  cases hinteger with
  | unsigned hdigits =>
      exact ⟨⟨_, .positive (.whole hdigits)⟩,
        fun fraction hfraction => ⟨_, .positive (.fraction hdigits hfraction)⟩⟩
  | negative hdigits =>
      exact ⟨⟨_, .negative (.whole hdigits)⟩,
        fun fraction hfraction => ⟨_, .negative (.fraction hdigits hfraction)⟩⟩

/-- Every decimal text denotes a number. -/
theorem IsDecimal.exists_denotes {text : List Char} (hdecimal : IsDecimal text) :
    ∃ number, Denotes text number := by
  cases hdecimal with
  | integer hinteger => exact hinteger.exists_denotes.1
  | fraction hinteger hfraction => exact hinteger.exists_denotes.2 _ hfraction

/-! ## The numeric value -/

/-- The digits of a text are those of ASCII. -/
def InAsciiDigits (text : List Char) : Prop :=
  ∀ c ∈ text, isDecimalDigit c = true → c.isDigit = true

instance (text : List Char) : Decidable (InAsciiDigits text) :=
  List.decidableBAll _ text

/-- A magnitude is written with the digits of a whole number and of a fraction. -/
structure Written (text whole fraction : List Char) (number : ℚ) : Prop where
  nonempty : whole ≠ []
  digits : ∀ c ∈ whole ++ fraction, c ∈ text ∧ isDecimalDigit c = true
  filtered : text.filter (· ≠ '.') = whole ++ fraction
  dropped : (text.dropWhile (· ≠ '.')).drop 1 = fraction
  head : text.head? = whole.head?
  number : number = (naturalValue (whole ++ fraction) : ℚ) / 10 ^ fraction.length

theorem ne_point_of_isDecimalDigit {c : Char} (hdigit : isDecimalDigit c = true) :
    decide (c ≠ '.') = true := by
  refine decide_eq_true ?_
  rintro rfl
  exact absurd hdigit (by decide)

theorem filter_ne_point {digits : List Char} (hdigits : ∀ c ∈ digits, isDecimalDigit c = true) :
    digits.filter (· ≠ '.') = digits :=
  List.filter_eq_self.mpr fun c hc => ne_point_of_isDecimalDigit (hdigits c hc)

theorem Magnitude.written {text : List Char} {number : ℚ} (hmagnitude : Magnitude text number) :
    ∃ whole fraction, Written text whole fraction number := by
  cases hmagnitude with
  | whole hdigits =>
      obtain ⟨hnonempty, hdigits⟩ := hdigits
      have hdropped : text.dropWhile (· ≠ '.') = [] :=
        List.dropWhile_eq_nil_iff.mpr fun c hc => ne_point_of_isDecimalDigit (hdigits c hc)
      refine ⟨text, [], hnonempty, ?_, ?_, ?_, rfl, ?_⟩
      · intro c hc
        rw [List.append_nil] at hc
        exact ⟨hc, hdigits c hc⟩
      · rw [List.append_nil, filter_ne_point hdigits]
      · rw [hdropped, List.drop_nil]
      · rw [List.append_nil, List.length_nil, pow_zero, div_one]
  | @fraction whole fraction hdigits hfraction =>
      obtain ⟨hnonempty, hdigits⟩ := hdigits
      obtain ⟨-, hfraction⟩ := hfraction
      refine ⟨whole, fraction, hnonempty, ?_, ?_, ?_, ?_, ?_⟩
      · intro c hc
        rcases List.mem_append.mp hc with hc | hc
        · exact ⟨List.mem_append_left _ hc, hdigits c hc⟩
        · exact ⟨List.mem_append_right _ (List.mem_cons_of_mem _ hc), hfraction c hc⟩
      · rw [List.filter_append, List.filter_cons_of_neg (by decide), filter_ne_point hdigits,
          filter_ne_point hfraction]
      · rw [List.dropWhile_append_of_pos fun c hc => ne_point_of_isDecimalDigit (hdigits c hc)]
        rfl
      · exact List.head?_append_of_ne_nil _ hnonempty
      · rw [naturalValue_append, Nat.cast_add, Nat.cast_mul, Nat.cast_pow, Nat.cast_ofNat, add_div,
          mul_div_cancel_right₀ _ (pow_ne_zero _ (by norm_num))]

theorem mem_of_mem_unsigned {text : List Char} {c : Char} (hc : c ∈ unsigned text) : c ∈ text := by
  by_cases hsign : text.head? = some '-'
  · obtain ⟨rest, rfl⟩ := List.head?_eq_some_iff.mp hsign
    exact List.mem_cons_of_mem _ hc
  · rwa [unsigned_of_ne hsign] at hc

theorem dropWhile_unsigned (text : List Char) :
    (unsigned text).dropWhile (· ≠ '.') = text.dropWhile (· ≠ '.') := by
  by_cases hsign : text.head? = some '-'
  · obtain ⟨rest, rfl⟩ := List.head?_eq_some_iff.mp hsign
    exact (List.dropWhile_cons_of_pos (by decide)).symm
  · rw [unsigned_of_ne hsign]

/-- The digits that a text is written with give its numeric value. -/
theorem decimalValue?_eq {text whole fraction : List Char} {number : ℚ}
    (hwritten : Written (unsigned text) whole fraction number) (hascii : InAsciiDigits text) :
    decimalValue? text = some
      (Double.ofDecimal (text.head? = some '-') (naturalValue (whole ++ fraction))
        fraction.length) := by
  have hdigits : (whole ++ fraction).all Char.isDigit = true := by
    refine List.all_eq_true.mpr fun c hc => ?_
    obtain ⟨hmem, hdigit⟩ := hwritten.digits c hc
    exact hascii c (mem_of_mem_unsigned hmem) hdigit
  simp only [decimalValue?, hwritten.filtered, ← dropWhile_unsigned text, hwritten.dropped]
  rw [if_pos hdigits, foldl_eq_naturalValue hdigits]

/-- The numeric value of a text in ASCII digits is the number that what it denotes is rounded to. -/
theorem Denotes.isRounded {text : List Char} {number : ℚ} (hdenotes : Denotes text number)
    (hascii : InAsciiDigits text) :
    ∃ value, decimalValue? text = some value ∧ value.IsRounded number := by
  cases hdenotes with
  | positive hmagnitude =>
      obtain ⟨whole, fraction, hwritten⟩ := hmagnitude.written
      have hsign : text.head? ≠ some '-' := by
        intro hsign
        rw [hwritten.head] at hsign
        obtain ⟨rest, rfl⟩ := List.head?_eq_some_iff.mp hsign
        exact absurd (hwritten.digits '-' List.mem_cons_self).2 (by decide)
      rw [← unsigned_of_ne hsign] at hwritten
      have hnearest := Binary.isNearest_ofDecimal false (naturalValue (whole ++ fraction))
        fraction.length
      rw [Binary.sign_false, one_mul, ← hwritten.number, ← decide_eq_false hsign] at hnearest
      exact ⟨_, decimalValue?_eq hwritten hascii, _, hnearest, rfl⟩
  | @negative text magnitude hmagnitude =>
      obtain ⟨whole, fraction, hwritten⟩ := hmagnitude.written
      have hunsigned : Written (unsigned ('-' :: text)) whole fraction magnitude := hwritten
      have hnearest := Binary.isNearest_ofDecimal true (naturalValue (whole ++ fraction))
        fraction.length
      rw [Binary.sign_true, neg_one_mul, ← hwritten.number] at hnearest
      exact ⟨_, decimalValue?_eq hunsigned hascii, _, hnearest, rfl⟩

end QueryShape.Text

import QueryShape.Proofs.Schema.Conforming
import QueryShape.Proofs.Text.Decimal

/-!
# Bounds of accepted numbers

A value of a numeric column denotes a fraction, which need not be a number of the floating-point
format.  The bounds are kept by the number that the fraction is rounded to.  So an accepted fraction
is within the bounds if the format has it, and another one is beyond a bound only if it is rounded
to this bound.  A bound that is not a number bounds nothing, since nothing compares with it.
-/

namespace QueryShape

open Json (Value Number)

/-! ## What values denote -/

/-- A number denotes itself, and a text what its digits stand for. -/
inductive Json.Value.Denotes : Value → ℚ → Prop
  | integer (number : Int) : Denotes (.number (.integer number)) number
  | float (number : FiniteDouble) : Denotes (.number (.float number)) number.value
  | text {text : String} {number : ℚ} (denotes : Text.Denotes text.toList number) :
      Denotes (.string text) number

/-- The digits of a value are those of ASCII, if it is a text. -/
def Json.Value.InAsciiDigits : Value → Prop
  | .string text => Text.InAsciiDigits text.toList
  | _ => True

theorem exists_denotes_toDouble (number : Number) :
    (∃ fraction, (Value.number number).Denotes fraction) ∧
      ∀ fraction, (Value.number number).Denotes fraction → number.toDouble.IsRounded fraction := by
  cases number with
  | integer number =>
      refine ⟨⟨_, .integer number⟩, ?_⟩
      intro fraction hdenotes
      cases hdenotes
      exact Double.isRounded_ofInt number
  | float number =>
      refine ⟨⟨_, .float number⟩, ?_⟩
      intro fraction hdenotes
      cases hdenotes
      exact Double.isRounded_finite number

namespace Field

/-! ## Bounds -/

/-- A fraction is within the bounds of a field, as far as these are numbers. -/
structure Within (field : Field) (number : ℚ) : Prop where
  least : ∀ least ∈ field.min, least.AtMost number
  most : ∀ most ∈ field.max, most.AtLeast number

/-- A fraction is within the bounds of a field when it is rounded. -/
structure WithinRounded (field : Field) (number : ℚ) : Prop where
  rounded : ∃ x : Double, x.IsRounded number ∧ field.InRange x
  exact : (∃ x : FiniteDouble, x.value = number) → field.Within number
  integer : ∀ integer : Int, number = integer → integer.natAbs ≤ 2 ^ 53 → field.Within number
  least : ∀ least ∈ field.min, least.AtMost number ∨ least.IsRounded number
  most : ∀ most ∈ field.max, most.AtLeast number ∨ most.IsRounded number

section

variable {field : Field} {x : Double}

/-- A fraction that is a number of the format is compared as itself. -/
theorem within_value_of_inRange {y : FiniteDouble} (hx : x.IsRounded y.value)
    (hrange : field.InRange x) : field.Within y.value where
  least least hleast :=
    (hx.atMost_or (hrange.least least hleast)).elim id fun hbound => hbound.atMost_and_atLeast.1
  most most hmost :=
    (hx.atLeast_or (hrange.most most hmost)).elim id fun hbound => hbound.atMost_and_atLeast.2

/-- Only a fraction that is not a number of the format can be beyond a bound. -/
theorem withinRounded_of_inRange {number : ℚ} (hx : x.IsRounded number)
    (hrange : field.InRange x) : field.WithinRounded number where
  rounded := ⟨x, hx, hrange⟩
  exact := by
    rintro ⟨y, rfl⟩
    exact within_value_of_inRange hx hrange
  integer := by
    rintro integer rfl hsmall
    obtain ⟨y, -, hvalue⟩ := Double.exists_finite_ofInt hsmall
    rw [← hvalue] at hx ⊢
    exact within_value_of_inRange hx hrange
  least least hleast := hx.atMost_or (hrange.least least hleast)
  most most hmost := hx.atLeast_or (hrange.most most hmost)

theorem not_within_of_lt {field : Field} {most : Int} (hmax : field.max = some (Double.ofInt most))
    (hmost : most.natAbs ≤ 2 ^ 53) {number : ℚ} (hless : (most : ℚ) < number) :
    ¬field.Within number := by
  intro hwithin
  obtain ⟨x, hfinite, hvalue⟩ := Double.exists_finite_ofInt hmost
  rw [hfinite] at hmax
  have hle := hwithin.most _ hmax _ rfl
  rw [hvalue, WithBotTop.coe_le_coe] at hle
  exact absurd hless (not_lt.mpr hle)

end

/-! ## Values of columns -/

/-- A value is what is found for a column that is single, or an item of what is found for a list. -/
inductive Holds (field : Field) : Option Value → Value → Prop
  | single (isSingle : field.list = false) {value : Value} (present : value ≠ .null) :
      field.Holds (some value) value
  | item (isList : field.list = true) {items : List Value} {value : Value} (mem : value ∈ items) :
      field.Holds (some (.array items)) value

/-- A value denotes a fraction, and what it denotes is within the bounds of a field up to rounding,
of which a floating-point number has no need. -/
structure Bounds (field : Field) (value : Value) : Prop where
  denotes : ∃ number, value.Denotes number
  rounded : ∀ number, value.Denotes number → value.InAsciiDigits → field.WithinRounded number
  float : ∀ x : FiniteDouble, value = .number (.float x) → field.Within x.value

theorem bounds_number {field : Field} {number : Number} (hrange : field.InRange number.toDouble) :
    field.Bounds (.number number) := by
  obtain ⟨hdenotes, hstands⟩ := exists_denotes_toDouble number
  refine ⟨hdenotes, ?rounded, ?float⟩
  case rounded =>
    intro fraction hfraction _
    exact withinRounded_of_inRange (hstands fraction hfraction) hrange
  case float =>
    rintro x ⟨⟩
    exact within_value_of_inRange (Double.isRounded_finite x) hrange

theorem bounds_text {field : Field} {text : String}
    (hdecimal : Text.IsDecimal text.toList) (hrange : field.TextInRange text) :
    field.Bounds (.string text) := by
  obtain ⟨number, hdenotes⟩ := hdecimal.exists_denotes
  refine ⟨⟨number, .text hdenotes⟩, ?rounded, nofun⟩
  case rounded =>
    intro other hother hascii
    cases hother with
    | text hother =>
        obtain ⟨x, hvalue, hrounded⟩ := hother.isRounded hascii
        exact withinRounded_of_inRange hrounded (hrange x hvalue)

end Field

namespace Schema

variable {engine : PatternEngine} {schema : Schema} {field : Field} {value : Value}

theorem ColumnConforms.admits {found : Option Value}
    (hconforms : schema.ColumnConforms engine field found) (hholds : field.Holds found value) :
    schema.Admits engine field value := by
  cases hholds with
  | single isSingle present => exact (columnConforms_single_iff isSingle present).mp hconforms
  | item isList mem =>
      obtain ⟨items, heq, hadmitted⟩ := (columnConforms_list_iff isList (by simp)).mp hconforms
      cases heq
      exact hadmitted value mem

/-- A numeric column admits only values that it bounds. -/
theorem Admits.bounds (hadmits : schema.Admits engine field value)
    (hnumeric : field.type.isNumeric = true) : field.Bounds value := by
  cases hadmits with
  | int _ inRange => exact Field.bounds_number inRange
  | float _ inRange => exact Field.bounds_number inRange
  | bigInt _ inRange => exact Field.bounds_number inRange
  | bigIntText _ format inRange => exact Field.bounds_text (.integer format) inRange
  | decimal _ inRange => exact Field.bounds_number inRange
  | decimalText _ format inRange => exact Field.bounds_text format inRange
  | _ => simp_all [FieldType.isNumeric]

end Schema

namespace ModelValidator

/-- Every value that a validator accepts for a numeric column is a number within the bounds of the
column, up to rounding. -/
theorem accepts_within_bounds {engine : PatternEngine} {schema : Schema} {name : String}
    {validator : ModelValidator} (hvalidator : ofModel engine schema name = .ok validator)
    {entries : Keyed Value} {value : Value}
    (haccepts : validator.validate (.object entries) = .ok value) :
    ∃ model, schema.model? name = some model ∧
      ∀ column field, (column, field) ∈ model.columns → field.type.isNumeric = true →
        ∀ held, field.Holds (entries.get? column) held → field.Bounds held := by
  obtain ⟨model, hmodel, hcolumns⟩ := forall₂_of_ofModel hvalidator
  have hconforms := (issues_eq_nil_iff_conforms hcolumns).mp (validate_eq_ok_iff.mp haccepts).1
  refine ⟨model, hmodel, ?_⟩
  intro column field hmem hnumeric held hholds
  exact ((hconforms _ hmem).admits hholds).bounds hnumeric

/-- An item has a count of at most nine, and prices of at least two, given as numbers or as text. -/
theorem accepts_within_bounds_item :
    let count : Field := { type := .int, max := some (Double.ofInt 9) }
    let prices : Field := { type := .decimal, list := true, min := some (Double.ofInt 2) }
    let item : Model := { fields := [("count", count), ("prices", prices)] }
    let schema := Schema.empty.withModel "item" item
    let entries : Keyed Value := [("count", .number (.integer 7)),
      ("prices", .array [.string "2.5", .number (.integer 3)])]
    ∃ validator, ofModel Pattern.engine schema "item" = .ok validator ∧
      validator.validate (.object entries) = .ok (.object entries) ∧
      count.Within 7 ∧ (Value.string "2.5").Denotes (5 / 2) ∧ prices.WithinRounded (5 / 2) := by
  intro count prices item schema entries
  obtain ⟨validator, hvalidator, haccepts⟩ : ∃ validator,
      ofModel Pattern.engine schema "item" = .ok validator ∧
        validator.validate (.object entries) = .ok (.object entries) :=
    ⟨_, rfl, validate_eq_ok_iff.mpr ⟨by decide +kernel, rfl⟩⟩
  obtain ⟨model, hmodel, hbounds⟩ := accepts_within_bounds hvalidator haccepts
  obtain rfl : item = model := Option.some.inj hmodel
  have hcount : count.Bounds (.number (.integer 7)) :=
    hbounds "count" count (List.mem_filter.mpr ⟨.head _, rfl⟩) rfl _ (.single rfl nofun)
  have hprices : prices.Bounds (.string "2.5") :=
    hbounds "prices" prices (List.mem_filter.mpr ⟨.tail _ (.head _), rfl⟩) rfl _
      (.item rfl (.head _))
  have hdenotes : (Value.string "2.5").Denotes (5 / 2) := by
    have hnumber : (Text.naturalValue ['2'] : ℚ) + Text.naturalValue ['5'] / 10 ^ 1 = 5 / 2 := by
      rw [(by decide : Text.naturalValue ['2'] = 2), (by decide : Text.naturalValue ['5'] = 5)]
      norm_num
    have htwo : Text.AreDigits ['2'] := Text.isDigits_iff.mp (by decide)
    have hfive : Text.AreDigits ['5'] := Text.isDigits_iff.mp (by decide)
    rw [← hnumber]
    exact .text (.positive (.fraction htwo hfive))
  have hascii : Text.InAsciiDigits "2.5".toList := by decide
  exact ⟨validator, hvalidator, haccepts,
    (hcount.rounded 7 (.integer 7) trivial).integer 7 rfl (by decide), hdenotes,
    hprices.rounded (5 / 2) hdenotes hascii⟩

/-- A count may be beyond its bound if it rounds to it, a price in other digits than those of ASCII
is compared with no bound, and a bound that is not a number bounds nothing. -/
theorem accepts_beyond_bounds_item :
    let count : Field := { type := .int, max := some (Double.ofInt (2 ^ 53)) }
    let price : Field := { type := .decimal, max := some (Double.ofInt 5) }
    let weight : Field := { type := .float, max := some .nan }
    let item : Model := { fields := [("count", count), ("price", price), ("weight", weight)] }
    let schema := Schema.empty.withModel "item" item
    let entries : Keyed Value := [("count", .number (.integer (2 ^ 53 + 1))),
      ("price", .string "٩"), ("weight", .number (.integer 3))]
    ∃ validator, ofModel Pattern.engine schema "item" = .ok validator ∧
      validator.validate (.object entries) = .ok (.object entries) ∧
      (count.Holds (entries.get? "count") (.number (.integer (2 ^ 53 + 1))) ∧
        (Value.number (.integer (2 ^ 53 + 1))).Denotes (2 ^ 53 + 1) ∧
        ¬count.Within (2 ^ 53 + 1)) ∧
      (price.Holds (entries.get? "price") (.string "٩") ∧ (Value.string "٩").Denotes 9 ∧
        ¬price.Within 9) ∧
      weight.Holds (entries.get? "weight") (.number (.integer 3)) ∧
        (Value.number (.integer 3)).Denotes 3 ∧
        ¬∀ most ∈ weight.max, ∃ value ∈ most.value?, (3 : ℚ) ≤ value := by
  intro count price weight item schema entries
  refine ⟨_, rfl, validate_eq_ok_iff.mpr ⟨by decide +kernel, rfl⟩, ⟨.single rfl nofun, ?_, ?_⟩,
    ⟨.single rfl nofun, ?_, ?_⟩, .single rfl nofun, ?_, ?_⟩
  · have hcast : ((2 ^ 53 + 1 : Int) : ℚ) = 2 ^ 53 + 1 := by norm_num
    rw [← hcast]
    exact .integer _
  · exact Field.not_within_of_lt rfl (by decide) (by norm_num)
  · have hnine : (Text.naturalValue ['٩'] : ℚ) = 9 := by
      rw [(by decide : Text.naturalValue ['٩'] = 9)]
      rfl
    rw [← hnine]
    exact .text (.positive (.whole (Text.isDigits_iff.mp (by decide))))
  · exact Field.not_within_of_lt rfl (by decide) (by norm_num)
  · exact .integer 3
  · intro hmost
    obtain ⟨value, hvalue, -⟩ := hmost .nan rfl
    cases hvalue

end ModelValidator

end QueryShape

import QueryShape.Pattern.Engine
import QueryShape.Proofs.Number.Order
import QueryShape.Proofs.Schema.Accepts
import QueryShape.Proofs.Text.Formats

/-!
# Conforming objects

What a column of a model admits is said here type by type, without the issues that a validator
reports on the way.  A validator accepts an object exactly if all columns of its model conform, the
missing ones among them, and then it gives back the entries that are columns.
-/

namespace QueryShape

open Json (Value Number)

namespace Field

/-- The bounds of a field admit a number.  They compare by their exact values; a bound that is not a
number admits every number. -/
structure InRange (field : Field) (value : Double) : Prop where
  least : ∀ least ∈ field.min, ¬value < least
  most : ∀ most ∈ field.max, ¬most < value

instance (field : Field) (value : Double) : Decidable (field.InRange value) :=
  decidable_of_iff ((∀ least ∈ field.min, ¬value < least) ∧ ∀ most ∈ field.max, ¬most < value)
    ⟨fun hrange => ⟨hrange.1, hrange.2⟩, fun hrange => ⟨hrange.least, hrange.most⟩⟩

/-- The bounds of a field admit a number that is given as text.  Digits that are not those of ASCII
have no numeric value to be out of bounds. -/
def TextInRange (field : Field) (text : String) : Prop :=
  ∀ value ∈ Text.decimalValue? text.toList, field.InRange value

instance (field : Field) (text : String) : Decidable (field.TextInRange text) :=
  inferInstanceAs (Decidable (∀ value ∈ Text.decimalValue? text.toList, field.InRange value))

/-- A text passes the checks that are set on a field. -/
structure AdmitsText (engine : PatternEngine) (field : Field) (text : String) : Prop where
  minLength : ∀ least ∈ field.minLength, least ≤ text.length
  maxLength : ∀ most ∈ field.maxLength, text.length ≤ most
  email : field.email = true →
    ∃ address : Text.MailAddress, Text.Trims text.toList address.text
  url : field.url = true → ∃ core, Text.Trims text.toList core ∧ Text.IsWebAddress core
  pattern : ∀ source ∈ field.pattern, engine.Matches ("^(?:" ++ source ++ ")$") text

end Field

namespace Schema

/-- A single value, or an item of a list, passes the test for the type of a column. -/
inductive Admits (engine : PatternEngine) (schema : Schema) (field : Field) : Value → Prop
  | string (type : field.type = .string) {text : String} (admitted : field.AdmitsText engine text) :
      schema.Admits engine field (.string text)
  | int (type : field.type = .int) {number : Int} (inRange : field.InRange (Double.ofInt number)) :
      schema.Admits engine field (.number (.integer number))
  | float (type : field.type = .float) {number : Number} (inRange : field.InRange number.toDouble) :
      schema.Admits engine field (.number number)
  | boolean (type : field.type = .boolean) {flag : Bool} : schema.Admits engine field (.bool flag)
  | dateTime (type : field.type = .dateTime) {text : String}
      (stamp : Text.Timestamp) (format : stamp.text = text.toList) :
      schema.Admits engine field (.string text)
  | bigInt (type : field.type = .bigInt) {number : Int}
      (inRange : field.InRange (Double.ofInt number)) :
      schema.Admits engine field (.number (.integer number))
  | bigIntText (type : field.type = .bigInt) {text : String}
      (format : Text.IsInteger text.toList) (inRange : field.TextInRange text) :
      schema.Admits engine field (.string text)
  | decimal (type : field.type = .decimal) {number : Number}
      (inRange : field.InRange number.toDouble) : schema.Admits engine field (.number number)
  | decimalText (type : field.type = .decimal) {text : String}
      (format : Text.IsDecimal text.toList) (inRange : field.TextInRange text) :
      schema.Admits engine field (.string text)
  | bytes (type : field.type = .bytes) {text : String} : schema.Admits engine field (.string text)
  | json (type : field.type = .json) {value : Value} : schema.Admits engine field value
  | enumeration (type : field.type = .enumeration) {name : String} {values : List String}
      (target : field.target = some name) (known : schema.enumValues? name = some values)
      {text : String} (listed : text ∈ values) : schema.Admits engine field (.string text)

/-- What an object has under the name of a column, which may be nothing, conforms to the field. -/
inductive ColumnConforms (engine : PatternEngine) (schema : Schema) (field : Field) :
    Option Value → Prop
  | missing (optional : field.optional = true) : schema.ColumnConforms engine field none
  | null (optional : field.optional = true) : schema.ColumnConforms engine field (some .null)
  | list (isList : field.list = true) {items : List Value}
      (admitted : ∀ item ∈ items, schema.Admits engine field item) :
      schema.ColumnConforms engine field (some (.array items))
  | single (isSingle : field.list = false) {value : Value} (present : value ≠ .null)
      (admitted : schema.Admits engine field value) :
      schema.ColumnConforms engine field (some value)

section

variable {engine : PatternEngine} {schema : Schema} {field : Field} {value : Value}

/-- Only a column of JSON data admits a `null` in its place. -/
theorem admits_null_iff : schema.Admits engine field .null ↔ field.type = .json := by
  constructor
  · intro hadmits
    cases hadmits
    assumption
  · intro htype
    exact .json htype

theorem columnConforms_none_iff :
    schema.ColumnConforms engine field none ↔ field.optional = true := by
  constructor
  · intro hconforms
    cases hconforms
    assumption
  · exact .missing

theorem columnConforms_null_iff :
    schema.ColumnConforms engine field (some .null) ↔ field.optional = true := by
  constructor
  · intro hconforms
    cases hconforms with
    | null optional => exact optional
    | single _ present _ => contradiction
  · exact .null

theorem columnConforms_list_iff (hlist : field.list = true) (hvalue : value ≠ .null) :
    schema.ColumnConforms engine field (some value) ↔
      ∃ items, value = .array items ∧ ∀ item ∈ items, schema.Admits engine field item := by
  constructor
  · intro hconforms
    cases hconforms with
    | null => contradiction
    | list _ admitted => exact ⟨_, rfl, admitted⟩
    | single isSingle => simp [hlist] at isSingle
  · rintro ⟨items, heq, hadmitted⟩
    subst heq
    exact .list hlist hadmitted

theorem columnConforms_single_iff (hsingle : field.list = false) (hvalue : value ≠ .null) :
    schema.ColumnConforms engine field (some value) ↔ schema.Admits engine field value := by
  constructor
  · intro hconforms
    cases hconforms with
    | null => contradiction
    | list isList => simp [hsingle] at isList
    | single _ _ admitted => exact admitted
  · exact .single hsingle hvalue

end

end Schema

namespace Column

theorem whenViolated_eq_nil_iff {α : Type} {limit : Option α} {violated : α → Bool}
    {issue : α → Issue} :
    whenViolated limit violated issue = [] ↔ ∀ bound ∈ limit, violated bound = false := by
  cases limit <;> simp [whenViolated]

theorem unless_eq_nil_iff {condition : Prop} [Decidable condition] {issues : Issues}
    {issue : Issue} :
    (if condition then issues else [issue]) = [] ↔ condition ∧ issues = [] := by
  split <;> simp [*]

/-- A column has its name, its field and what the field refers to. -/
structure MadeFrom (engine : PatternEngine) (schema : Schema) (name : String) (field : Field)
    (column : Column) : Prop where
  named : column.name = name
  declared : column.field = field
  drawn : column.values = valuesOf schema field
  matched : column.pattern =
    field.pattern.bind fun source => (engine.compile (wholeText source)).toOption
  usable : ∀ source ∈ field.pattern, engine.Accepts (wholeText source)

theorem madeFrom_of_ofField {engine : PatternEngine} {schema : Schema} {model name : String}
    {field : Field} {column : Column}
    (hcolumn : ofField engine schema model name field = .ok column) :
    column.MadeFrom engine schema name field := by
  simp only [ofField] at hcolumn
  cases htext : field.pattern with
  | none =>
      rw [htext] at hcolumn
      cases hcolumn
      exact ⟨rfl, rfl, rfl, by simp [htext], by simp [htext]⟩
  | some source =>
      rw [htext] at hcolumn
      cases hcompiled : engine.compile (wholeText source) with
      | error explanation => simp [hcompiled] at hcolumn
      | ok test =>
          simp only [hcompiled] at hcolumn
          cases hcolumn
          refine ⟨rfl, rfl, rfl, by simp [htext, hcompiled, Except.toOption], ?_⟩
          intro other hother
          obtain rfl : source = other := Option.some.inj (htext.symm.trans hother)
          exact ⟨test, hcompiled⟩

section

variable {engine : PatternEngine} {schema : Schema} {name : String} {field : Field}
  {column : Column} {path : Path}

theorem textIssues_eq_nil_iff (hmade : column.MadeFrom engine schema name field) {text : String} :
    column.textIssues path text = [] ↔ field.AdmitsText engine text := by
  have hpattern : (∀ test ∈ column.pattern, test text = true) ↔
      ∀ source ∈ field.pattern, engine.Matches ("^(?:" ++ source ++ ")$") text := by
    rw [hmade.matched]
    cases hsource : field.pattern with
    | none => simp
    | some source =>
        obtain ⟨test, htest⟩ := hmade.usable source hsource
        simp only [wholeText] at htest
        simp [wholeText, PatternEngine.Matches, htest, Except.toOption]
  simp only [textIssues, List.append_eq_nil_iff, whenViolated_eq_nil_iff, hmade.declared,
    decide_eq_false_iff_not, Nat.not_lt, Bool.not_eq_eq_eq_not, Bool.not_false, hpattern]
  constructor
  · rintro ⟨⟨⟨⟨hleast, hmost⟩, hemail⟩, hurl⟩, hmatch⟩
    exact ⟨hleast, hmost, by simpa [Text.isEmail_iff] using hemail,
      by simpa [Text.isUrl_iff] using hurl, hmatch⟩
  · intro hadmits
    exact ⟨⟨⟨⟨hadmits.minLength, hadmits.maxLength⟩,
      by simpa [Text.isEmail_iff] using hadmits.email⟩,
      by simpa [Text.isUrl_iff] using hadmits.url⟩, hadmits.pattern⟩

theorem rangeIssues_eq_nil_iff (hmade : column.MadeFrom engine schema name field) {value : Double} :
    column.rangeIssues path value = [] ↔ field.InRange value := by
  simp only [rangeIssues, List.append_eq_nil_iff, whenViolated_eq_nil_iff, hmade.declared,
    ← Bool.not_eq_true, Double.lt_eq_true_iff]
  exact ⟨fun h => ⟨h.1, h.2⟩, fun h => ⟨h.least, h.most⟩⟩

theorem textRangeIssues_eq_nil_iff (hmade : column.MadeFrom engine schema name field)
    {text : String} :
    column.textRangeIssues path text = [] ↔ field.TextInRange text := by
  rw [textRangeIssues, Field.TextInRange]
  cases Text.decimalValue? text.toList with
  | none => simp
  | some value => simp [rangeIssues_eq_nil_iff hmade]

/-- A text is known to a column if the enumeration that the field draws from lists it. -/
theorem mem_values_iff (hmade : column.MadeFrom engine schema name field)
    (htype : field.type = .enumeration) {text : String} :
    text ∈ column.values ↔ ∃ target values, field.target = some target ∧
      schema.enumValues? target = some values ∧ text ∈ values := by
  rw [hmade.drawn, valuesOf, if_pos htype]
  cases field.target with
  | none => simp
  | some target => cases hvalues : schema.enumValues? target <;> simp [hvalues]

theorem enumIssues_eq_nil_iff {value : Value} :
    column.enumIssues path value = [] ↔ ∃ text ∈ column.values, value = .string text := by
  simp only [enumIssues]
  split
  · next text => simp
  · next hother => simpa using fun text _ heq => hother text heq

/-- Nothing is wrong with a value exactly if the field admits it. -/
theorem valueIssues_eq_nil_iff (hmade : column.MadeFrom engine schema name field)
    (hcolumn : field.isRelation = false) {value : Value} :
    column.valueIssues path value = [] ↔ schema.Admits engine field value := by
  obtain ⟨rfl⟩ := hmade.declared
  constructor
  · intro hissues
    simp only [valueIssues] at hissues
    split at hissues
    -- A value of another type than that of the column is an issue.
    any_goals contradiction
    · next htype => exact .string htype ((textIssues_eq_nil_iff hmade).mp hissues)
    · next htype => exact .int htype ((rangeIssues_eq_nil_iff hmade).mp hissues)
    · next htype => exact .float htype ((rangeIssues_eq_nil_iff hmade).mp hissues)
    · next htype => exact .boolean htype
    · next htype =>
        obtain ⟨stamp, hstamp⟩ := Text.isTimestamp_iff.mp (unless_eq_nil_iff.mp hissues).1
        exact .dateTime htype stamp hstamp
    · next htype => exact .bigInt htype ((rangeIssues_eq_nil_iff hmade).mp hissues)
    · next htype =>
        obtain ⟨hformat, hissues⟩ := unless_eq_nil_iff.mp hissues
        exact .bigIntText htype (Text.isInteger_iff.mp hformat)
          ((textRangeIssues_eq_nil_iff hmade).mp hissues)
    · next htype => exact .decimal htype ((rangeIssues_eq_nil_iff hmade).mp hissues)
    · next htype =>
        obtain ⟨hformat, hissues⟩ := unless_eq_nil_iff.mp hissues
        exact .decimalText htype (Text.isDecimal_iff.mp hformat)
          ((textRangeIssues_eq_nil_iff hmade).mp hissues)
    · next htype => exact .bytes htype
    · next htype => exact .json htype
    · next htype =>
        obtain ⟨text, hlisted, rfl⟩ := enumIssues_eq_nil_iff.mp hissues
        obtain ⟨target, values, htarget, hknown, hlisted⟩ := (mem_values_iff hmade htype).mp hlisted
        exact .enumeration htype htarget hknown hlisted
    · next htype => simp [Field.isRelation, htype] at hcolumn
  · intro hadmits
    cases hadmits with
    | string type admitted => simp [valueIssues, type, textIssues_eq_nil_iff hmade, admitted]
    | enumeration type target known listed =>
        have hlisted := (mem_values_iff hmade type).mpr ⟨_, _, target, known, listed⟩
        simp [valueIssues, type, enumIssues_eq_nil_iff, hlisted]
    | dateTime type stamp format =>
        simp [valueIssues, type, Text.isTimestamp_iff.mpr ⟨stamp, format⟩]
    | bigIntText type format inRange =>
        simp [valueIssues, type, Text.isInteger_iff.mpr format, textRangeIssues_eq_nil_iff hmade,
          inRange]
    | decimalText type format inRange =>
        simp [valueIssues, type, Text.isDecimal_iff.mpr format, textRangeIssues_eq_nil_iff hmade,
          inRange]
    | _ => simp [valueIssues, rangeIssues_eq_nil_iff hmade, *]

/-- Nothing is wrong with what an object has for a column exactly if it conforms. -/
theorem issues_eq_nil_iff (hmade : column.MadeFrom engine schema name field)
    (hcolumn : field.isRelation = false) {found : Option Value} :
    column.issues found = [] ↔ schema.ColumnConforms engine field found := by
  obtain ⟨rfl⟩ := hmade.declared
  simp only [issues]
  split
  · simp [Schema.columnConforms_none_iff]
  · simp [Schema.columnConforms_null_iff]
  · next value hpresent =>
      split
      · next hlist =>
          rw [Schema.columnConforms_list_iff hlist hpresent]
          split
          · next items =>
              have hitems : (∀ item ∈ items, schema.Admits engine column.field item) ↔
                  ∀ entry ∈ items.zipIdx, schema.Admits engine column.field entry.1 := by
                conv_lhs => rw [← List.zipIdx_map_fst 0 items, List.forall_mem_map]
              simp only [List.flatMap_eq_nil_iff, valueIssues_eq_nil_iff hmade hcolumn,
                Value.array.injEq, exists_eq_left', hitems]
          · next hother =>
              simp only [List.cons_ne_nil, false_iff]
              rintro ⟨items, heq, _⟩
              exact hother items heq
      · next hsingle =>
          rw [Schema.columnConforms_single_iff (by simpa using hsingle) hpresent]
          exact valueIssues_eq_nil_iff hmade hcolumn

end

end Column

namespace ModelValidator

variable {engine : PatternEngine} {schema : Schema} {name : String} {validator : ModelValidator}

/-- Nothing is wrong with an object exactly if all columns of the model conform. -/
theorem issues_eq_nil_iff_conforms {model : Model} {entries : Keyed Value}
    (hcolumns : List.Forall₂
      (fun entry column => Column.ofField engine schema name entry.1 entry.2 = .ok column)
      model.columns validator.columns) :
    validator.issues entries = [] ↔
      ∀ entry ∈ model.columns, schema.ColumnConforms engine entry.2 (entries.get? entry.1) := by
  have hsettled : ∀ entry ∈ model.columns, ∀ column,
      Column.ofField engine schema name entry.1 entry.2 = .ok column →
        (column.issues (entries.get? column.name) = [] ↔
          schema.ColumnConforms engine entry.2 (entries.get? entry.1)) := by
    intro entry hentry column hcolumn
    have hmade := Column.madeFrom_of_ofField hcolumn
    rw [hmade.named]
    exact Column.issues_eq_nil_iff hmade (by simpa using (List.mem_filter.mp hentry).2)
  rw [issues, List.flatMap_eq_nil_iff]
  generalize model.columns = fields, validator.columns = columns at hcolumns hsettled
  induction hcolumns with
  | nil => simp
  | cons hcolumn _ ih =>
      simp only [List.forall_mem_cons] at hsettled ⊢
      exact and_congr (hsettled.1 _ hcolumn) (ih hsettled.2)

/-- A validator accepts exactly the objects all of whose columns conform to the model, and reduces
them to their columns.  A `null` among the items of a list conforms for JSON data only. -/
theorem accepts_exactly_conforming (hvalidator : ofModel engine schema name = .ok validator) :
    ∃ model, schema.model? name = some model ∧
      (∀ raw value, validator.validate raw = .ok value ↔
        ∃ entries : Keyed Value, raw = .object entries ∧
          (∀ column field, (column, field) ∈ model.columns →
            schema.ColumnConforms engine field (entries.get? column)) ∧
          value = .object (entries.filter fun entry => model.columns.keys.contains entry.1)) ∧
      ∀ field, schema.Admits engine field .null ↔ field.type = .json := by
  obtain ⟨model, hmodel, hcolumns⟩ := forall₂_of_ofModel hvalidator
  have hnames : validator.columnNames = model.columns.keys := by
    rw [Schema.columnNames_of_ofModel hvalidator, Schema.columnNames, hmodel]
  refine ⟨model, hmodel, ?_, fun field => Schema.admits_null_iff⟩
  intro raw value
  cases raw with
  | object entries =>
      simp only [validate_eq_ok_iff, issues_eq_nil_iff_conforms hcolumns, Prod.forall, hnames,
        Value.object.injEq, exists_eq_left']
  | _ => simp [validate]

/-- A ticket has a price of nine at most, given as a number or as text, and notes of any kind.  Its
states are listed, and a `null` is none of them. -/
theorem accepts_exactly_conforming_ticket :
    let states : Field := { Field.valueOf "state" with list := true, optional := true }
    let ticket : Model := { fields := [
      ("code", { type := .string, minLength := some 2 }),
      ("notes", { type := .json, list := true }), ("owner", .relationTo "user"),
      ("price", { type := .decimal, max := some (Double.ofInt 9) }), ("states", states)] }
    let schema := (Schema.empty.withEnum "state" ["open", "closed"]).withModel "ticket" ticket
    let columns : Keyed Value := [
      ("code", .string "ab"), ("notes", .array [.null, .bool true]), ("price", .string "7.5")]
    ∃ validator, ofModel Pattern.engine schema "ticket" = .ok validator ∧
      validator.validate (.object (("author", .null) :: columns)) = .ok (.object columns) ∧
      ∀ value,
        validator.validate (.object (columns ++ [("states", .array [.null])])) ≠ .ok value := by
  intro states ticket schema columns
  obtain ⟨validator, hvalidator⟩ :
      ∃ validator, ofModel Pattern.engine schema "ticket" = .ok validator := ⟨_, rfl⟩
  obtain ⟨model, hmodel, haccepts, hnull⟩ := accepts_exactly_conforming hvalidator
  obtain rfl : ticket = model := Option.some.inj hmodel
  refine ⟨validator, hvalidator, (haccepts _ _).mpr ⟨_, rfl, ?conforming, rfl⟩, ?refused⟩
  case conforming =>
    intro column field hmem
    simp [ticket, states, Model.columns, Field.valueOf, Field.isRelation, Field.relationTo] at hmem
    obtain ⟨rfl, rfl⟩ | ⟨rfl, rfl⟩ | ⟨rfl, rfl⟩ | ⟨rfl, rfl⟩ := hmem
    · exact .single rfl nofun (.string rfl ⟨by decide, nofun, nofun, nofun, nofun⟩)
    · exact .list rfl fun item _ => .json rfl
    · have hdecimal : Text.IsDecimal "7.5".toList := Text.isDecimal_iff.mp (by decide +kernel)
      exact .single rfl nofun (.decimalText rfl hdecimal (by decide +kernel))
    · exact .missing rfl
  case refused =>
    intro value hvalue
    obtain ⟨entries, heq, hconforms, -⟩ := (haccepts _ _).mp hvalue
    cases heq
    have hstates : schema.ColumnConforms Pattern.engine states (some (.array [.null])) :=
      hconforms "states" states (by decide)
    cases hstates with
    | list _ hadmitted =>
        have hnone := (hnull states).mp (hadmitted .null (List.mem_singleton_self _))
        exact absurd hnone (by decide)
    | single isSingle => cases isSingle

end ModelValidator

end QueryShape

import QueryShape.Proofs.Text.Address
import QueryShape.Text.Format

/-!
# Grammars of the text formats

The checks of integers, decimals, timestamps and web addresses accept exactly the texts of a
grammar. Each reader in a check takes a part of its own away from the front of a text.
-/

namespace QueryShape.Text

/-! ## Integers and decimals -/

/-- One digit or more, of any script. -/
structure AreDigits (text : List Char) : Prop where
  nonempty : text ≠ []
  digits : ∀ c ∈ text, isDecimalDigit c = true

theorem isDigits_iff {text : List Char} : isDigits text = true ↔ AreDigits text := by
  rw [isDigits, Bool.and_eq_true, Bool.not_eq_true', List.isEmpty_eq_false_iff, List.all_eq_true]
  exact ⟨fun ⟨hnonempty, hdigits⟩ => ⟨hnonempty, hdigits⟩,
    fun ⟨hnonempty, hdigits⟩ => ⟨hnonempty, hdigits⟩⟩

/-- Digits, with or without a minus sign before them. -/
inductive IsInteger : List Char → Prop
  | unsigned {text : List Char} (digits : AreDigits text) : IsInteger text
  | negative {text : List Char} (digits : AreDigits text) : IsInteger ('-' :: text)

/-- An integer, with or without a point and more digits after it. -/
inductive IsDecimal : List Char → Prop
  | integer {text : List Char} (integer : IsInteger text) : IsDecimal text
  | fraction {text fraction : List Char} (integer : IsInteger text) (digits : AreDigits fraction) :
      IsDecimal (text ++ '.' :: fraction)

theorem unsigned_of_ne {text : List Char} (htext : text.head? ≠ some '-') :
    unsigned text = text := by
  unfold unsigned
  split
  · exact absurd rfl htext
  · rfl

theorem ne_minus_of_isDecimalDigit {c : Char} (hdigit : isDecimalDigit c = true) : c ≠ '-' := by
  rintro rfl
  exact absurd hdigit (by decide)

theorem AreDigits.head?_ne {text : List Char} (htext : AreDigits text) (rest : List Char) :
    (text ++ rest).head? ≠ some '-' := by
  rw [List.head?_append_of_ne_nil _ htext.nonempty]
  intro hhead
  obtain ⟨tail, rfl⟩ := List.head?_eq_some_iff.mp hhead
  exact ne_minus_of_isDecimalDigit (htext.digits '-' List.mem_cons_self) rfl

/-- A sign is taken away, and digits have none. -/
theorem isInteger_iff_unsigned {text : List Char} :
    IsInteger text ↔ AreDigits (unsigned text) := by
  constructor
  · intro hinteger
    cases hinteger with
    | unsigned hdigits =>
        have hsign := hdigits.head?_ne []
        rw [List.append_nil] at hsign
        rwa [unsigned_of_ne hsign]
    | negative hdigits => exact hdigits
  · intro hdigits
    by_cases hsign : text.head? = some '-'
    · obtain ⟨rest, rfl⟩ := List.head?_eq_some_iff.mp hsign
      exact .negative hdigits
    · rw [unsigned_of_ne hsign] at hdigits
      exact .unsigned hdigits

theorem isInteger_iff {text : List Char} : isInteger text = true ↔ IsInteger text := by
  rw [isInteger, isDigits_iff, isInteger_iff_unsigned]

/-- The sign of a text is that of the integer at its start. -/
theorem exists_isInteger_of_unsigned {text whole rest : List Char} (hwhole : AreDigits whole)
    (hunsigned : unsigned text = whole ++ rest) :
    ∃ integer, IsInteger integer ∧ text = integer ++ rest := by
  by_cases hsign : text.head? = some '-'
  · obtain ⟨tail, rfl⟩ := List.head?_eq_some_iff.mp hsign
    exact ⟨'-' :: whole, .negative hwhole, congrArg ('-' :: ·) hunsigned⟩
  · rw [unsigned_of_ne hsign] at hunsigned
    exact ⟨whole, .unsigned hwhole, hunsigned⟩

theorem unsigned_append {text : List Char} (htext : IsInteger text) (rest : List Char) :
    unsigned (text ++ rest) = unsigned text ++ rest := by
  cases htext with
  | unsigned hdigits =>
      have hsign := hdigits.head?_ne []
      rw [List.append_nil] at hsign
      rw [unsigned_of_ne (hdigits.head?_ne rest), unsigned_of_ne hsign]
  | negative hdigits => rfl

theorem isDecimal_iff {text : List Char} : isDecimal text = true ↔ IsDecimal text := by
  constructor
  · intro hdecimal
    simp only [isDecimal] at hdecimal
    split at hdecimal
    · exact .integer (isInteger_iff_unsigned.mpr (isDigits_iff.mp hdecimal))
    · next fraction hrest =>
        rw [Bool.and_eq_true, isDigits_iff, isDigits_iff] at hdecimal
        have hunsigned := List.takeWhile_append_dropWhile (p := isDecimalDigit) (l := unsigned text)
        rw [hrest] at hunsigned
        obtain ⟨integer, hinteger, rfl⟩ :=
          exists_isInteger_of_unsigned hdecimal.1 hunsigned.symm
        exact .fraction hinteger hdecimal.2
    · cases hdecimal
  · intro hdecimal
    cases hdecimal with
    | integer hinteger =>
        have hdigits := isInteger_iff_unsigned.mp hinteger
        have hrest : (unsigned text).dropWhile isDecimalDigit = [] :=
          List.dropWhile_eq_nil_iff.mpr hdigits.digits
        simp only [isDecimal, hrest]
        exact isDigits_iff.mpr hdigits
    | @fraction integer fraction hinteger hfraction =>
        have hdigits := isInteger_iff_unsigned.mp hinteger
        have hpoint : ∀ c ∈ ('.' :: fraction).head?, isDecimalDigit c = false := by
          rintro c ⟨⟩
          decide
        simp only [isDecimal, unsigned_append hinteger, dropWhile_append_eq hdigits.digits hpoint,
          takeWhile_append_of_head hpoint, List.takeWhile_eq_self_iff.mpr hdigits.digits,
          Bool.and_eq_true]
        exact ⟨isDigits_iff.mpr hdigits, isDigits_iff.mpr hfraction⟩

/-! ## Timestamps -/

/-- A number of digits, of any script. -/
structure DigitBlock (count : Nat) where
  text : List Char
  length_text : text.length = count
  digits : ∀ c ∈ text, isDecimalDigit c = true

/-- One of some marks and a number of digits after it. -/
structure MarkedBlock (marks : List Char) (count : Nat) where
  mark : Char
  mark_mem : mark ∈ marks
  block : DigitBlock count

def MarkedBlock.text {marks : List Char} {count : Nat} (marked : MarkedBlock marks count) :
    List Char :=
  marked.mark :: marked.block.text

/-- Nothing, or a point and one digit or more. -/
inductive IsFraction : List Char → Prop
  | none : IsFraction []
  | digits {text : List Char} (digits : AreDigits text) : IsFraction ('.' :: text)

/-- How far a time is from universal time. -/
inductive Offset where
  | zero (letter : MarkedBlock ['Z', 'z'] 0)
  | distance (hours : MarkedBlock ['+', '-'] 2) (minutes : MarkedBlock [':'] 2)

def Offset.text : Offset → List Char
  | .zero letter => letter.text
  | .distance hours minutes => hours.text ++ minutes.text

/-- The parts of a timestamp: a date, a time of day and an offset.  Digits may stand for any
number. -/
structure Timestamp where
  year : DigitBlock 4
  month : MarkedBlock ['-'] 2
  day : MarkedBlock ['-'] 2
  hour : MarkedBlock ['T', 't', ' '] 2
  minute : MarkedBlock [':'] 2
  second : MarkedBlock [':'] 2
  fraction : Subtype IsFraction
  offset : Offset

def Timestamp.text (stamp : Timestamp) : List Char :=
  stamp.year.text ++ (stamp.month.text ++ (stamp.day.text ++ (stamp.hour.text ++
    (stamp.minute.text ++ (stamp.second.text ++ (stamp.fraction.val ++ stamp.offset.text))))))

theorem dropDigits?_eq_some_iff {count : Nat} {text rest : List Char} :
    dropDigits? count text = some rest ↔ ∃ block : DigitBlock count, text = block.text ++ rest := by
  induction count generalizing text with
  | zero =>
      constructor
      · intro hdrop
        cases hdrop
        exact ⟨⟨[], rfl, nofun⟩, rfl⟩
      · rintro ⟨⟨block, hlength, -⟩, rfl⟩
        obtain rfl := List.length_eq_zero_iff.mp hlength
        rfl
  | succ count ih =>
      constructor
      · intro hdrop
        cases text with
        | nil => cases hdrop
        | cons c text =>
            rw [dropDigits?] at hdrop
            split at hdrop
            · next hc =>
                obtain ⟨⟨block, hlength, hdigits⟩, rfl⟩ := ih.mp hdrop
                exact ⟨⟨c :: block, congrArg (· + 1) hlength, by simpa [hc] using hdigits⟩, rfl⟩
            · cases hdrop
      · rintro ⟨⟨block, hlength, hdigits⟩, rfl⟩
        cases block with
        | nil => cases hlength
        | cons c block =>
            rw [List.cons_append, dropDigits?, if_pos (hdigits c List.mem_cons_self)]
            apply ih.mpr
            exact ⟨⟨block, Nat.succ.inj hlength, fun c hc => hdigits c (List.mem_cons_of_mem _ hc)⟩,
              rfl⟩

theorem dropMark?_eq_some_iff {marks text rest : List Char} :
    dropMark? marks text = some rest ↔ ∃ c ∈ marks, text = c :: rest := by
  cases text with
  | nil => simp [dropMark?]
  | cons c text => simp [dropMark?]

theorem dropMarked?_eq_some_iff {marks : List Char} {count : Nat} {text rest : List Char} :
    dropMarked? marks count text = some rest ↔
      ∃ marked : MarkedBlock marks count, text = marked.text ++ rest := by
  simp only [dropMarked?, Option.bind_eq_bind, Option.bind_eq_some_iff, dropMark?_eq_some_iff,
    dropDigits?_eq_some_iff]
  constructor
  · rintro ⟨_, ⟨mark, hmark, rfl⟩, block, rfl⟩
    exact ⟨⟨mark, hmark, block⟩, rfl⟩
  · rintro ⟨⟨mark, hmark, block⟩, rfl⟩
    exact ⟨_, ⟨mark, hmark, rfl⟩, block, rfl⟩

theorem exists_of_dropFraction? {text rest : List Char} (hdrop : dropFraction? text = some rest) :
    ∃ fraction : Subtype IsFraction, text = fraction.val ++ rest := by
  unfold dropFraction? at hdrop
  split at hdrop
  · next c tail =>
      split at hdrop
      · next hc =>
          obtain rfl := Option.some.inj hdrop
          have hdigits : AreDigits (c :: tail.takeWhile isDecimalDigit) := by
            refine ⟨List.cons_ne_nil _ _, ?_⟩
            intro digit hdigit
            rcases List.mem_cons.mp hdigit with rfl | hdigit
            · exact hc
            · exact List.mem_takeWhile_imp hdigit
          refine ⟨⟨_, .digits hdigits⟩, ?_⟩
          simp
      · cases hdrop
  · cases hdrop
  · obtain rfl := Option.some.inj hdrop
    exact ⟨⟨[], .none⟩, rfl⟩

/-- A fraction ends where no digit follows. -/
theorem dropFraction?_append (fraction : Subtype IsFraction) {rest : List Char}
    (hdigit : ∀ c ∈ rest.head?, isDecimalDigit c = false) (hpoint : ∀ c ∈ rest.head?, c ≠ '.') :
    dropFraction? (fraction.val ++ rest) = some rest := by
  obtain ⟨fraction, hfraction⟩ := fraction
  cases hfraction with
  | none =>
      unfold dropFraction?
      split
      · next heq =>
          exact absurd rfl (hpoint '.' (by simpa using congrArg List.head? heq))
      · next heq =>
          exact absurd rfl (hpoint '.' (by simpa using congrArg List.head? heq))
      · rfl
  | @digits text hdigits =>
      cases text with
      | nil => exact absurd rfl hdigits.nonempty
      | cons c text =>
          have htext : ∀ digit ∈ text, isDecimalDigit digit = true :=
            fun digit hmem => hdigits.digits digit (List.mem_cons_of_mem _ hmem)
          rw [List.cons_append, List.cons_append, dropFraction?,
            if_pos (hdigits.digits c List.mem_cons_self), dropWhile_append_eq htext hdigit]

theorem isOffset_iff {text : List Char} :
    isOffset text = true ↔ ∃ offset : Offset, offset.text = text := by
  simp only [isOffset, Bool.or_eq_true, beq_iff_eq, Option.bind_eq_bind, Option.bind_eq_some_iff,
    dropMark?_eq_some_iff, dropMarked?_eq_some_iff]
  constructor
  · rintro (⟨letter, hletter, rfl⟩ | ⟨_, ⟨hours, rfl⟩, minutes, rfl⟩)
    · exact ⟨.zero ⟨letter, hletter, ⟨[], rfl, nofun⟩⟩, rfl⟩
    · exact ⟨.distance hours minutes, by rw [Offset.text, List.append_nil]⟩
  · rintro ⟨offset, rfl⟩
    cases offset with
    | zero letter =>
        obtain ⟨letter, hletter, block, hlength, -⟩ := letter
        obtain rfl := List.length_eq_zero_iff.mp hlength
        exact Or.inl ⟨letter, hletter, rfl⟩
    | distance hours minutes =>
        exact Or.inr ⟨_, ⟨hours, rfl⟩, minutes, (List.append_nil _).symm⟩

/-- An offset starts with a letter or a sign. -/
theorem Offset.head?_text (offset : Offset) :
    ∃ c ∈ ['Z', 'z', '+', '-'], offset.text.head? = some c := by
  cases offset with
  | zero letter =>
      exact ⟨letter.mark, List.mem_append_left ['+', '-'] letter.mark_mem, rfl⟩
  | distance hours minutes =>
      exact ⟨hours.mark, List.mem_append_right ['Z', 'z'] hours.mark_mem, rfl⟩

theorem isTimestamp_iff {text : List Char} :
    isTimestamp text = true ↔ ∃ stamp : Timestamp, stamp.text = text := by
  simp only [isTimestamp, Option.any_eq_true, Option.bind_eq_bind, Option.bind_eq_some_iff,
    dropDigits?_eq_some_iff, dropMarked?_eq_some_iff, isOffset_iff]
  constructor
  · rintro ⟨_, ⟨_, ⟨year, rfl⟩, _, ⟨month, rfl⟩, _, ⟨day, rfl⟩, _, ⟨hour, rfl⟩, _, ⟨minute, rfl⟩, _,
      ⟨second, rfl⟩, hfraction⟩, offset, rfl⟩
    obtain ⟨fraction, rfl⟩ := exists_of_dropFraction? hfraction
    exact ⟨⟨year, month, day, hour, minute, second, fraction, offset⟩, rfl⟩
  · rintro ⟨⟨year, month, day, hour, minute, second, fraction, offset⟩, rfl⟩
    have hfraction : dropFraction? (fraction.val ++ offset.text) = some offset.text := by
      obtain ⟨first, hfirst, hhead⟩ := offset.head?_text
      rw [List.mem_cons, List.mem_cons, List.mem_cons, List.mem_singleton] at hfirst
      apply dropFraction?_append
      · rintro c hc
        obtain rfl := Option.some.inj (hhead.symm.trans hc)
        rcases hfirst with rfl | rfl | rfl | rfl <;> decide
      · rintro c hc rfl
        obtain rfl := Option.some.inj (hhead.symm.trans hc)
        rcases hfirst with hfirst | hfirst | hfirst | hfirst <;> cases hfirst
    exact ⟨_, ⟨_, ⟨year, rfl⟩, _, ⟨month, rfl⟩, _, ⟨day, rfl⟩, _, ⟨hour, rfl⟩, _, ⟨minute, rfl⟩, _,
      ⟨second, rfl⟩, hfraction⟩, offset, rfl⟩

/-! ## Web addresses -/

/-- One of two schemes and what it gives access to, of more than ten bytes together. -/
structure IsWebAddress (text : List Char) : Prop where
  scheme : ∃ rest, text = "http://".toList ++ rest ∨ text = "https://".toList ++ rest
  long : 10 < (String.ofList text).utf8ByteSize

theorem foldl_add_utf8Size (start : Nat) (text : List Char) :
    text.foldl (fun count c => count + c.utf8Size) start =
      start + (String.ofList text).utf8ByteSize := by
  induction text generalizing start with
  | nil => rfl
  | cons c text ih =>
      rw [List.foldl_cons, ih, String.ofList_cons, String.utf8ByteSize_append,
        String.utf8ByteSize_singleton, Nat.add_assoc]

theorem byteCount_eq (text : List Char) : byteCount text = (String.ofList text).utf8ByteSize :=
  (foldl_add_utf8Size 0 text).trans (Nat.zero_add _)

theorem isUrl_iff {text : List Char} :
    isUrl text = true ↔ ∃ core, Trims text core ∧ IsWebAddress core := by
  simp only [trims_iff, exists_eq_left']
  rw [isUrl, Bool.and_eq_true, Bool.or_eq_true, List.isPrefixOf_iff_prefix,
    List.isPrefixOf_iff_prefix, decide_eq_true_eq, byteCount_eq]
  constructor
  · rintro ⟨⟨rest, hrest⟩ | ⟨rest, hrest⟩, hlong⟩
    · exact ⟨⟨rest, Or.inl hrest.symm⟩, hlong⟩
    · exact ⟨⟨rest, Or.inr hrest.symm⟩, hlong⟩
  · rintro ⟨⟨rest, hrest | hrest⟩, hlong⟩
    · exact ⟨Or.inl ⟨rest, hrest.symm⟩, hlong⟩
    · exact ⟨Or.inr ⟨rest, hrest.symm⟩, hlong⟩

end QueryShape.Text

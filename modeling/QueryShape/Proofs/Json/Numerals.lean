import QueryShape.Proofs.Json.Texts
import QueryShape.Proofs.Text.Extent

/-!
# Reading numbers from their texts

A number ends where no character of a number follows, so what is read of a number does not depend on
what comes after it.  A natural number of at most 64 bits is read from its text.
-/

namespace QueryShape.Json

open Text (takeWhile_append_of_head dropWhile_append_of_head)

/-- Only what has neither a fraction nor an exponent is an integer. -/
theorem Number.plain_of_ofDigits? {negative : Bool} {whole fraction : List Char} {exponent : Int}
    {plain : Bool} {value : Int}
    (hdigits : ofDigits? negative whole fraction exponent plain = some (.integer value)) :
    plain = true := by
  cases plain with
  | true => rfl
  | false =>
      obtain ⟨x, -, hfloat⟩ := Option.map_eq_some_iff.mp hdigits
      cases hfloat

namespace Token

/-! ## What follows a number -/

theorem exponentSign_of_ne {c : Char} (hplus : c ≠ '+') (hminus : c ≠ '-') (rest : List Char) :
    exponentSign (c :: rest) = (false, c :: rest) := by
  unfold exponentSign
  split
  · next heq => exact absurd (List.cons.inj heq).1 hplus
  · next heq => exact absurd (List.cons.inj heq).1 hminus
  · rfl

theorem exponentSign_append {text : List Char} (htext : text ≠ []) (rest : List Char) :
    exponentSign (text ++ rest) = ((exponentSign text).1, (exponentSign text).2 ++ rest) := by
  cases text with
  | nil => exact absurd rfl htext
  | cons c text =>
      by_cases hplus : c = '+'
      · subst hplus
        rfl
      · by_cases hminus : c = '-'
        · subst hminus
          rfl
        · rw [List.cons_append, exponentSign_of_ne hplus hminus, exponentSign_of_ne hplus hminus]
          rfl

theorem finishFraction_of_letter {c : Char} (hc : c = 'e' ∨ c = 'E') (negative : Bool)
    (whole fraction : List Char) (plain : Bool) (text : List Char) :
    finishFraction negative whole fraction plain (c :: text) =
      match scanExponent text with
      | (.ok exponent, rest) => finishNumber negative whole fraction exponent false rest
      | (.error flaw, rest) => (.error flaw, rest) := by
  rcases hc with rfl | rfl <;> rfl

theorem finishFraction_of_head {text : List Char} (htext : ∀ c ∈ text.head?, c ≠ 'e' ∧ c ≠ 'E')
    (negative : Bool) (whole fraction : List Char) (plain : Bool) :
    finishFraction negative whole fraction plain text =
      finishNumber negative whole fraction 0 plain text := by
  unfold finishFraction
  split
  · exact absurd rfl (htext 'e' rfl).1
  · exact absurd rfl (htext 'E' rfl).2
  · rfl

theorem finishWhole_of_head {text : List Char} (htext : ∀ c ∈ text.head?, c ≠ '.')
    (negative : Bool) (whole : List Char) :
    finishWhole negative whole text = finishFraction negative whole [] true text := by
  unfold finishWhole
  split
  · exact absurd rfl (htext '.' rfl)
  · rfl

theorem exists_letter_of_head {text : List Char}
    (htext : ¬∀ c ∈ text.head?, c ≠ 'e' ∧ c ≠ 'E') :
    ∃ c rest, text = c :: rest ∧ (c = 'e' ∨ c = 'E') := by
  cases text with
  | nil => simp at htext
  | cons c rest => exact ⟨c, rest, rfl, by simpa [Decidable.or_iff_not_imp_left] using htext⟩

theorem exists_point_of_head {text : List Char} (htext : ¬∀ c ∈ text.head?, c ≠ '.') :
    ∃ rest, text = '.' :: rest := by
  cases text with
  | nil => simp at htext
  | cons c rest => exact ⟨rest, by simpa using htext⟩

/-- What may not start a text that follows a number may not start the two together. -/
theorem forall_mem_head?_append {Allowed : Char → Prop} {text rest : List Char}
    (htext : ∀ c ∈ text.head?, Allowed c) (hrest : ∀ c ∈ rest.head?, Allowed c) :
    ∀ c ∈ (text ++ rest).head?, Allowed c := by
  cases text with
  | nil => exact hrest
  | cons c text => exact htext

theorem finishNumber_eq_ok_iff {negative : Bool} {whole fraction : List Char} {exponent : Int}
    {plain : Bool} {rest after : List Char} {number : Number} :
    finishNumber negative whole fraction exponent plain rest = (.ok number, after) ↔
      Number.ofDigits? negative whole fraction exponent plain = some number ∧ rest = after := by
  unfold finishNumber
  split
  · simp_all
  · simp_all

section

variable {rest : List Char} (hrest : Delimited rest) {negative : Bool} {text after : List Char}
include hrest

theorem finishExponent_append {exponent : Int}
    (hscan : finishExponent negative text = (.ok exponent, after)) :
    finishExponent negative (text ++ rest) = (.ok exponent, after ++ rest) := by
  have hdigits : ∀ c ∈ rest.head?, c.isDigit = false := fun c hc => (hrest c hc).1
  rw [finishExponent] at hscan ⊢
  rw [takeWhile_append_of_head hdigits, dropWhile_append_of_head hdigits]
  split at hscan
  · cases hscan
  · next hsome =>
      rw [if_neg hsome]
      cases hscan
      rfl

theorem scanExponent_append {exponent : Int}
    (hscan : scanExponent text = (.ok exponent, after)) :
    scanExponent (text ++ rest) = (.ok exponent, after ++ rest) := by
  rw [scanExponent] at hscan ⊢
  have htext : text ≠ [] := by
    rintro rfl
    cases hscan
  rw [exponentSign_append htext]
  exact finishExponent_append hrest hscan

theorem finishFraction_append {whole fraction : List Char} {plain : Bool} {number : Number}
    (hscan : finishFraction negative whole fraction plain text = (.ok number, after)) :
    finishFraction negative whole fraction plain (text ++ rest) = (.ok number, after ++ rest) := by
  by_cases htext : ∀ c ∈ text.head?, c ≠ 'e' ∧ c ≠ 'E'
  · have hboth := forall_mem_head?_append htext fun c hc => (hrest c hc).2.2
    rw [finishFraction_of_head htext] at hscan
    rw [finishFraction_of_head hboth]
    obtain ⟨hnumber, rfl⟩ := finishNumber_eq_ok_iff.mp hscan
    exact finishNumber_eq_ok_iff.mpr ⟨hnumber, rfl⟩
  · obtain ⟨c, text, rfl, hletter⟩ := exists_letter_of_head htext
    rw [finishFraction_of_letter hletter] at hscan
    rw [List.cons_append, finishFraction_of_letter hletter]
    cases hexponent : scanExponent text with
    | mk exponent remaining =>
        rw [hexponent] at hscan
        cases exponent with
        | error flaw => cases hscan
        | ok exponent =>
            rw [scanExponent_append hrest hexponent]
            obtain ⟨hnumber, rfl⟩ := finishNumber_eq_ok_iff.mp hscan
            exact finishNumber_eq_ok_iff.mpr ⟨hnumber, rfl⟩

theorem finishWhole_append {whole : List Char} {number : Number}
    (hscan : finishWhole negative whole text = (.ok number, after)) :
    finishWhole negative whole (text ++ rest) = (.ok number, after ++ rest) := by
  by_cases htext : ∀ c ∈ text.head?, c ≠ '.'
  · have hboth := forall_mem_head?_append htext fun c hc => (hrest c hc).2.1
    rw [finishWhole_of_head htext] at hscan
    rw [finishWhole_of_head hboth]
    exact finishFraction_append hrest hscan
  · obtain ⟨text, rfl⟩ := exists_point_of_head htext
    rw [finishWhole] at hscan
    rw [List.cons_append, finishWhole]
    have hdigits : ∀ c ∈ rest.head?, c.isDigit = false := fun c hc => (hrest c hc).1
    rw [takeWhile_append_of_head hdigits, dropWhile_append_of_head hdigits]
    split at hscan
    · cases hscan
    · next hsome =>
        rw [if_neg hsome]
        exact finishFraction_append hrest hscan

theorem scanNumber_append {number : Number}
    (hscan : scanNumber negative text = (.ok number, after)) :
    scanNumber negative (text ++ rest) = (.ok number, after ++ rest) := by
  have hdigits : ∀ c ∈ rest.head?, c.isDigit = false := fun c hc => (hrest c hc).1
  rw [scanNumber] at hscan ⊢
  rw [takeWhile_append_of_head hdigits, dropWhile_append_of_head hdigits]
  split at hscan
  · cases hscan
  · next hsome =>
      rw [if_neg hsome]
      split at hscan
      · cases hscan
      · next hzero =>
          rw [if_neg hzero]
          exact finishWhole_append hrest hscan

end

/-! ## What a number is made of -/

section

variable {negative : Bool} {text after : List Char}

theorem scanExponent_suffix {exponent : Int} (hscan : scanExponent text = (.ok exponent, after)) :
    after <:+ text := by
  have hsign : (exponentSign text).2 <:+ text := by
    unfold exponentSign
    split
    · exact List.suffix_cons _ _
    · exact List.suffix_cons _ _
    · exact List.suffix_rfl
  rw [scanExponent, finishExponent] at hscan
  split at hscan
  · cases hscan
  · cases hscan
    exact (List.dropWhile_suffix _).trans hsign

theorem finishFraction_eq_ok {whole fraction : List Char} {plain : Bool} {number : Number}
    (hscan : finishFraction negative whole fraction plain text = (.ok number, after)) :
    ∃ exponent plainly, Number.ofDigits? negative whole fraction exponent plainly = some number ∧
      after <:+ text ∧ (plainly = true → plain = true ∧ after = text) := by
  by_cases htext : ∀ c ∈ text.head?, c ≠ 'e' ∧ c ≠ 'E'
  · rw [finishFraction_of_head htext] at hscan
    obtain ⟨hnumber, rfl⟩ := finishNumber_eq_ok_iff.mp hscan
    exact ⟨0, plain, hnumber, List.suffix_rfl, fun hplain => ⟨hplain, rfl⟩⟩
  · obtain ⟨c, text, rfl, hletter⟩ := exists_letter_of_head htext
    rw [finishFraction_of_letter hletter] at hscan
    cases hexponent : scanExponent text with
    | mk exponent remaining =>
        rw [hexponent] at hscan
        cases exponent with
        | error flaw => cases hscan
        | ok exponent =>
            obtain ⟨hnumber, rfl⟩ := finishNumber_eq_ok_iff.mp hscan
            exact ⟨exponent, false, hnumber,
              (scanExponent_suffix hexponent).trans (List.suffix_cons _ _), nofun⟩

theorem finishWhole_eq_ok {whole : List Char} {number : Number}
    (hscan : finishWhole negative whole text = (.ok number, after)) :
    ∃ fraction exponent plain,
      Number.ofDigits? negative whole fraction exponent plain = some number ∧
        after <:+ text ∧ (plain = true → after = text) := by
  by_cases htext : ∀ c ∈ text.head?, c ≠ '.'
  · rw [finishWhole_of_head htext] at hscan
    obtain ⟨exponent, plain, hnumber, hafter, hplain⟩ := finishFraction_eq_ok hscan
    exact ⟨[], exponent, plain, hnumber, hafter, fun htrue => (hplain htrue).2⟩
  · obtain ⟨text, rfl⟩ := exists_point_of_head htext
    rw [finishWhole] at hscan
    split at hscan
    · cases hscan
    · obtain ⟨exponent, plain, hnumber, hafter, hplain⟩ := finishFraction_eq_ok hscan
      refine ⟨_, exponent, plain, hnumber, ?_, fun htrue => ?_⟩
      · exact hafter.trans ((List.dropWhile_suffix _).trans (List.suffix_cons _ _))
      · cases (hplain htrue).1

/-- A number is made of digits, and ends within the text; without a fraction and an exponent, it
ends where its first digits end. -/
theorem scanNumber_eq_ok {number : Number}
    (hscan : scanNumber negative text = (.ok number, after)) :
    ∃ whole fraction exponent plain,
      Number.ofDigits? negative whole fraction exponent plain = some number ∧
        after <:+ text ∧ (plain = true → after = text.dropWhile Char.isDigit) := by
  rw [scanNumber] at hscan
  split at hscan
  · cases hscan
  · split at hscan
    · cases hscan
    · obtain ⟨fraction, exponent, plain, hnumber, hafter, hplain⟩ := finishWhole_eq_ok hscan
      exact ⟨_, fraction, exponent, plain, hnumber, hafter.trans (List.dropWhile_suffix _), hplain⟩

end

/-! ## The token of a number -/

theorem numberToken_eq_iff {scanned : Except Flaw Number × List Char} {number : Number}
    {after : List Char} :
    numberToken scanned = (.scalar (.number number), after) ↔ scanned = (.ok number, after) := by
  obtain ⟨_ | value, rest⟩ := scanned <;> simp [numberToken]

theorem next_minus (rest : List Char) : next '-' rest = numberToken (scanNumber true rest) := rfl

theorem next_of_isDigit {c : Char} (hdigit : c.isDigit = true) (rest : List Char) :
    next c rest = numberToken (scanNumber false (c :: rest)) := by
  have hrange : 48 ≤ c.toNat ∧ c.toNat ≤ 57 := by
    simpa [Char.isDigit, UInt32.le_iff_toNat_le] using hdigit
  unfold next
  split
  case h_12 => exact if_pos hdigit
  all_goals exact absurd hrange (by decide)

/-- What is read of a literal name is the value of this name, or a flaw. -/
theorem scanName_cases (value : Document) (opening : Opening) (name rest : List Char) :
    (scanName value opening name rest).1 = value ∨
      ∃ flaw, (scanName value opening name rest).1 = .broken flaw := by
  induction name generalizing rest with
  | nil => exact Or.inl rfl
  | cons expected name ih =>
      cases rest with
      | nil => exact Or.inr ⟨_, rfl⟩
      | cons c rest =>
          rw [scanName]
          split
          · exact ih rest
          · exact Or.inr ⟨_, rfl⟩

theorem scanName_ne_number {value : Document} (hvalue : ∀ number, value ≠ .number number)
    (opening : Opening) (name rest : List Char) (number : Number) :
    (scanName value opening name rest).1 ≠ .number number := by
  rcases scanName_cases value opening name rest with hname | ⟨flaw, hflaw⟩
  · rw [hname]
    exact hvalue number
  · rw [hflaw]
    exact nofun

/-- What does not start with a space is cut at its first token. -/
theorem scan_succ {first : Char} {rest : List Char} (hspace : isSpace first = false)
    (steps : Nat) :
    scan (steps + 1) (first :: rest) =
      (next first rest).1 :: scan steps (next first rest).2 := by
  rw [scan.eq_def, List.dropWhile_cons_of_neg (by simp [hspace])]

/-- Only what starts with a digit or a minus sign can be a number. -/
theorem isDigit_or_minus_of_next {c : Char} {rest after : List Char} {number : Number}
    (hnext : next c rest = (.scalar (.number number), after)) : c.isDigit = true ∨ c = '-' := by
  unfold next at hnext
  split at hnext
  case h_11 => exact Or.inr rfl
  case h_12 =>
    split at hnext
    · next hdigit => exact Or.inl hdigit
    · cases hnext
  case h_8 | h_9 | h_10 =>
    obtain ⟨hname, -⟩ := Prod.mk.inj hnext
    exact absurd (Token.scalar.inj hname) (scanName_ne_number (by rintro _ ⟨⟩) _ _ _ _)
  all_goals cases hnext

/-- The digits of a number start at the first character, or after it if this is a minus sign. -/
theorem exists_scanNumber_of_next {c : Char} {rest after : List Char} {number : Number}
    (hnext : next c rest = (.scalar (.number number), after)) :
    ∃ negative text, scanNumber negative text = (.ok number, after) ∧
      text <:+ c :: rest ∧ rest <:+ text := by
  rcases isDigit_or_minus_of_next hnext with hdigit | rfl
  · rw [next_of_isDigit hdigit, numberToken_eq_iff] at hnext
    exact ⟨false, _, hnext, List.suffix_rfl, List.suffix_cons _ _⟩
  · rw [next_minus, numberToken_eq_iff] at hnext
    exact ⟨true, _, hnext, List.suffix_cons _ _, List.suffix_rfl⟩

theorem next_append {c : Char} {rest text after : List Char} {number : Number}
    (hrest : Delimited rest) (hnext : next c text = (.scalar (.number number), after)) :
    next c (text ++ rest) = (.scalar (.number number), after ++ rest) := by
  rcases isDigit_or_minus_of_next hnext with hdigit | rfl
  · rw [next_of_isDigit hdigit, numberToken_eq_iff] at hnext ⊢
    exact scanNumber_append hrest hnext
  · rw [next_minus, numberToken_eq_iff] at hnext ⊢
    exact scanNumber_append hrest hnext

end Token

theorem Token.isSpace_of_isDigit {c : Char} (hdigit : c.isDigit = true) : isSpace c = false := by
  by_contra hspace
  simp only [isSpace, Bool.not_eq_false, Bool.or_eq_true, beq_iff_eq] at hspace
  rcases hspace with ((rfl | rfl) | rfl) | rfl <;> exact absurd hdigit (by decide)

/-- A number is legible if its text alone is read as it. -/
theorem Number.legible_of_next {number : Number} {first : Char} {digits : List Char}
    (htext : number.text.toList = first :: digits)
    (hnext : Token.next first digits = (.scalar (.number number), [])) : number.Legible := by
  refine ⟨first, digits, htext, ?_, fun rest hrest => Token.next_append hrest hnext⟩
  rcases Token.isDigit_or_minus_of_next hnext with hdigit | rfl
  · exact Token.isSpace_of_isDigit hdigit
  · rfl

/-! ## Natural numbers -/

theorem head?_toDigits_ne {value : Nat} (hvalue : value ≠ 0) :
    (Nat.toDigits 10 value).head? ≠ some '0' := by
  induction value using Nat.strong_induction_on with
  | _ value ih =>
      by_cases hone : value < 10
      · rw [Nat.toDigits_of_lt_base hone]
        simpa [Nat.digitChar_eq_zero] using hvalue
      · rw [Nat.toDigits_of_base_le (by decide) (by omega),
          List.head?_append_of_ne_nil _ Nat.toDigits_ne_nil]
        exact ih (value / 10) (by omega) (by omega)

theorem takeWhile_toDigits (value : Nat) :
    (Nat.toDigits 10 value).takeWhile Char.isDigit = Nat.toDigits 10 value :=
  List.takeWhile_eq_self_iff.mpr fun _ hc => Nat.isDigit_of_mem_toDigits (by decide) le_rfl hc

theorem dropWhile_toDigits (value : Nat) :
    (Nat.toDigits 10 value).dropWhile Char.isDigit = [] :=
  List.dropWhile_eq_nil_iff.mpr fun _ hc => Nat.isDigit_of_mem_toDigits (by decide) le_rfl hc

theorem foldl_toDigits (value : Nat) :
    (Nat.toDigits 10 value).foldl (fun sum digit => sum * 10 + (digit.toNat - '0'.toNat)) 0 =
      value := by
  have hread := Nat.ofDigitChars_toDigits (n := value) (by decide : 1 < 10) le_rfl
  simpa only [Nat.ofDigitChars, Nat.mul_comm] using hread

/-- The digits of a number are read up to where they end. -/
theorem scanNumber_digits {rest : List Char} (hrest : ∀ c ∈ rest.head?, c.isDigit = false)
    (negative : Bool) (value : Nat) :
    Token.scanNumber negative (Nat.toDigits 10 value ++ rest) =
      Token.finishWhole negative (Nat.toDigits 10 value) rest := by
  have hzero : ¬((Nat.toDigits 10 value).head? = some '0' ∧
      1 < (Nat.toDigits 10 value).length) := by
    rintro ⟨hhead, hlength⟩
    by_cases hvalue : value = 0
    · subst hvalue
      exact absurd hlength (by decide)
    · exact head?_toDigits_ne hvalue hhead
  have hsome : ¬(Nat.toDigits 10 value).isEmpty = true := by simp
  rw [Token.scanNumber, takeWhile_append_of_head hrest, dropWhile_append_of_head hrest,
    takeWhile_toDigits, dropWhile_toDigits, if_neg hsome, if_neg hzero, List.nil_append]

theorem scanNumber_toDigits {value : Nat} (hvalue : value < 2 ^ 64) :
    Token.scanNumber false (Nat.toDigits 10 value) = (.ok (.integer value), []) := by
  have hdigits := @scanNumber_digits [] nofun false value
  rw [List.append_nil] at hdigits
  have hnumber : Number.ofDigits? false (Nat.toDigits 10 value) [] 0 true =
      some (.integer value) := by
    rw [Number.ofDigits?, foldl_toDigits]
    exact if_pos (by simpa using hvalue)
  rw [hdigits]
  exact Token.finishNumber_eq_ok_iff.mpr ⟨hnumber, rfl⟩

/-- A natural number of at most 64 bits is read from its text. -/
theorem Number.legible_integer {value : Nat} (hvalue : value < 2 ^ 64) :
    (Number.integer value).Legible := by
  have hscan := scanNumber_toDigits hvalue
  obtain ⟨first, digits, hdigits⟩ := List.exists_cons_of_ne_nil (Nat.toDigits_ne_nil (n := value))
  have htext : (Number.integer value).text.toList = first :: digits := by
    rw [← hdigits]
    exact Nat.toList_repr
  have hfirst : first.isDigit = true :=
    Nat.isDigit_of_mem_toDigits (by decide) le_rfl (hdigits ▸ List.mem_cons_self)
  apply legible_of_next htext
  rw [Token.next_of_isDigit hfirst, Token.numberToken_eq_iff, ← hdigits, hscan]

end QueryShape.Json

import QueryShape.Proofs.Json.Numerals
import QueryShape.Proofs.Number.WholeNumbers

/-!
# Reading floating-point numbers from their texts

A floating-point number is written with the fewest digits that stand for it, and its reader rounds
more than once on the way, so whether the number comes back from its text depends on the number.  If
it does when it stands alone, it does so in every document.
-/

namespace QueryShape

open Json (Document Token)

namespace Decimal

theorem isDigit_of_mem_digitChars {decimal : Decimal} {c : Char} (hc : c ∈ decimal.digitChars) :
    c.isDigit = true :=
  Nat.isDigit_of_mem_toDigits (by decide) le_rfl hc

theorem isDigit_or_point_of_mem_positional {decimal : Decimal} {c : Char}
    (hc : c ∈ decimal.positional) : c.isDigit = true ∨ c = '.' := by
  unfold positional at hc
  split at hc
  · rcases List.mem_append.mp hc with hdigit | hzero
    · exact Or.inl (isDigit_of_mem_digitChars hdigit)
    · rw [List.eq_of_mem_replicate hzero]
      exact Or.inl rfl
  · have hpadded : ∀ zeros, c ∈ List.replicate zeros '0' ++ decimal.digitChars →
        c.isDigit = true := by
      intro zeros hmem
      rcases List.mem_append.mp hmem with hzero | hdigit
      · rw [List.eq_of_mem_replicate hzero]
        rfl
      · exact isDigit_of_mem_digitChars hdigit
    rcases List.mem_append.mp hc with hbefore | hafter
    · exact Or.inl (hpadded _ (List.mem_of_mem_take hbefore))
    · rcases List.mem_cons.mp hafter with rfl | hafter
      · exact Or.inr rfl
      · exact Or.inl (hpadded _ (List.mem_of_mem_drop hafter))

/-- The digits with a point after the first one, if there are others. -/
theorem isDigit_or_point_of_mem_pointed {decimal : Decimal} {c : Char}
    (hc : c ∈ (match decimal.digitChars with
      | [] => []
      | [digit] => [digit]
      | digit :: others => digit :: '.' :: others)) : c.isDigit = true ∨ c = '.' := by
  have hdigits : ∀ d ∈ decimal.digitChars, d.isDigit = true := fun d => isDigit_of_mem_digitChars
  split at hc
  · cases hc
  · next digit heq =>
      rw [heq] at hdigits
      exact Or.inl (hdigits c hc)
  · next digit others _ heq =>
      rw [heq] at hdigits
      rcases List.mem_cons.mp hc with rfl | hc
      · exact Or.inl (hdigits c List.mem_cons_self)
      · rcases List.mem_cons.mp hc with rfl | hc
        · exact Or.inr rfl
        · exact Or.inl (hdigits c (List.mem_cons_of_mem _ hc))

theorem point_mem_positional {decimal : Decimal} (hexponent : decimal.exponent < 0) :
    '.' ∈ decimal.positional := by
  unfold positional
  split
  · next zeros hzeros =>
      rw [hzeros] at hexponent
      exact absurd hexponent (Int.not_lt.mpr (Int.natCast_nonneg zeros))
  · exact List.mem_append_right _ List.mem_cons_self

end Decimal

namespace Binary

theorem isDigit_or_mem_of_mem_scientificText {x : Binary} {c : Char}
    (hc : c ∈ x.scientificText.toList) : c.isDigit = true ∨ c ∈ ['-', '.', 'e', '+'] := by
  rw [scientificText, String.toList_ofList] at hc
  rcases List.mem_append.mp hc with hsign | hbody
  · unfold signChars at hsign
    split at hsign
    · exact Or.inr (List.mem_singleton.mp hsign ▸ List.mem_cons_self)
    · cases hsign
  · split at hbody
    · rcases List.mem_append.mp hbody with hdigits | hpoint
      · rcases Decimal.isDigit_or_point_of_mem_positional hdigits with hdigit | rfl
        · exact Or.inl hdigit
        · exact Or.inr (by decide)
      · split at hpoint
        · rcases List.mem_pair.mp hpoint with rfl | rfl
          · exact Or.inr (by decide)
          · exact Or.inl rfl
        · cases hpoint
    · rcases List.mem_append.mp hbody with hdigits | hexponent
      · rcases Decimal.isDigit_or_point_of_mem_pointed hdigits with hdigit | rfl
        · exact Or.inl hdigit
        · exact Or.inr (by decide)
      · rcases List.mem_cons.mp hexponent with rfl | hexponent
        · exact Or.inr (by decide)
        · rcases List.mem_cons.mp hexponent with rfl | hdigit
          · split <;> exact Or.inr (by decide)
          · exact Or.inl (Nat.isDigit_of_mem_toDigits (by decide) le_rfl hdigit)

theorem point_or_letter_mem_scientificText (x : Binary) :
    '.' ∈ x.scientificText.toList ∨ 'e' ∈ x.scientificText.toList := by
  rw [scientificText, String.toList_ofList]
  split
  · refine Or.inl (List.mem_append_right _ ?_)
    by_cases hexponent : (shortest .even x.units).exponent < 0
    · exact List.mem_append_left _ (Decimal.point_mem_positional hexponent)
    · rw [if_pos (Int.not_lt.mp hexponent)]
      exact List.mem_append_right _ List.mem_cons_self
  · exact Or.inr (List.mem_append_right _ (List.mem_append_right _ List.mem_cons_self))

theorem isSpace_of_mem_scientificText {x : Binary} {c : Char}
    (hc : c ∈ x.scientificText.toList) : Token.isSpace c = false := by
  rcases isDigit_or_mem_of_mem_scientificText hc with hdigit | hmem
  · exact Token.isSpace_of_isDigit hdigit
  · simp only [List.mem_cons, List.not_mem_nil, or_false] at hmem
    rcases hmem with rfl | rfl | rfl | rfl <;> rfl

/-- What starts like a floating-point number is the token of a number or of a flaw. -/
theorem next_of_mem_scientificText {x : Binary} {c : Char} (hc : c ∈ x.scientificText.toList)
    (rest : List Char) :
    (∃ number, (Token.next c rest).1 = .scalar (.number number)) ∨
      ∃ flaw, (Token.next c rest).1 = .scalar (.broken flaw) := by
  have htoken : ∀ scanned, (∃ number, (Token.numberToken scanned).1 = .scalar (.number number)) ∨
      ∃ flaw, (Token.numberToken scanned).1 = .scalar (.broken flaw) := by
    rintro ⟨flaw | number, after⟩
    · exact Or.inr ⟨_, rfl⟩
    · exact Or.inl ⟨number, rfl⟩
  rcases isDigit_or_mem_of_mem_scientificText hc with hdigit | hmem
  · rw [Token.next_of_isDigit hdigit]
    exact htoken _
  · simp only [List.mem_cons, List.not_mem_nil, or_false] at hmem
    rcases hmem with rfl | rfl | rfl | rfl
    · exact htoken _
    all_goals exact Or.inr ⟨_, rfl⟩

theorem run_number (number : Json.Number) (tokens : List Token) :
    Json.Assembly.run (.value []) (.scalar (.number number) :: tokens) =
      (.number number, !tokens.isEmpty) := by
  cases tokens <;> rfl

theorem run_broken (flaw : Json.Flaw) (tokens : List Token) :
    (Json.Assembly.run (.value []) (.scalar (.broken flaw) :: tokens)).1 = .broken flaw := by
  by_cases hskipped : flaw.skipped.isSome = true <;>
    simp [Json.Assembly.run, Json.Assembly.State.next, Json.Assembly.startValue, hskipped,
      Json.Assembly.enclose, Json.Assembly.deliver]

/-- From a text that starts with the token of a number, only this number is read, and only if there
is no other token. -/
theorem eq_of_readText {text : String} {token : Token} {tokens : List Token} {x : Double}
    (htokens : Json.tokens text = token :: tokens)
    (htoken : (∃ number, token = .scalar (.number number)) ∨
      ∃ flaw, token = .scalar (.broken flaw))
    (hread : Json.readText (fun _ => Document.readDouble) text = .ok x) :
    tokens = [] ∧ ∃ number : Json.Number,
      token = .scalar (.number number) ∧ number.toDouble = x := by
  rw [Json.readText, Document.ofText, htokens] at hread
  rcases htoken with ⟨number, rfl⟩ | ⟨flaw, rfl⟩
  · rw [run_number] at hread
    cases tokens with
    | nil =>
        cases hread
        exact ⟨rfl, number, rfl, rfl⟩
    | cons other tokens => cases hread
  · have hbroken := run_broken flaw tokens
    generalize Json.Assembly.run (.value []) (.scalar (.broken flaw) :: tokens) = result
      at hread hbroken
    obtain ⟨document, followed⟩ := result
    subst hbroken
    cases hread

/-- After a sign or a digit, the text has a point or a letter. -/
theorem exists_mem_of_scientificText {x : Binary} {first : Char} {digits : List Char}
    (htext : x.scientificText.toList = first :: digits)
    (hfirst : first.isDigit = true ∨ first = '-') : ∃ c ∈ digits, c.isDigit = false := by
  have hmark := point_or_letter_mem_scientificText x
  rw [htext, List.mem_cons, List.mem_cons] at hmark
  rcases hmark with (rfl | hpoint) | rfl | hletter
  · exact absurd hfirst (by decide)
  · exact ⟨'.', hpoint, rfl⟩
  · exact absurd hfirst (by decide)
  · exact ⟨'e', hletter, rfl⟩

theorem tokens_scientificText {x : Binary} {first : Char} {digits : List Char}
    (htext : x.scientificText.toList = first :: digits) :
    Json.tokens x.scientificText =
      (Token.next first digits).1 :: Token.scan digits.length (Token.next first digits).2 := by
  have hfirst : first ∈ x.scientificText.toList := htext ▸ List.mem_cons_self
  rw [Json.tokens, htext, ← String.length_toList, htext, List.length_cons]
  exact Token.scan_succ (isSpace_of_mem_scientificText hfirst) _

end Binary

/-! ## Reading back -/

namespace Double

/-- The number is read as itself from its text. -/
def ReadsBack (x : Double) : Prop :=
  Json.readText (fun _ => Document.readDouble) (Document.double x).compactText = .ok x

instance (x : Double) : Decidable x.ReadsBack :=
  inferInstanceAs (Decidable (_ = _))

theorem readsBack_finite_iff {x : FiniteDouble} :
    (finite x).ReadsBack ↔
      Json.readText (fun _ => Document.readDouble) x.scientificText = .ok (finite x) := by
  have htext : (Document.double (finite x)).compactText = x.scientificText := String.ofList_toList
  rw [ReadsBack, htext]

/-- A number is read back if its text alone is the token of it. -/
theorem readsBack_of_next {x : FiniteDouble} {first : Char} {digits : List Char}
    (htext : x.scientificText.toList = first :: digits)
    (hnext : Token.next first digits = (.scalar (.number (.float x)), [])) :
    (finite x).ReadsBack := by
  have hnone : ∀ steps, Token.scan steps [] = [] := by
    intro steps
    cases steps <;> rfl
  rw [readsBack_finite_iff, Json.readText, Document.ofText, Binary.tokens_scientificText htext,
    hnext, hnone, Binary.run_number]
  rfl

/-- A number that is read back where its text stands alone is read back wherever its text stands. -/
theorem legible_of_readsBack {x : FiniteDouble} (hx : (finite x).ReadsBack) :
    (Json.Number.float x).Legible := by
  obtain ⟨first, digits, htext⟩ : ∃ first digits, x.scientificText.toList = first :: digits := by
    apply List.exists_cons_of_ne_nil
    rcases Binary.point_or_letter_mem_scientificText x.toBinary with hmem | hmem
    · exact List.ne_nil_of_mem hmem
    · exact List.ne_nil_of_mem hmem
  have hspaces : ∀ c ∈ first :: digits, Token.isSpace c = false := fun c hc =>
    Binary.isSpace_of_mem_scientificText (htext ▸ hc)
  have hfirst : first ∈ x.scientificText.toList := htext ▸ List.mem_cons_self
  obtain ⟨hnone, number, hnumber, hvalue⟩ :=
    Binary.eq_of_readText (Binary.tokens_scientificText htext)
      (Binary.next_of_mem_scientificText hfirst digits) (readsBack_finite_iff.mp hx)
  cases hnext : Token.next first digits with
  | mk token after =>
      rw [hnext] at hnone hnumber
      subst hnumber
      obtain ⟨negative, text, hscan, htextIn, hdigitsIn⟩ := Token.exists_scanNumber_of_next hnext
      obtain ⟨whole, fraction, exponent, plain, hdigits, hafter, hplain⟩ :=
        Token.scanNumber_eq_ok hscan
      obtain ⟨mark, hmark, hdigit⟩ :=
        Binary.exists_mem_of_scientificText htext (Token.isDigit_or_minus_of_next hnext)
      obtain rfl : after = [] := by
        obtain ⟨steps, hsteps⟩ := Nat.exists_eq_succ_of_ne_zero
          (List.length_pos_of_mem hmark).ne'
        cases after with
        | nil => rfl
        | cons c rest =>
            have hspace := hspaces c ((hafter.trans htextIn).subset List.mem_cons_self)
            rw [hsteps, Token.scan_succ hspace] at hnone
            cases hnone
      cases number with
      | integer value =>
          -- Without a fraction and an exponent, all of the text would be digits.
          have hall := List.dropWhile_eq_nil_iff.mp
            (hplain (Json.Number.plain_of_ofDigits? hdigits)).symm
          rw [hall mark (hdigitsIn.subset hmark)] at hdigit
          cases hdigit
      | float y =>
          obtain rfl : y = x := Double.finite.inj hvalue
          exact Json.Number.legible_of_next htext hnext

theorem ReadsBack.legible {x : Double} (hx : x.ReadsBack) : (Document.double x).Legible := by
  cases x with
  | finite x => exact .number (legible_of_readsBack hx)
  | infinite negative => exact .null
  | nan => exact .null

/-- A text without a number is not read as one. -/
theorem ReadsBack.isFinite {x : Double} (hx : x.ReadsBack) : x.isFinite = true := by
  have hnull : ∀ y : Double,
      Json.readText (fun _ => Document.readDouble) Document.null.compactText ≠ .ok y := by
    have herror : (Json.readText (fun _ => Document.readDouble)
        Document.null.compactText).toBool = false := by decide +kernel
    intro y hy
    rw [hy] at herror
    cases herror
  cases x with
  | finite x => rfl
  | infinite negative => exact absurd hx (hnull _)
  | nan => exact absurd hx (hnull _)

end Double

/-! ## Whole numbers -/

namespace Json

theorem le_foldl_digits (digits : List Char) (significand : Nat) :
    significand ≤ digits.foldl (fun sum digit => sum * 10 + (digit.toNat - '0'.toNat))
      significand := by
  induction digits generalizing significand with
  | nil => exact le_rfl
  | cons digit digits ih =>
      have hstep : significand ≤ significand * 10 + (digit.toNat - '0'.toNat) := by omega
      exact hstep.trans (ih _)

/-- Digits that fit the significand together are all taken. -/
theorem gatherDigits_eq {digits : List Char} {significand value : Nat}
    (hvalue : digits.foldl (fun sum digit => sum * 10 + (digit.toNat - '0'.toNat)) significand =
      value) (hroom : value < 2 ^ 64) : gatherDigits significand digits = (value, 0) := by
  induction digits generalizing significand with
  | nil => exact congrArg (·, 0) hvalue
  | cons digit digits ih =>
      have hnext : significand * 10 + (digit.toNat - '0'.toNat) < Nat.pow 2 64 :=
        lt_of_le_of_lt (hvalue ▸ le_foldl_digits digits _) hroom
      rw [gatherDigits, if_pos hnext]
      exact ih hvalue

/-- Ten times the number is a significand, and the quotient by ten is exact. -/
theorem Number.ofDigits?_whole (negative : Bool) {value : Nat} (hvalue : 10 * value ≤ 2 ^ 53) :
    ofDigits? negative (Nat.toDigits 10 value) ['0'] 0 false =
      (Binary.ofNat negative value).finite?.map .float := by
  have hwhole : gatherDigits 0 (Nat.toDigits 10 value) = (value, 0) :=
    gatherDigits_eq (foldl_toDigits value) (by omega)
  have hfraction : gatherDigits value ['0'] = (10 * value, 0) :=
    gatherDigits_eq (Nat.mul_comm value 10) (by omega)
  have hscaled : scaleByTen? negative (10 * value) (Int.negSucc 0) =
      (Binary.ofNat negative value).finite? := by
    simp only [scaleByTen?, Nat.zero_add, Binary.overPowerOfTen_one negative hvalue]
    exact if_pos (by decide)
  simp only [ofDigits?, Bool.false_and, Bool.false_eq_true, if_false, hwhole, hfraction]
  exact congrArg (Option.map Number.float) hscaled

end Json

namespace Double

/-- A whole number that is below the greatest significand also with the zero after its point is
read back. -/
theorem readsBack_ofInt {number : Int} (hnumber : 10 * number.natAbs ≤ 2 ^ 53) :
    (ofInt number).ReadsBack := by
  have hsmall : number.natAbs ≤ 2 ^ 53 := by omega
  obtain ⟨x, hfinite, hsign, hunits⟩ := Binary.exists_finite?_ofNat (number < 0) hsmall
  have hvalue : ofInt number = finite x := Binary.toDouble_of_finite? hfinite
  have hscan : Token.scanNumber (number < 0) (Nat.toDigits 10 number.natAbs ++ ['.', '0']) =
      (.ok (.float x), []) := by
    have hdigits := Json.Number.ofDigits?_whole (number < 0) hnumber
    rw [hfinite] at hdigits
    rw [Json.scanNumber_digits (by simp)]
    exact Token.finishNumber_eq_ok_iff.mpr ⟨hdigits, rfl⟩
  have htext := Binary.scientificText_whole hunits hnumber
  rw [hsign] at htext
  rw [hvalue]
  by_cases hnegative : number < 0
  · rw [decide_eq_true hnegative] at htext hscan
    apply readsBack_of_next htext
    rw [Token.next_minus, Token.numberToken_eq_iff]
    exact hscan
  · rw [decide_eq_false hnegative] at htext hscan
    obtain ⟨first, digits, hdigits⟩ :=
      List.exists_cons_of_ne_nil (Nat.toDigits_ne_nil (n := number.natAbs))
    have hfirst : first.isDigit = true :=
      Nat.isDigit_of_mem_toDigits (by decide) le_rfl (hdigits ▸ List.mem_cons_self)
    rw [hdigits] at htext hscan
    apply readsBack_of_next htext
    rw [Token.next_of_isDigit hfirst, Token.numberToken_eq_iff]
    exact hscan

/-- The digits of `2 ^ 53 - 1` are followed by a zero, and with that zero they are not exact. -/
example : ¬(ofInt 9007199254740991).ReadsBack := by decide +kernel

end Double

end QueryShape

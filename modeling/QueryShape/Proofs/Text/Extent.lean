import Mathlib.Data.List.TakeWhile

/-!
# Where a run of characters ends

Characters of one kind at the start of a text go as far as the first character of another kind, so
they do not depend on what comes after it.
-/

namespace QueryShape.Text

variable {keep : Char → Bool} {text rest : List Char}

theorem takeWhile_append_of_head (hrest : ∀ c ∈ rest.head?, keep c = false) :
    (text ++ rest).takeWhile keep = text.takeWhile keep := by
  induction text with
  | nil =>
      cases rest with
      | nil => rfl
      | cons c rest => simp [hrest c rfl]
  | cons c text ih => by_cases hc : keep c = true <;> simp [hc, ih]

theorem dropWhile_append_of_head (hrest : ∀ c ∈ rest.head?, keep c = false) :
    (text ++ rest).dropWhile keep = text.dropWhile keep ++ rest := by
  induction text with
  | nil =>
      cases rest with
      | nil => rfl
      | cons c rest => simp [hrest c rfl]
  | cons c text ih => by_cases hc : keep c = true <;> simp [hc, ih]

theorem dropWhile_append_eq (htext : ∀ c ∈ text, keep c = true)
    (hrest : ∀ c ∈ rest.head?, keep c = false) : (text ++ rest).dropWhile keep = rest := by
  rw [dropWhile_append_of_head hrest, List.dropWhile_eq_nil_iff.mpr htext, List.nil_append]

theorem eq_false_of_mem_head?_dropWhile : ∀ c ∈ (text.dropWhile keep).head?, keep c = false := by
  intro c hc
  have hhead := List.head?_dropWhile_not keep text
  rwa [Option.mem_def.mp hc] at hhead

/-- A run of characters and what follows it come apart in one way only. -/
theorem append_inj_of_head {left right leftRest rightRest : List Char}
    (hleft : ∀ c ∈ left, keep c = true) (hright : ∀ c ∈ right, keep c = true)
    (hleftRest : ∀ c ∈ leftRest.head?, keep c = false)
    (hrightRest : ∀ c ∈ rightRest.head?, keep c = false)
    (heq : left ++ leftRest = right ++ rightRest) : left = right ∧ leftRest = rightRest := by
  have htake := congrArg (List.takeWhile keep) heq
  rw [takeWhile_append_of_head hleftRest, takeWhile_append_of_head hrightRest,
    List.takeWhile_eq_self_iff.mpr hleft, List.takeWhile_eq_self_iff.mpr hright] at htake
  subst htake
  exact ⟨rfl, List.append_cancel_left heq⟩

end QueryShape.Text
